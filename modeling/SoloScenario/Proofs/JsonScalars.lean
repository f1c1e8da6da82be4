import Mathlib.Data.List.TakeDrop
import SoloScenario.Json.Reading
import SoloScenario.Json.Text

/-! Strings, whole numbers and white space of JSON text, read back. A string is
read up to its own last quote whatever characters it has, and a whole number up to
the first character that does not go on with a number. -/

namespace SoloScenario.Json

open Text

/-! ### Strings -/

theorem fourDigits?_hexDigits {n : Nat} (h : n < 0x10000) (rest : List Char) :
    fourDigits? (hexDigits 4 n ++ rest) = some (n, rest) := by
  have h0 : n / 16 / 16 / 16 % 16 < 16 := by omega
  have h1 : n / 16 / 16 % 16 < 16 := by omega
  have h2 : n / 16 % 16 < 16 := by omega
  have h3 : n % 16 < 16 := by omega
  simp only [hexDigits, List.nil_append, List.cons_append, fourDigits?, List.foldlM_cons,
    List.foldlM_nil, hexDigit?_hexDigit h0, hexDigit?_hexDigit h1, hexDigit?_hexDigit h2,
    hexDigit?_hexDigit h3, Option.map_some, Option.bind_eq_bind, Option.bind_some,
    Option.pure_def, Option.some.injEq, Prod.mk.injEq, and_true]
  omega

theorem numbered?_hexDigits {n : Nat} (h : n < 0xd800) (rest : List Char) :
    numbered? (hexDigits 4 n ++ rest) = some (Char.ofNat n, rest) := by
  simp [numbered?, fourDigits?_hexDigits (show n < 0x10000 by omega), h]

/-- The three forms of a character: a letter for it, its number, or itself. -/
theorem escape_cases (c : Char) :
    (∃ e, e ≠ 'u' ∧ 0x20 ≤ e.toNat ∧ unescape? e = some c ∧ escape c = ['\\', e]) ∨
    (c.toNat < 0x20 ∧ escape c = '\\' :: 'u' :: hexDigits 4 c.toNat) ∨
    (c ≠ '"' ∧ c ≠ '\\' ∧ 0x20 ≤ c.toNat ∧ escape c = [c]) := by
  by_cases short : c = '"' ∨ c = '\\' ∨ c = '\n' ∨ c = '\r' ∨ c = '\t' ∨ c = '\x08' ∨ c = '\x0c'
  · left
    obtain rfl | rfl | rfl | rfl | rfl | rfl | rfl := short
    · exact ⟨'"', by decide⟩
    · exact ⟨'\\', by decide⟩
    · exact ⟨'n', by decide⟩
    · exact ⟨'r', by decide⟩
    · exact ⟨'t', by decide⟩
    · exact ⟨'b', by decide⟩
    · exact ⟨'f', by decide⟩
  · right
    simp only [not_or] at short
    obtain ⟨h1, h2, h3, h4, h5, h6, h7⟩ := short
    by_cases h : c.toNat < 0x20
    · exact .inl ⟨h, by simp [escape, h1, h2, h3, h4, h5, h6, h7, h]⟩
    · exact .inr ⟨h1, h2, Nat.not_lt.1 h, by simp [escape, h1, h2, h3, h4, h5, h6, h7, h]⟩

/-- The form of a character is read as that character. -/
theorem readString_escape (c : Char) (fuel : Nat) (rest : List Char) :
    readString (fuel + 1) (escape c ++ rest) =
      (readString fuel rest).map fun p => (c :: p.1, p.2) := by
  -- the reader binds where the statement maps
  have bind_eq : ∀ o : Option (List Char × List Char),
      (o.bind fun p => some (c :: p.1, p.2)) = o.map fun p => (c :: p.1, p.2) := by
    rintro (_ | p) <;> rfl
  obtain ⟨e, hu, -, he, h⟩ | ⟨hn, h⟩ | ⟨hquote, hslash, hn, h⟩ := escape_cases c
  · rw [h, ← bind_eq]
    simp [readString, he]
  · rw [h, ← bind_eq]
    simp [readString, numbered?_hexDigits (show c.toNat < 0xd800 by omega) rest]
  · rw [h, ← bind_eq]
    simp [readString, hquote, hslash, Nat.not_lt.2 hn]

theorem readString_flatMap_escape (s : List Char) {fuel : Nat} (h : s.length < fuel)
    (rest : List Char) : readString fuel (s.flatMap escape ++ '"' :: rest) = some (s, rest) := by
  induction s generalizing fuel with
  | nil =>
    obtain ⟨fuel, rfl⟩ := Nat.exists_eq_add_one.2 h
    simp [readString]
  | cons c s ih =>
    obtain ⟨fuel, rfl⟩ := Nat.exists_eq_add_one.2 (Nat.zero_lt_of_lt h)
    have hs : s.length < fuel := by simpa using h
    rw [List.flatMap_cons, List.append_assoc, readString_escape, ih hs]
    rfl

theorem length_le_flatMap_escape (s : List Char) : s.length ≤ (s.flatMap escape).length := by
  induction s with
  | nil => simp
  | cons c s ih =>
    have one : 1 ≤ (escape c).length := by
      obtain ⟨e, -, -, -, h⟩ | ⟨-, h⟩ | ⟨-, -, -, h⟩ := escape_cases c <;> simp [h]
    simp only [List.flatMap_cons, List.length_cons, List.length_append]
    omega

/-- A string reads back after its first quote. -/
theorem string?_escaped (s : String) (rest : List Char) :
    string? (s.toList.flatMap escape ++ '"' :: rest) = some (s, rest) := by
  have fuel : s.toList.length < (s.toList.flatMap escape ++ '"' :: rest).length := by
    have length := length_le_flatMap_escape s.toList
    rw [List.length_append, List.length_cons]
    omega
  simp only [string?, readString_flatMap_escape s.toList fuel rest, Option.map_some,
    String.ofList_toList]

theorem le_toNat_of_mem_hexDigits {width n : Nat} {c : Char} (h : c ∈ hexDigits width n) :
    0x20 ≤ c.toNat := by
  have digit : ∀ {n : Nat}, n < 16 → 0x20 ≤ (hexDigit n).toNat := by decide
  induction width generalizing n with
  | zero => simp [hexDigits] at h
  | succ width ih =>
    rw [hexDigits, List.mem_append, List.mem_singleton] at h
    obtain h | rfl := h
    · exact ih h
    · exact digit (Nat.mod_lt n (by decide))

/-- The form of a character holds no control character. -/
theorem le_toNat_of_mem_escape {c d : Char} (h : d ∈ escape c) : 0x20 ≤ d.toNat := by
  obtain ⟨e, -, he, -, form⟩ | ⟨-, form⟩ | ⟨-, -, hn, form⟩ := escape_cases c
  · rw [form, List.mem_cons, List.mem_singleton] at h
    obtain rfl | rfl := h
    · decide
    · exact he
  · rw [form, List.mem_cons, List.mem_cons] at h
    obtain rfl | rfl | h := h
    · decide
    · decide
    · exact le_toNat_of_mem_hexDigits h
  · rw [form, List.mem_singleton] at h
    exact h ▸ hn

theorem le_toNat_of_mem_string {s : String} {c : Char} (h : c ∈ string s) : 0x20 ≤ c.toNat := by
  rw [string, List.mem_cons, List.mem_append, List.mem_flatMap, List.mem_singleton] at h
  obtain rfl | ⟨d, -, h⟩ | rfl := h
  · decide
  · exact le_toNat_of_mem_escape h
  · decide

/-! ### Whole numbers -/

theorem allOf_isDigit_decimal (n : Nat) : Markup.allOf Char.isDigit (decimal n) = true := by
  have all : (decimal n).all Char.isDigit = true :=
    List.all_eq_true.2 fun _ h => isDigit_of_mem_decimal h
  simp [Markup.allOf, decimal_ne_nil, all]

theorem number?_whole (n : Int) : number? (whole n) = some (.int n) := by
  obtain negative | natural := Int.lt_or_le n 0
  · have form : whole n = '-' :: decimal n.natAbs := by
      rw [whole, if_pos negative]
      rfl
    have value : -((n.natAbs : Nat) : Int) = n := by omega
    simp only [form, number?, allOf_isDigit_decimal, ofDecimal_decimal, if_true, value]
  · obtain ⟨c, cs, h⟩ := List.exists_cons_of_ne_nil (decimal_ne_nil n.natAbs)
    have digit : c.isDigit := isDigit_of_mem_decimal (h ▸ List.mem_cons_self)
    have sign : c ≠ '-' := by
      rintro rfl
      exact absurd digit (by decide)
    have value : ((n.natAbs : Nat) : Int) = n := by omega
    have all := allOf_isDigit_decimal n.natAbs
    have back := ofDecimal_decimal n.natAbs
    have form : whole n = c :: cs := by
      rw [whole, if_neg (Int.not_lt.2 natural), h]
      rfl
    rw [h] at all back
    simp [form, number?, sign, all, back, value]

theorem isNumberChar_of_mem_whole {n : Int} {c : Char} (h : c ∈ whole n) :
    isNumberChar c = true := by
  rw [whole, List.mem_append] at h
  obtain h | h := h
  · split at h
    · rw [List.mem_singleton] at h
      subst h
      decide
    · simp at h
  · simp [isNumberChar, isDigit_of_mem_decimal h]

theorem exists_cons_whole (n : Int) : ∃ c cs, whole n = c :: cs ∧ isNumberChar c = true := by
  have ne : whole n ≠ [] := by
    rw [whole]
    exact List.append_ne_nil_of_right_ne_nil _ (decimal_ne_nil n.natAbs)
  obtain ⟨c, cs, h⟩ := List.exists_cons_of_ne_nil ne
  exact ⟨c, cs, h, isNumberChar_of_mem_whole (h ▸ List.mem_cons_self)⟩

/-! ### White space -/

/-- White space between the parts of a JSON text. -/
def isSpace (c : Char) : Bool := c = ' ' || c = '\n' || c = '\r' || c = '\t'

theorem skipSpace_append {ws : List Char} (h : ws.all isSpace = true) (cs : List Char) :
    skipSpace (ws ++ cs) = skipSpace cs :=
  List.dropWhile_append_of_pos (List.all_eq_true.1 h)

theorem skipSpace_cons {c : Char} (h : isSpace c = false) (cs : List Char) :
    skipSpace (c :: cs) = c :: cs :=
  List.dropWhile_cons_of_neg (Bool.eq_false_iff.1 h)

theorem readValue_append {ws : List Char} (h : ws.all isSpace = true) (fuel : Nat)
    (cs : List Char) : readValue fuel (ws ++ cs) = readValue fuel cs := by
  cases fuel with
  | zero => simp [readValue]
  | succ fuel => simp only [readValue, skipSpace_append h]

theorem all_isSpace_newline (depth : Nat) : (newline depth).all isSpace = true := by
  simp only [newline, List.all_cons, List.all_replicate]
  split <;> decide

theorem Layout.all_isSpace_opening (layout : Layout) (depth : Nat) :
    (layout.opening depth).all isSpace = true := by
  cases layout with
  | compact => rfl
  | pretty => exact all_isSpace_newline depth

theorem Layout.all_isSpace_closing (layout : Layout) (depth : Nat) :
    (layout.closing depth).all isSpace = true := by
  cases layout with
  | compact => rfl
  | pretty => exact all_isSpace_newline depth

/-- Two items stand apart by a comma and white space. -/
theorem Layout.between_eq (layout : Layout) (depth : Nat) :
    ∃ ws, layout.between depth = ',' :: ws ∧ ws.all isSpace = true := by
  cases layout with
  | compact => exact ⟨[' '], rfl, rfl⟩
  | pretty => exact ⟨newline depth, rfl, all_isSpace_newline depth⟩

/-! ### Where numbers end -/

theorem isNumberChar_of_isSpace {c : Char} (h : isSpace c = true) : isNumberChar c = false := by
  simp only [isSpace, Bool.or_eq_true, decide_eq_true_eq, or_assoc] at h
  obtain rfl | rfl | rfl | rfl := h <;> decide

theorem isSpace_of_isNumberChar {c : Char} (h : isNumberChar c = true) : isSpace c = false := by
  rw [← Bool.not_eq_true]
  exact fun space => Bool.eq_false_iff.1 (isNumberChar_of_isSpace space) h

theorem ne_of_isNumberChar {c d : Char} (hc : isNumberChar c = true)
    (hd : isNumberChar d = false) : c ≠ d := by
  rintro rfl
  exact Bool.eq_false_iff.1 hd hc

theorem le_toNat_of_isNumberChar {c : Char} (h : isNumberChar c = true) : 0x20 ≤ c.toNat := by
  simp only [isNumberChar, Bool.or_eq_true, decide_eq_true_eq, or_assoc] at h
  obtain digit | rfl | rfl | rfl | rfl | rfl := h
  · exact Nat.le_trans (by decide) (Char.isDigit_iff_toNat.1 digit).1
  all_goals decide

/-- A text that does not go on with a number. -/
def Ends (rest : List Char) : Prop := ∀ c ∈ rest.head?, isNumberChar c = false

theorem ends_cons {c : Char} (hc : isNumberChar c = false) (rest : List Char) :
    Ends (c :: rest) := fun _ hd => Option.some.inj hd ▸ hc

theorem ends_append_cons {ws : List Char} (h : ws.all isSpace = true) {c : Char}
    (hc : isNumberChar c = false) (rest : List Char) : Ends (ws ++ c :: rest) := by
  cases ws with
  | nil => exact ends_cons hc rest
  | cons w ws =>
    exact ends_cons (isNumberChar_of_isSpace (List.all_eq_true.1 h w List.mem_cons_self)) _

theorem span_whole (n : Int) {rest : List Char} (h : Ends rest) :
    (whole n ++ rest).span isNumberChar = (whole n, rest) := by
  have all : ∀ c ∈ whole n, isNumberChar c = true := fun _ => isNumberChar_of_mem_whole
  rw [List.span_eq_takeWhile_dropWhile, List.takeWhile_append_of_pos all,
    List.dropWhile_append_of_pos all]
  cases rest with
  | nil => simp
  | cons c rest =>
    have hc : isNumberChar c = false := h c rfl
    simp [hc]

end SoloScenario.Json

import Mathlib.Algebra.Group.Nat.Defs
import SoloScenario.Proofs.Delimiting
import SoloScenario.Text.Lines
import SoloScenario.Text.Quoted

/-! Literals of texts, read back. Inside a literal every character is read as the one that it
stands for, by its number, by a letter or as itself, and only the closing quote stands without a
backslash; so a literal tells its text and where it ends, whatever follows it. All that is
written in a literal is printable. -/

namespace SoloScenario.Text

/-! ### Numbers of characters -/

/-- The number that hexadecimal digits of ASCII spell. -/
def ofHex (cs : List Char) : Nat := cs.foldl (fun n c => 16 * n + (hexDigit? c).getD 0) 0

theorem ofHex_hexDigits (width n : Nat) : ofHex (hexDigits width n) = n % 16 ^ width := by
  induction width generalizing n with
  | zero => rw [Nat.pow_zero, Nat.mod_one]; rfl
  | succ width ih =>
    have digit : hexDigit? (hexDigit (n % 16)) = some (n % 16) :=
      hexDigit?_hexDigit (Nat.mod_lt n (by decide))
    have high : (hexDigits width (n / 16)).foldl (fun n c => 16 * n + (hexDigit? c).getD 0) 0 =
        n / 16 % 16 ^ width := ih (n / 16)
    rw [hexDigits, ofHex, List.foldl_append, high, List.foldl_cons, List.foldl_nil, digit,
      Option.getD_some, Nat.pow_succ', Nat.mod_mul, Nat.add_comm]

namespace Quoted

/-- The character that a number of so many digits stands for, and what follows the number. -/
def readNumber (width : Nat) (cs : List Char) : Char × List Char :=
  (Char.ofNat (ofHex (cs.take width)), cs.drop width)

/-- The first character that the inside of a literal stands for, and what follows it. -/
def readChar? : List Char → Option (Char × List Char)
  | [] => none
  | '\\' :: mark :: rest =>
    if mark = 't' then some ('\t', rest)
    else if mark = 'n' then some ('\n', rest)
    else if mark = 'r' then some ('\r', rest)
    else if mark = 'x' then some (readNumber 2 rest)
    else if mark = 'u' then some (readNumber 4 rest)
    else if mark = 'U' then some (readNumber 8 rest)
    else some (mark, rest)
  | c :: rest => some (c, rest)

theorem readNumber_hexDigits {width : Nat} {c : Char} (h : c.toNat < 16 ^ width)
    (rest : List Char) : readNumber width (hexDigits width c.toNat ++ rest) = (c, rest) := by
  have digits : (hexDigits width c.toNat ++ rest).take width = hexDigits width c.toNat :=
    List.take_left' (length_hexDigits width c.toNat)
  have after : (hexDigits width c.toNat ++ rest).drop width = rest :=
    List.drop_left' (length_hexDigits width c.toNat)
  rw [readNumber, digits, after, ofHex_hexDigits, Nat.mod_eq_of_lt h, Char.ofNat_toNat]

variable {quote : Char}

/-! ### Single characters -/

/-- A character is read back from its form between two quotes. -/
theorem readChar?_escape (hq : quote = '"' ∨ quote = '\'') (c : Char) (rest : List Char) :
    readChar? (escape quote c ++ rest) = some (c, rest) := by
  have last : c.toNat < 0x110000 := by
    have valid := c.valid
    simp only [UInt32.isValidChar, Nat.isValidChar] at valid
    simp only [Char.toNat]
    omega
  unfold escape
  split
  · next marked =>
    obtain rfl | rfl := marked
    · obtain rfl | rfl := hq <;> rfl
    · rfl
  split
  · next tab => rw [tab]; rfl
  split
  · next feed => rw [feed]; rfl
  split
  · next back => rw [back]; rfl
  split
  · next plain _ _ _ _ =>
    rw [List.singleton_append, readChar?]
    rintro mark more rfl -
    exact plain (.inr rfl)
  split
  · next small =>
    have fits : c.toNat < 16 ^ 2 := small
    exact congrArg some (readNumber_hexDigits fits rest)
  split
  · next middle =>
    have fits : c.toNat < 16 ^ 4 := middle
    exact congrArg some (readNumber_hexDigits fits rest)
  · have fits : c.toNat < 16 ^ 8 := by omega
    exact congrArg some (readNumber_hexDigits fits rest)

theorem delimits_escape (hq : quote = '"' ∨ quote = '\'') : Delimits (escape quote) := by
  intro c d x y same
  have back := readChar?_escape hq c x
  rw [same, readChar?_escape hq d y] at back
  obtain ⟨rfl, rfl⟩ := Prod.mk.inj (Option.some.inj back)
  exact ⟨rfl, rfl⟩

/-- No form of a character starts with the quote. -/
theorem head?_escape_ne (hq : quote = '"' ∨ quote = '\'') (c : Char) (rest : List Char) :
    (escape quote c ++ rest).head? ≠ some quote := by
  have slash : '\\' ≠ quote := by obtain rfl | rfl := hq <;> decide
  unfold escape
  repeat' split
  all_goals simp_all

/-! ### Literals -/

/-- A literal with what follows it. -/
theorem encode_append (cs x : List Char) : encode cs ++ x =
    quoteFor cs :: ((cs.flatMap (escape (quoteFor cs)) ++ [quoteFor cs]) ++ x) := by
  rw [encode, List.cons_append]

/-- The quote at the start of a literal tells where it ends. -/
theorem delimits_encode : Delimits encode := by
  intro cs ds x y same
  rw [encode_append, encode_append] at same
  obtain ⟨quote, inside⟩ := List.cons.inj same
  rw [← quote] at inside
  have hq := quoteFor_cases cs
  exact (delimits_escape hq).row (head?_escape_ne hq) inside

end Quoted

/-! ### Printable characters -/

/-- Characters that are all printable. -/
def Shown (cs : List Char) : Prop := ∀ c ∈ cs, isPrintable c = true

instance (cs : List Char) : Decidable (Shown cs) :=
  List.decidableBAll (fun c => isPrintable c = true) cs

variable {cs ds : List Char} {c : Char}

theorem shown_nil : Shown [] := List.forall_mem_nil _

theorem shown_cons : Shown (c :: cs) ↔ isPrintable c = true ∧ Shown cs := List.forall_mem_cons

theorem shown_append : Shown (cs ++ ds) ↔ Shown cs ∧ Shown ds := List.forall_mem_append

/-- Nothing at which a line of text ends is printable. -/
theorem isPrintable_of_isLineBoundary (h : isLineBoundary c = true) : isPrintable c = false := by
  simp only [isLineBoundary, isLineEnd, Bool.or_eq_true, decide_eq_true_eq, or_assoc] at h
  obtain rfl | rfl | rfl | rfl | rfl | rfl | rfl | rfl | rfl | rfl := h <;> decide +kernel

theorem shown_hexDigits (width n : Nat) : Shown (hexDigits width n) := by
  have digit : ∀ {n : Nat}, n < 16 → isPrintable (hexDigit n) = true := by decide
  induction width generalizing n with
  | zero => exact shown_nil
  | succ width ih =>
    exact shown_append.2 ⟨ih (n / 16), shown_cons.2 ⟨digit (Nat.mod_lt n (by decide)), shown_nil⟩⟩

namespace Quoted

/-- The form of a character is printable, whatever the character. -/
theorem shown_escape {quote : Char} (hq : quote = '"' ∨ quote = '\'') (c : Char) :
    Shown (escape quote c) := by
  have slash : isPrintable '\\' = true := by decide
  have number (mark : Char) (hm : isPrintable mark = true) (width : Nat) :
      Shown ('\\' :: mark :: hexDigits width c.toNat) :=
    shown_cons.2 ⟨slash, shown_cons.2 ⟨hm, shown_hexDigits width c.toNat⟩⟩
  unfold escape
  split
  · next marked =>
    have itself : isPrintable c = true := by
      obtain rfl | rfl := marked
      · obtain rfl | rfl := hq <;> decide
      · exact slash
    exact shown_cons.2 ⟨slash, shown_cons.2 ⟨itself, shown_nil⟩⟩
  split
  · decide
  split
  · decide
  split
  · decide
  split
  · next printable => exact shown_cons.2 ⟨printable, shown_nil⟩
  split
  · exact number 'x' (by decide) 2
  split
  · exact number 'u' (by decide) 4
  · exact number 'U' (by decide) 8

theorem shown_encode (cs : List Char) : Shown (encode cs) := by
  have quote : isPrintable (quoteFor cs) = true := by
    obtain h | h := quoteFor_cases cs <;> rw [h] <;> decide
  refine shown_cons.2 ⟨quote, shown_append.2 ⟨?_, shown_cons.2 ⟨quote, shown_nil⟩⟩⟩
  intro d hd
  obtain ⟨c, -, hd⟩ := List.mem_flatMap.1 hd
  exact shown_escape (quoteFor_cases cs) c d hd

end Quoted

end SoloScenario.Text

import SoloScenario.Proofs.LetterCase
import SoloScenario.Proofs.LineBreaks

/-! Times that stay on one line. The standard form of a time is made of digits and marks. A
pattern may hold an end of a line, and it has a directive for one, whose letter is n; zone,
offset and microseconds are filled in before the directives are read, so a directive may end
with what was filled in. Where neither an end of a line nor that letter stands, in the pattern
or in the name of the zone, nothing that is written ends a line. -/

namespace SoloScenario

namespace Text

/-! ### Characters that end no line -/

/-- Characters of which none ends a line of a document. -/
def Unbroken (cs : List Char) : Prop := ∀ c ∈ cs, isLineEnd c = false

/-- Characters of which none ends a line or is the letter of the directive that does. -/
def Harmless (cs : List Char) : Prop := ∀ c ∈ cs, isLineEnd c = false ∧ c ≠ 'n'

variable {cs ds : List Char} {c : Char}

@[simp] theorem unbroken_nil : Unbroken [] := List.forall_mem_nil _

@[simp] theorem unbroken_cons : Unbroken (c :: cs) ↔ isLineEnd c = false ∧ Unbroken cs :=
  List.forall_mem_cons

@[simp] theorem unbroken_append : Unbroken (cs ++ ds) ↔ Unbroken cs ∧ Unbroken ds :=
  List.forall_mem_append

@[simp] theorem harmless_nil : Harmless [] := List.forall_mem_nil _

@[simp] theorem harmless_cons :
    Harmless (c :: cs) ↔ (isLineEnd c = false ∧ c ≠ 'n') ∧ Harmless cs :=
  List.forall_mem_cons

@[simp] theorem harmless_append : Harmless (cs ++ ds) ↔ Harmless cs ∧ Harmless ds :=
  List.forall_mem_append

theorem Harmless.unbroken (h : Harmless cs) : Unbroken cs := fun c hc => (h c hc).1

theorem Unbroken.take (h : Unbroken cs) (n : Nat) : Unbroken (cs.take n) :=
  fun c hc => h c (List.mem_of_mem_take hc)

theorem Unbroken.map {f : Char → Char} (hf : ∀ c, isLineEnd c = false → isLineEnd (f c) = false)
    (h : Unbroken cs) : Unbroken (cs.map f) := by
  intro d hd
  obtain ⟨c, hc, rfl⟩ := List.mem_map.1 hd
  exact hf c (h c hc)

theorem unbroken_replicate (n : Nat) (hc : isLineEnd c = false) :
    Unbroken (List.replicate n c) := by
  intro d hd
  rwa [List.eq_of_mem_replicate hd]

theorem breaksLine_ofList (cs : List Char) :
    breaksLine (String.ofList cs) = false ↔ Unbroken cs := by
  rw [breaksLine_eq_false_iff, String.toList_ofList, Unbroken]

/-! ### Digits and letters -/

@[simp] theorem harmless_decimal (n : Nat) : Harmless (decimal n) := by
  intro c hc
  have digit := isDigit_of_mem_decimal hc
  refine ⟨Bool.eq_false_iff.2 fun ends => ?_, ?_⟩
  · simp only [isLineEnd, Bool.or_eq_true, decide_eq_true_eq] at ends
    obtain rfl | rfl := ends <;> cases digit
  · rintro rfl
    cases digit

@[simp] theorem harmless_padded (width n : Nat) : Harmless (padded width n) := by
  refine harmless_append.2 ⟨?_, harmless_decimal n⟩
  intro c hc
  rw [List.eq_of_mem_replicate hc]
  decide

@[simp] theorem unbroken_decimal (n : Nat) : Unbroken (decimal n) := (harmless_decimal n).unbroken

@[simp] theorem unbroken_padded (width n : Nat) : Unbroken (padded width n) :=
  (harmless_padded width n).unbroken

theorem isLineEnd_ofNat {n : Nat} (h : 0x41 ≤ n) : isLineEnd (Char.ofNat n) = false := by
  have other : ∀ c : Char, c.toNat < 0x41 → c ≠ '\x00' → Char.ofNat n ≠ c := by
    rintro c small some rfl
    obtain same | null := toNat_ofNat_or n
    · omega
    · exact some null
  simp [isLineEnd, other '\n' (by decide) (by decide), other '\r' (by decide) (by decide)]

/-- No capital ends a line. -/
theorem isLineEnd_upperChar {c : Char} (h : isLineEnd c = false) :
    isLineEnd (upperChar c) = false := by
  have apart : ∀ p ∈ capitalsApart, 0x41 ≤ p.2 := by decide +kernel
  have runs : ∀ r ∈ capitalRuns, 0x41 ≤ r.first := by decide +kernel
  unfold upperChar
  split
  · exact h
  split
  · next capital found =>
    obtain ⟨before, after, split, -⟩ := List.lookup_eq_some_iff.1 found
    exact isLineEnd_ofNat (apart (c.toNat, capital) (by simp [split]))
  split
  · next r found =>
    have first := runs r (List.mem_of_find?_eq_some found)
    have has := List.find?_some found
    simp only [CapitalRun.has, Bool.and_eq_true, decide_eq_true_eq] at has
    exact isLineEnd_ofNat (by omega)
  · exact h

/-- No small letter ends a line. -/
theorem isLineEnd_toLower {c : Char} (h : isLineEnd c = false) : isLineEnd c.toLower = false := by
  unfold Char.toLower
  split
  · next capital =>
    have first : 65 ≤ c.val.toNat := UInt32.le_iff_toNat_le.1 capital.1
    have last : c.val.toNat ≤ 90 := UInt32.le_iff_toNat_le.1 capital.2
    have moved : (c.val + ('a'.val - 'A'.val)).toNat = c.val.toNat + 32 := by
      rw [UInt32.toNat_add]
      exact Nat.mod_eq_of_lt (show c.val.toNat + 32 < 2 ^ 32 by omega)
    have other : ∀ d : Char, d.val.toNat < 65 → c.val + ('a'.val - 'A'.val) ≠ d.val := by
      intro d small same
      rw [← UInt32.toNat_inj, moved] at same
      omega
    simp only [isLineEnd, Bool.or_eq_false_iff, decide_eq_false_iff_not, Char.ext_iff]
    exact ⟨other '\n' (by decide), other '\r' (by decide)⟩
  · exact h

end Text

namespace Time

open Text

/-! ### Standard form -/

theorem harmless_microsecondText (n : Nat) : Harmless (microsecondText n) := by
  unfold microsecondText
  split <;> simp [isLineEnd]

theorem harmless_offsetText {colon : List Char} (hc : Harmless colon) (n : Int) :
    Harmless (offsetText colon n) := by
  simp only [offsetText]
  split <;> split <;> simp [isLineEnd, hc, harmless_microsecondText]

/-- The standard form of a time stays on its line. -/
theorem breaksLine_iso (t : Stamp) : breaksLine t.iso = false := by
  have fraction := (harmless_microsecondText t.microsecond).unbroken
  have offset (z : Zone) : Unbroken (offsetText [':'] z.offset) :=
    (harmless_offsetText (by simp [isLineEnd]) z.offset).unbroken
  rw [Stamp.iso, breaksLine_ofList, Stamp.standard, Date.iso, Stamp.clock]
  cases t.zone with
  | none => simp [isLineEnd, fraction]
  | some z => simp [isLineEnd, fraction, offset z]

/-! ### Fields of a pattern -/

namespace Pattern

variable (t : Stamp)

theorem unbroken_getD {names : List String} (h : ∀ name ∈ names, breaksLine name = false)
    (i : Nat) : Unbroken (names.getD i "?").toList := by
  rw [Unbroken, ← breaksLine_eq_false_iff, List.getD_eq_getElem?_getD]
  cases found : names[i]? with
  | none => rfl
  | some name => exact h name (List.mem_of_getElem? found)

@[simp] theorem unbroken_dayName : Unbroken (dayName t) := unbroken_getD (by decide) _

@[simp] theorem unbroken_monthName : Unbroken (monthName t) := unbroken_getD (by decide) _

@[simp] theorem unbroken_halfDay : Unbroken (halfDay t) := by
  unfold halfDay
  split <;> simp [isLineEnd]

@[simp] theorem unbroken_shortClock : Unbroken (shortClock t) := by simp [shortClock, isLineEnd]

@[simp] theorem unbroken_fullClock : Unbroken (fullClock t) := by simp [fullClock, isLineEnd]

@[simp] theorem unbroken_slashedDate : Unbroken (slashedDate t) := by
  simp [slashedDate, isLineEnd]

@[simp] theorem unbroken_spaced (n : Nat) : Unbroken (spaced n) := by
  simp [spaced, unbroken_replicate _ (show isLineEnd ' ' = false from rfl)]

/-- A field is a number or stays on its line. -/
def Field.Unbroken : Field → Prop
  | .number _ _ _ => True
  | .text cs => Text.Unbroken cs

/-- One letter alone stands for a field that breaks its line. -/
theorem unbroken_field? {letter : Char} (hl : letter ≠ 'n') :
    ∀ f ∈ field? t letter, f.Unbroken := by
  have half := (unbroken_halfDay t).map fun _ => isLineEnd_toLower
  unfold field?
  split <;> simp [Field.Unbroken, Unbroken.take, isLineEnd, half]
  exact absurd rfl hl

/-! ### Directives -/

namespace Directive

variable {d : Directive}

theorem unbroken_fit {cs : List Char} (h : Unbroken cs) (small upper : Bool) :
    Unbroken (d.fit small upper cs) := by
  have filled : Unbroken (List.replicate (d.width.getD 0 - cs.length)
      (if d.pad = some '0' then '0' else ' ')) :=
    unbroken_replicate _ (by split <;> rfl)
  refine unbroken_append.2 ⟨filled, ?_⟩
  split
  · exact h.map fun _ => isLineEnd_toLower
  split
  · exact h.map fun _ => isLineEnd_upperChar
  · exact h

theorem unbroken_fitNumber (width : Nat) (spaced : Bool) (value : Int) :
    Unbroken (d.fitNumber width spaced value) := by
  unfold fitNumber
  extract_lets pad digits full
  have written : Unbroken digits := by
    simp only [digits]
    split <;> simp [isLineEnd]
  split
  · exact unbroken_fit written false d.upper
  split
  · exact unbroken_append.2 ⟨unbroken_replicate _ rfl, written⟩
  split
  · simp [isLineEnd, unbroken_replicate _ (show isLineEnd '0' = false from rfl)]
  · exact unbroken_append.2 ⟨unbroken_replicate _ rfl, written⟩

/-- A directive that is read on has one more character of the pattern. -/
theorem source_of_read? {cap : Nat} {c : Char} {d' : Directive} (h : d.read? cap c = some d') :
    d'.source = d.source ++ [c] := by
  simp only [read?] at h
  repeat' split at h
  all_goals cases h
  all_goals rfl

/-- A directive with any other letter is written on one line. -/
theorem unbroken_expand (hd : Unbroken d.source) {letter : Char}
    (hl : isLineEnd letter = false ∧ letter ≠ 'n') : Unbroken (d.expand t letter) := by
  have verbatim (upper : Bool) :
      Unbroken (d.fit false upper (if letter = '%' then ['%'] else d.source ++ [letter])) := by
    refine unbroken_fit ?_ false upper
    split
    · simp [isLineEnd]
    · simpa using ⟨hd, hl.1⟩
  simp only [expand]
  split
  · exact unbroken_nil
  split
  · exact verbatim _
  split
  · exact verbatim _
  · split
    · refine unbroken_fit ?_ false d.upper
      split <;> simp [isLineEnd]
    · exact unbroken_fitNumber _ _ _
  · next cs found => exact unbroken_fit (unbroken_field? t hl.2 _ found) _ _

end Directive

/-- What is left of a pattern is written on one line, within a directive or outside one. -/
theorem unbroken_expand (cap : Nat) {d : Option Directive} (hd : ∀ e ∈ d, Unbroken e.source)
    {cs : List Char} (h : Harmless cs) : Unbroken (expand t cap d cs) := by
  fun_induction expand t cap d cs with
  | case1 => exact unbroken_nil
  | case2 rest ih =>
    refine ih ?_ (harmless_cons.1 h).2
    simp [Directive.start, isLineEnd]
  | case3 c rest other ih =>
    exact unbroken_cons.2 ⟨(harmless_cons.1 h).1.1, ih (by simp) (harmless_cons.1 h).2⟩
  | case4 d => exact Directive.unbroken_fit (hd d rfl) false d.upper
  | case5 d c rest d' read ih =>
    refine ih ?_ (harmless_cons.1 h).2
    intro e he
    obtain rfl := Option.mem_some_iff.1 he
    rw [Directive.source_of_read? read]
    simpa using ⟨hd d rfl, (harmless_cons.1 h).1.1⟩
  | case6 d c rest read ih =>
    exact unbroken_append.2 ⟨Directive.unbroken_expand t (hd d rfl) (harmless_cons.1 h).1,
      ih (by simp) (harmless_cons.1 h).2⟩

theorem harmless_doubled {cs : List Char} (h : Harmless cs) :
    Harmless (cs.flatMap fun c => if c = '%' then ['%', '%'] else [c]) := by
  intro d hd
  obtain ⟨c, hc, hd⟩ := List.mem_flatMap.1 hd
  have same : d = c := by
    split at hd <;> simp_all
  exact same ▸ h c hc

/-- What is filled in does no harm, unless the name of the zone does. -/
theorem harmless_fill (zone : ∀ z ∈ t.zone, Harmless z.label) {cs : List Char}
    (h : Harmless cs) : Harmless (fill t cs) := by
  have label : Harmless ((t.zone.map Zone.label).getD []) := by
    cases named : t.zone with
    | none => exact harmless_nil
    | some z => exact zone z named
  have after {c d : Char} {rest : List Char} (h : Harmless (c :: d :: rest)) : Harmless rest :=
    (harmless_cons.1 (harmless_cons.1 h).2).2
  fun_induction fill t cs with
  | case1 => exact h
  | case2 => exact harmless_nil
  | case3 => exact h
  | case4 => simp [isLineEnd]
  | case5 rest _ ih =>
    refine harmless_append.2 ⟨?_, ih (after h)⟩
    cases t.zone with
    | none => exact harmless_nil
    | some z => exact harmless_offsetText harmless_nil z.offset
  | case6 rest _ _ ih =>
    exact harmless_append.2 ⟨harmless_doubled label, ih (after h)⟩
  | case7 rest _ _ _ ih =>
    exact harmless_append.2 ⟨harmless_padded 6 t.microsecond,
      ih (after h)⟩
  | case8 c rest _ _ _ _ ih =>
    obtain ⟨sign, letter, more⟩ := (harmless_cons.1 h).imp_right harmless_cons.1
    exact harmless_cons.2 ⟨sign, harmless_cons.2 ⟨letter, ih more⟩⟩
  | case9 c rest _ _ _ _ ih =>
    exact harmless_cons.2 ⟨(harmless_cons.1 h).1, ih (harmless_cons.1 h).2⟩

end Pattern

variable {t : Stamp}

/-- A time that a pattern writes stays on its line if the pattern and the name of the zone do no
harm. -/
theorem breaksLine_format {pattern : String} (hp : Harmless pattern.toList)
    (zone : ∀ z ∈ t.zone, Harmless z.label) : breaksLine (t.format pattern) = false := by
  simp only [Stamp.format]
  split
  · exact (breaksLine_ofList _).2
      (Pattern.unbroken_expand t _ (by simp) (Pattern.harmless_fill t zone hp))
  · rfl

/-- A pattern that counts as none, or does no harm at a time, nor does the name of its zone. -/
def IsHarmless (pattern : Option String) (t : Stamp) : Prop :=
  ∀ p ∈ pattern, p = "" ∨ Harmless p.toList ∧ ∀ z ∈ t.zone, Harmless z.label

/-- The time in a comment stays on its line in standard form, and by a pattern without harm. -/
theorem breaksLine_timeText {c : Config} (h : IsHarmless c.pattern t) :
    breaksLine (c.timeText t) = false := by
  unfold Config.timeText
  split
  · exact breaksLine_iso t
  · next p given =>
    split
    · exact breaksLine_iso t
    · next some =>
      obtain ⟨hp, zone⟩ := (h p given).resolve_left some
      exact breaksLine_format hp zone

end Time

end SoloScenario

import Mathlib.Data.List.Basic
import SoloScenario.Text.Case

/-! Words in capitals or not. Among the first 128 characters only the letters from A to Z have a
small form of their own. Beyond them no character has a small form that is made of letters of the
alphabet, but for the sign for kelvin, whose small form is a k. So the small form of a text is a
word without a k exactly if the text is that word up to the case of these letters. -/

namespace SoloScenario.Text

/-- Texts that agree up to the case of the letters from A to Z. -/
def SameLetters (s t : String) : Prop :=
  s.toList.map Char.toLower = t.toList.map Char.toLower

instance (s t : String) : Decidable (SameLetters s t) :=
  inferInstanceAs (Decidable (s.toList.map Char.toLower = t.toList.map Char.toLower))

/-- A small letter of the alphabet other than the k. -/
def isPlainLetter (c : Char) : Bool := 0x61 ≤ c.toNat && c.toNat ≤ 0x7a && c ≠ 'k'

/-- A word of small letters without a k. -/
def IsPlainWord (s : String) : Prop := ∀ c ∈ s.toList, isPlainLetter c = true

instance (s : String) : Decidable (IsPlainWord s) :=
  List.decidableBAll (fun c => isPlainLetter c = true) s.toList

variable {s t word : String} {c : Char}

theorem lt_of_isPlainLetter (h : isPlainLetter c = true) : c.toNat < 0x80 := by
  simp only [isPlainLetter, Bool.and_eq_true, decide_eq_true_eq] at h
  omega

/-- A number is that of its character, or of no character. -/
theorem toNat_ofNat_or (n : Nat) : (Char.ofNat n).toNat = n ∨ Char.ofNat n = '\x00' := by
  by_cases valid : n.isValidChar
  · left
    rw [Char.ofNat, dif_pos valid]
    rfl
  · right
    rw [Char.ofNat, dif_neg valid]
    rfl

theorem isPlainLetter_ofNat {n : Nat} (h : 0x7b ≤ n) : isPlainLetter (Char.ofNat n) = false := by
  obtain same | null := toNat_ofNat_or n
  · refine Bool.eq_false_iff.2 fun plain => ?_
    simp only [isPlainLetter, Bool.and_eq_true, decide_eq_true_eq] at plain
    omega
  · rw [null]
    rfl

/-! ### Small forms -/

/-- All capitals but those of the alphabet lie beyond the first 128 characters. -/
theorem find?_capitalRuns (h : c.toNat < 0x80) : capitalRuns.find? (·.has c.toNat) =
    if 0x41 ≤ c.toNat ∧ c.toNat ≤ 0x5a then some ⟨0x41, 0x5a, 1, 32⟩ else none := by
  have beyond : ∀ r ∈ capitalRuns.tail, 0x80 ≤ r.first := by decide +kernel
  have others : capitalRuns.tail.find? (·.has c.toNat) = none := by
    refine List.find?_eq_none.2 fun r hr => ?_
    have first := beyond r hr
    simp only [CapitalRun.has, Bool.and_eq_true, decide_eq_true_eq]
    omega
  have table : capitalRuns = ⟨0x41, 0x5a, 1, 32⟩ :: capitalRuns.tail := rfl
  have alphabet : CapitalRun.has ⟨0x41, 0x5a, 1, 32⟩ c.toNat =
      decide (0x41 ≤ c.toNat ∧ c.toNat ≤ 0x5a) := by
    simp [CapitalRun.has, Nat.mod_one]
  rw [table, List.find?_cons, others, alphabet]
  by_cases letter : 0x41 ≤ c.toNat ∧ c.toNat ≤ 0x5a
  · rw [decide_eq_true letter, if_pos letter]
  · rw [decide_eq_false letter, if_neg letter]

theorem lowerChar_of_lt (h : c.toNat < 0x80) : lowerChar c = [c.toLower] := by
  have letters : ∀ n < 0x80, (if 0x41 ≤ n ∧ n ≤ 0x5a then Char.ofNat (n + 32) else Char.ofNat n) =
      (Char.ofNat n).toLower := by
    decide +kernel
  have small := letters c.toNat h
  rw [Char.ofNat_toNat] at small
  have plain : c ≠ '\u0130' := by
    rintro rfl
    exact absurd h (by decide)
  rw [lowerChar, if_neg plain, find?_capitalRuns h, ← small]
  by_cases letter : 0x41 ≤ c.toNat ∧ c.toNat ≤ 0x5a
  · rw [if_pos letter, if_pos letter]
    rfl
  · rw [if_neg letter, if_neg letter]

theorem toLower_of_isPlainLetter (h : isPlainLetter c = true) : c.toLower = c := by
  have letters : ∀ n < 0x80, isPlainLetter (Char.ofNat n) = true →
      (Char.ofNat n).toLower = Char.ofNat n := by
    decide +kernel
  simpa [h] using letters c.toNat (lt_of_isPlainLetter h)

theorem toLower_of_le (h : 0x80 ≤ c.toNat) : c.toLower = c := by
  have beyond : ¬('A'.val ≤ c.val ∧ c.val ≤ 'Z'.val) := by
    rintro ⟨-, last⟩
    have last : c.toNat ≤ 90 := UInt32.le_iff_toNat_le.1 last
    omega
  unfold Char.toLower
  exact dif_neg beyond

/-- The small form of a character beyond the first 128 holds more than plain letters: the capitals
end before, or their small forms lie beyond the alphabet, or there is the one that becomes a k. -/
theorem exists_mem_lowerChar (h : 0x80 ≤ c.toNat) : ∃ d ∈ lowerChar c, isPlainLetter d = false := by
  have runs : ∀ r ∈ capitalRuns, r.last < 0x80 ∨ 0x7b ≤ r.first + r.shift ∨
      (r.first = 0x212a ∧ r.last = 0x212a ∧ r.shift = -8383) := by
    decide +kernel
  unfold lowerChar
  split
  · exact ⟨'\u0307', by decide, by decide⟩
  split
  · next r found =>
    refine ⟨_, List.mem_singleton_self _, ?_⟩
    have has := List.find?_some found
    simp only [CapitalRun.has, Bool.and_eq_true, decide_eq_true_eq] at has
    obtain before | beyond | ⟨first, last, shift⟩ := runs r (List.mem_of_find?_eq_some found)
    · omega
    · exact isPlainLetter_ofNat (by omega)
    · obtain kelvin : (c.toNat + r.shift).toNat = 0x6b := by omega
      rw [kelvin]
      rfl
  · refine ⟨c, List.mem_singleton_self c, Bool.eq_false_iff.2 fun plain => ?_⟩
    have := lt_of_isPlainLetter plain
    omega

/-! ### Words -/

/-- What leaves the plain letters as they are leaves a plain word as it is. -/
theorem IsPlainWord.map_eq {f : Char → Char} (hf : ∀ c, isPlainLetter c = true → f c = c)
    (h : IsPlainWord word) : word.toList.map f = word.toList :=
  (List.map_congr_left fun c hc => hf c (h c hc)).trans (List.map_id _)

theorem toList_lower_of_lt (h : ∀ c ∈ s.toList, c.toNat < 0x80) :
    (lower s).toList = s.toList.map Char.toLower := by
  rw [lower, String.toList_ofList, List.map_eq_flatMap]
  exact List.flatMap_congr fun c hc => lowerChar_of_lt (h c hc)

/-- The small form of a text is a plain word exactly if the text is that word, in capitals or
not. -/
theorem lower_eq_iff (h : IsPlainWord word) : lower s = word ↔ SameLetters s word := by
  rw [SameLetters, h.map_eq fun c => toLower_of_isPlainLetter]
  by_cases first : ∀ c ∈ s.toList, c.toNat < 0x80
  · rw [← String.toList_inj, toList_lower_of_lt first]
  · obtain ⟨c, hc, beyond⟩ : ∃ c ∈ s.toList, 0x80 ≤ c.toNat := by simpa using first
    constructor
    · rintro rfl
      obtain ⟨d, hd, other⟩ := exists_mem_lowerChar beyond
      have there : d ∈ (lower s).toList := by
        rw [lower, String.toList_ofList]
        exact List.mem_flatMap.2 ⟨c, hc, hd⟩
      exact absurd (h d there) (Bool.eq_false_iff.1 other)
    · intro same
      have there : c ∈ word.toList := by
        rw [← same, ← toLower_of_le beyond]
        exact List.mem_map_of_mem hc
      have := lt_of_isPlainLetter (h c there)
      omega

theorem lower_of_isPlainWord (h : IsPlainWord word) : lower word = word := (lower_eq_iff h).2 rfl

/-! ### The two small sigmas -/

/-- The small sigma that stands within words, in place of the one at their ends. -/
def joinSigma (c : Char) : Char := if c = 'ς' then 'σ' else c

/-- Texts that agree but for which of the two small sigmas they have. A capital sigma has both for
small forms, of which `lower` always takes the one. -/
def SameButSigmas (s t : String) : Prop :=
  s.toList.map joinSigma = t.toList.map joinSigma

theorem SameButSigmas.symm (h : SameButSigmas s t) : SameButSigmas t s := Eq.symm h

theorem joinSigma_of_isPlainLetter (h : isPlainLetter c = true) : joinSigma c = c := by
  refine if_neg ?_
  rintro rfl
  cases h

theorem isPlainLetter_of_joinSigma (h : isPlainLetter (joinSigma c) = true) :
    isPlainLetter c = true := by
  unfold joinSigma at h
  split at h
  · cases h
  · exact h

/-- A plain word has no sigmas. -/
theorem SameButSigmas.eq_word (h : SameButSigmas s t) (plain : IsPlainWord s) : s = t := by
  have fixed : ∀ c, isPlainLetter c = true → joinSigma c = c := fun c => joinSigma_of_isPlainLetter
  rw [SameButSigmas, plain.map_eq fixed] at h
  have plain' : IsPlainWord t := by
    intro c hc
    refine isPlainLetter_of_joinSigma (plain _ ?_)
    rw [h]
    exact List.mem_map_of_mem hc
  exact String.toList_inj.1 (h.trans (plain'.map_eq fixed))

end SoloScenario.Text

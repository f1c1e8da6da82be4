import SoloScenario.Proofs.LineBreaks
import SoloScenario.Record.Check

/-! What the check of a record promises. A record has no errors exactly if its
names are there, steps and keywords are aligned, and no name, keyword or step
holds a line break; without warnings its tags start with their sign and its
keywords are known. Then no line of its document but a tag can hold a break. -/

namespace SoloScenario.Record

open Text

/-! ### Single checks -/

theorem mem_checkEach_iff {α : Type} {check : Nat → α → List Issue} {members : List α} {w : Issue} :
    w ∈ checkEach check members ↔ ∃ (i : Nat) (h : i < members.length), w ∈ check i members[i] := by
  simp only [checkEach, List.mem_flatten, List.mem_mapIdx]
  constructor
  · rintro ⟨_, ⟨i, h, rfl⟩, hw⟩
    exact ⟨i, h, hw⟩
  · rintro ⟨i, h, hw⟩
    exact ⟨_, ⟨i, h, rfl⟩, hw⟩

theorem checkEach_eq_nil_iff {α : Type} {check : Nat → α → List Issue} {members : List α} :
    checkEach check members = [] ↔
      ∀ (i : Nat) (h : i < members.length), check i members[i] = [] := by
  simp only [List.eq_nil_iff_forall_not_mem, mem_checkEach_iff, not_exists]
  exact ⟨fun hn i h w => hn w i h, fun hn w i h => hn i h w⟩

theorem checkName_eq_nil_iff {path word name : String} :
    checkName path word name = [] ↔ isBlank name = false ∧ breaksLine name = false := by
  unfold checkName
  split <;> simp_all

theorem checkStep_eq_nil_iff {i : Nat} {s : StepLine} :
    checkStep i s = [] ↔ breaksLine s.keyword = false ∧ breaksLine s.text = false := by
  cases hk : breaksLine s.keyword <;> cases ht : breaksLine s.text <;> simp [checkStep, hk, ht]

/-! ### Records without errors -/

/-- What a record has to be like to have no errors. -/
structure Valid (r : Record) : Prop where
  feature : isBlank r.feature = false
  feature_line : breaksLine r.feature = false
  scenario : isBlank r.scenario = false
  scenario_line : breaksLine r.scenario = false
  aligned : r.Aligned
  keyword_line : ∀ s ∈ r.stepLines, breaksLine s.keyword = false
  text_line : ∀ s ∈ r.stepLines, breaksLine s.text = false

theorem stepErrors_eq_nil_iff {r : Record} :
    r.stepErrors = [] ↔ r.Aligned ∧
      ∀ s ∈ r.stepLines, breaksLine s.keyword = false ∧ breaksLine s.text = false := by
  unfold stepErrors Aligned
  split
  · next h => simp [h]
  · next h =>
    rw [checkEach_eq_nil_iff, and_iff_right (Decidable.not_not.1 h)]
    simp only [checkStep_eq_nil_iff]
    exact (List.forall_mem_iff_forall_getElem (P := fun s : StepLine =>
      breaksLine s.keyword = false ∧ breaksLine s.text = false)).symm

theorem errors_eq_nil_iff {r : Record} : r.errors = [] ↔ r.Valid := by
  simp only [errors, List.append_eq_nil_iff, checkName_eq_nil_iff, stepErrors_eq_nil_iff]
  constructor
  · rintro ⟨⟨hf, hfl⟩, ⟨hs, hsl⟩, ha, hl⟩
    exact ⟨hf, hfl, hs, hsl, ha, fun s h => (hl s h).1, fun s h => (hl s h).2⟩
  · rintro ⟨hf, hfl, hs, hsl, ha, hk, ht⟩
    exact ⟨⟨hf, hfl⟩, ⟨hs, hsl⟩, ha, fun s h => ⟨hk s h, ht s h⟩⟩

theorem valid_check {r : Record} : r.check.valid ↔ r.Valid := by
  rw [valid_check_iff, ← errors_eq_nil_iff, check]

/-! ### Records without warnings -/

/-- The warning that there are no steps. -/
def noSteps : Issue := ⟨"steps", "No steps defined.", .warning⟩

/-- No errors, and no warning but that there are no steps. -/
structure Clean (r : Record) : Prop where
  errors : r.check.errors = []
  warnings : ∀ w ∈ r.check.warnings, w = noSteps

theorem checkTag_of_forall {i : Nat} {tag : String} (h : ∀ w ∈ checkTag i tag, w = noSteps) :
    tag.toList.head? = some '@' := by
  unfold checkTag at h
  split at h
  · assumption
  · have hw := congrArg (·.message.toList.head?) (h _ (List.mem_singleton_self _))
    simp [noSteps, toString] at hw

theorem checkKeyword_of_forall {i : Nat} {s : StepLine} (h : ∀ w ∈ checkKeyword i s, w = noSteps) :
    s.keyword ∈ knownKeywords := by
  unfold checkKeyword at h
  split at h
  · assumption
  · have hw := congrArg (·.message.toList.head?) (h _ (List.mem_singleton_self _))
    simp [noSteps, toString] at hw

namespace Clean

variable {r : Record}

theorem valid (h : r.Clean) : r.Valid := errors_eq_nil_iff.1 h.errors

theorem head?_tag (h : r.Clean) {tag : String} (ht : tag ∈ r.tags) :
    tag.toList.head? = some '@' := by
  obtain ⟨i, hi, rfl⟩ := List.mem_iff_getElem.1 ht
  apply checkTag_of_forall (i := i)
  intro w hw
  exact h.warnings w (List.mem_append_left _ (mem_checkEach_iff.2 ⟨i, hi, hw⟩))

theorem keyword_mem (h : r.Clean) {s : StepLine} (hs : s ∈ r.stepLines) :
    s.keyword ∈ knownKeywords := by
  obtain ⟨i, hi, rfl⟩ := List.mem_iff_getElem.1 hs
  apply checkKeyword_of_forall (i := i)
  intro w hw
  apply h.warnings w
  apply List.mem_append_right
  apply List.mem_append_left
  rw [if_neg (show ¬r.steps.length ≠ r.keywords.length from fun hne => hne h.valid.aligned)]
  exact mem_checkEach_iff.2 ⟨i, hi, hw⟩

end Clean

end SoloScenario.Record

/-! ### Lines of documents -/

namespace SoloScenario.Document

open Text

/-- In the document of a valid record only tags can break their lines. -/
theorem breaksLine_of_mem_bodyLines {r : Record} (hr : r.Valid)
    (ht : ∀ tag ∈ r.tags, breaksLine tag = false) {line : String} (hl : line ∈ bodyLines r) :
    breaksLine line = false := by
  simp only [bodyLines, List.mem_append, List.mem_cons, List.not_mem_nil, or_false,
    List.mem_map] at hl
  rcases hl with (rfl | rfl) | hl | rfl | ⟨s, hs, rfl⟩ | rfl
  · rw [breaksLine_append, hr.feature_line]
    decide
  · rfl
  · exact ht line hl
  · rw [breaksLine_append, hr.scenario_line]
    decide
  · rw [StepLine.line, breaksLine_append, breaksLine_append, hr.keyword_line s hs,
      hr.text_line s hs]
    decide
  · rfl

end SoloScenario.Document

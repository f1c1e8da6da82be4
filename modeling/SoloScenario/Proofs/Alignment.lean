import SoloScenario.Record.Basic

/-! Records whose steps and keywords are aligned: pairing the two lists and
taking the pairs apart again gives them back, so the record is that of its steps. -/

namespace SoloScenario.Record

variable {r : Record}

theorem map_keyword_stepLines (h : r.Aligned) : r.stepLines.map (·.keyword) = r.keywords := by
  have hl : r.steps.length = r.keywords.length := h
  apply List.ext_getElem
  · simp [stepLines, hl]
  · intro i _ _
    simp [stepLines]

theorem map_text_stepLines (h : r.Aligned) : r.stepLines.map (·.text) = r.steps := by
  have hl : r.steps.length = r.keywords.length := h
  apply List.ext_getElem
  · simp [stepLines, hl]
  · intro i _ _
    simp [stepLines]

theorem length_stepLines_of_aligned (h : r.Aligned) : r.stepLines.length = r.steps.length := by
  rw [← map_text_stepLines h, List.length_map]

theorem ofStepLines?_stepLines (h : r.Aligned) :
    ofStepLines? r.tags r.feature r.scenario r.stepLines = .ok r := by
  rw [ofStepLines?_eq_ok, map_keyword_stepLines h, map_text_stepLines h]

section Pairs

variable {tags : List String} {feature scenario : String} {lines : List StepLine}

theorem aligned_of_ofStepLines? (h : ofStepLines? tags feature scenario lines = .ok r) :
    r.Aligned := by
  obtain ⟨same, rfl⟩ := make?_eq_ok_iff.1 h
  exact same

/-- Pairs come out of a record as they went in. -/
theorem stepLines_of_ofStepLines? (h : ofStepLines? tags feature scenario lines = .ok r) :
    r.stepLines = lines := by
  obtain ⟨-, rfl⟩ := make?_eq_ok_iff.1 h
  apply List.ext_getElem
  · simp [stepLines]
  · intro i _ _
    simp [stepLines]

end Pairs

end SoloScenario.Record

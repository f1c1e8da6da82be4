import SoloScenario.Proofs.FirstOffence
import SoloScenario.Proofs.LoadedDocument
import SoloScenario.Proofs.StepAccounts

/-! The ways to a record: from its lists, from tags and steps that another program
parsed, from pairs, from a loaded value. All of them keep steps and keywords aligned,
and every aligned record is reached. A record cannot be made of misaligned lists, for
the reason that its check would give if it could. -/

namespace SoloScenario.Record

/-- A record that was made in one of the ways to a record. -/
inductive Built : Record → Prop where
  | lists {tags : List String} {feature scenario : String} {steps keywords : List String}
      {r : Record} (h : make? tags feature scenario steps keywords = .ok r) : Built r
  | parsed {tags : List ParsedTag} {feature scenario : String} {steps : List ParsedStep}
      {keywords : List String} {r : Record}
      (h : ofParsed? tags feature scenario steps keywords = .ok r) : Built r
  | pairs {tags : List String} {feature scenario : String} {lines : List StepLine} {r : Record}
      (h : ofStepLines? tags feature scenario lines = .ok r) : Built r
  | loaded {source : String} {v : Value} {r : Record} (h : (load source v).1 = .ok r) : Built r

variable {tags : List String} {feature scenario : String} {steps keywords : List String}
  {r : Record}

theorem aligned_of_make? (h : make? tags feature scenario steps keywords = .ok r) : r.Aligned := by
  obtain ⟨same, rfl⟩ := make?_eq_ok_iff.1 h
  exact same

theorem Built.aligned (h : Built r) : r.Aligned := by
  cases h with
  | lists h => exact aligned_of_make? h
  | parsed h => exact aligned_of_make? h
  | pairs h => exact aligned_of_ofStepLines? h
  | loaded h =>
    rw [load_fst] at h
    obtain ⟨-, p, -, -, rfl⟩ := exists_parts_of_ofValue? h
    exact aligned_record p

/-! ### One record in three ways -/

theorem exists_make?_eq_ok_iff :
    (∃ r, make? tags feature scenario steps keywords = .ok r) ↔ steps.length = keywords.length := by
  simp [make?_eq_ok_iff]

/-- Parsed tags and steps count as their names and texts. -/
theorem ofParsed?_map (tags : List String) (feature scenario : String)
    (steps keywords : List String) :
    ofParsed? (tags.map .mk) feature scenario (steps.map .mk) keywords =
      make? tags feature scenario steps keywords := by
  simp [ofParsed?, Function.comp_def]

/-- Lines pair keywords with steps, index by index. -/
def PairsUp (keywords steps : List String) (lines : List StepLine) : Prop :=
  ∀ i : Nat, lines[i]?.map (·.keyword) = keywords[i]? ∧ lines[i]?.map (·.text) = steps[i]?

theorem pairsUp_iff {lines : List StepLine} : PairsUp keywords steps lines ↔
    lines.map (·.keyword) = keywords ∧ lines.map (·.text) = steps := by
  simp only [PairsUp, List.ext_getElem?_iff, List.getElem?_map, forall_and]

theorem pairsUp_stepLines (h : r.Aligned) : PairsUp r.keywords r.steps r.stepLines :=
  pairsUp_iff.2 ⟨map_keyword_stepLines h, map_text_stepLines h⟩

/-- The ways to a record from its parts lead to the same one, and it has these parts. -/
structure BuildsAlike (tags : List String) (feature scenario : String)
    (steps keywords : List String) : Prop where
  made_iff : (∃ r, make? tags feature scenario steps keywords = .ok r) ↔
    steps.length = keywords.length
  parsed_iff :
    (∃ r, ofParsed? (tags.map .mk) feature scenario (steps.map .mk) keywords = .ok r) ↔
      steps.length = keywords.length
  /-- Both refuse for one reason. -/
  refused : steps.length ≠ keywords.length →
    ∃ m, make? tags feature scenario steps keywords = .error m ∧
      ofParsed? (tags.map .mk) feature scenario (steps.map .mk) keywords = .error m ∧
      m.message =
        s!"Expected one keyword per step, got {keywords.length} keywords for {steps.length} steps."
  same : ∀ r, make? tags feature scenario steps keywords = .ok r →
    ofParsed? (tags.map .mk) feature scenario (steps.map .mk) keywords = .ok r ∧
      (∃ lines, PairsUp keywords steps lines) ∧
      ∀ lines, PairsUp keywords steps lines → ofStepLines? tags feature scenario lines = .ok r
  verbatim : ∀ r, make? tags feature scenario steps keywords = .ok r →
    r.tags = tags ∧ r.feature = feature ∧ r.scenario = scenario ∧ r.steps = steps ∧
      r.keywords = keywords
  /-- Pairs are never refused, and come out as they went in. -/
  paired : ∀ lines : List StepLine, ∃ r, ofStepLines? tags feature scenario lines = .ok r ∧
    make? tags feature scenario (lines.map (·.text)) (lines.map (·.keyword)) = .ok r ∧
    r.stepLines = lines
  /-- A record is that of its own pairs. -/
  rebuilt : ∀ r, Built r → ofStepLines? r.tags r.feature r.scenario r.stepLines = .ok r

theorem buildsAlike (tags : List String) (feature scenario : String)
    (steps keywords : List String) : BuildsAlike tags feature scenario steps keywords where
  made_iff := exists_make?_eq_ok_iff
  parsed_iff := by
    rw [ofParsed?_map]
    exact exists_make?_eq_ok_iff
  refused misaligned := by
    rw [ofParsed?_map]
    exact ⟨_, make?_eq_error_iff.2 ⟨misaligned, rfl⟩, make?_eq_error_iff.2 ⟨misaligned, rfl⟩, rfl⟩
  same r made := by
    rw [ofParsed?_map]
    obtain ⟨aligned, rfl⟩ := make?_eq_ok_iff.1 made
    have own := pairsUp_stepLines (aligned_of_make? made)
    refine ⟨made, ⟨_, own⟩, fun lines pairs => ?_⟩
    obtain ⟨hk, hs⟩ := pairsUp_iff.1 pairs
    rw [ofStepLines?, hk, hs]
    exact made
  verbatim r made := by
    obtain ⟨-, rfl⟩ := make?_eq_ok_iff.1 made
    exact ⟨rfl, rfl, rfl, rfl, rfl⟩
  paired lines := by
    have made := ofStepLines?_eq_ok tags feature scenario lines
    exact ⟨_, made, made, stepLines_of_ofStepLines? made⟩
  rebuilt r built := ofStepLines?_stepLines built.aligned

/-! ### One rule of alignment -/

/-- The path of a warning is told by its first character. -/
theorem ne_keywords_of_mem_warningPaths {a : String} (h : a ∈ warningPaths r) : a ≠ "keywords" := by
  have other : ∀ b : String, b.toList.head? ≠ some 'k' → b ≠ "keywords" := by
    rintro b hb rfl
    exact hb rfl
  simp only [warningPaths, List.mem_append] at h
  obtain h | h | h := h
  · obtain ⟨i, -, rfl⟩ := List.mem_map.1 h
    exact other _ (by simp [tagPath, toString])
  · obtain ⟨i, rfl⟩ := exists_of_mem_keywordWarningPaths r h
    exact other _ (by simp [keywordPath, toString])
  · split at h
    · rw [List.mem_singleton.1 h]
      decide
    · cases h

theorem ne_keywords_of_mem_warnings {w : Issue} (h : w ∈ r.check.warnings) :
    w.path ≠ "keywords" := by
  have listed : w.path ∈ r.warnings.map (·.path) := List.mem_map_of_mem h
  rw [map_path_warnings] at listed
  exact ne_keywords_of_mem_warningPaths listed

/-- A misalignment is told of by one error. -/
theorem filter_keywords_of_misaligned (h : r.steps.length ≠ r.keywords.length) :
    r.check.errors.filter (·.path = "keywords") =
      [Misaligned.issue ⟨r.keywords.length, r.steps.length⟩] := by
  have steps : ∀ e : Issue, (decide (e.path = "keywords") && concernsSteps e) =
      decide (e.path = "keywords") := by
    intro e
    by_cases he : e.path = "keywords" <;> simp [concernsSteps, he]
  have both := congrArg (List.filter (·.path = "keywords")) (filter_errors_of_misaligned h)
  simp only [List.filter_filter, steps] at both
  rw [both]
  rfl

/-- The constructor refuses what the check has an error for, and with that error. -/
structure OneRule (tags : List String) (feature scenario : String) (steps keywords : List String) :
    Prop where
  refused_iff : (∃ m, make? tags feature scenario steps keywords = .error m) ↔
    ∃ e ∈ (check ⟨tags, feature, scenario, steps, keywords⟩).errors, e.path = "keywords"
  /-- The refusal carries the one error of its kind. -/
  carried : ∀ m, make? tags feature scenario steps keywords = .error m → ∃ e, m.issues = [e] ∧
    (check ⟨tags, feature, scenario, steps, keywords⟩).errors.filter (·.path = "keywords") = [e] ∧
    e = ⟨Misaligned.path, m.message, .error⟩ ∧ m.text = e.path ++ ": " ++ e.message
  message : ∀ m, make? tags feature scenario steps keywords = .error m → m.message =
    s!"Expected one keyword per step, got {keywords.length} keywords for {steps.length} steps."
  built : ∀ r, Built r → ∀ e ∈ r.check.errors ++ r.check.warnings, e.path ≠ "keywords"

theorem oneRule (tags : List String) (feature scenario : String) (steps keywords : List String) :
    OneRule tags feature scenario steps keywords where
  refused_iff := by
    rw [exists_error_keywords_iff]
    simp [make?_eq_error_iff]
  carried m refused := by
    obtain ⟨misaligned, rfl⟩ := make?_eq_error_iff.1 refused
    exact ⟨_, rfl, filter_keywords_of_misaligned misaligned, rfl, rfl⟩
  message m refused := by
    obtain ⟨-, rfl⟩ := make?_eq_error_iff.1 refused
    rfl
  built r built e he := by
    obtain he | he := List.mem_append.1 he
    · exact fun keywords => exists_error_keywords_iff.1 ⟨e, he, keywords⟩ built.aligned
    · exact ne_keywords_of_mem_warnings he

example : Misaligned.text ⟨1, 2⟩ =
    "keywords: Expected one keyword per step, got 1 keywords for 2 steps." := by decide +kernel

end SoloScenario.Record

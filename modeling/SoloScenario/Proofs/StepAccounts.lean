import SoloScenario.Document.Basic
import SoloScenario.Proofs.IssuePaths
import SoloScenario.Report

/-! Every step and every keyword of a record is accounted for. Pairing the two lists ends
with the shorter one, so a document leaves something out exactly if they differ in length,
and that is exactly what the check reports as a misalignment. A record that passes the check
has every step in its document, and the counts that are told of it are those of its lines. -/

namespace SoloScenario

namespace Record

variable {r : Record}

/-! ### Findings of a misalignment -/

theorem mem_errorPaths_keywords_iff :
    "keywords" ∈ errorPaths r ↔ r.steps.length ≠ r.keywords.length := by
  constructor
  · intro h
    simp only [errorPaths, List.mem_append] at h
    obtain h | h | h := h
    · exact absurd (eq_of_mem_namePaths h) (by decide)
    · exact absurd (eq_of_mem_namePaths h) (by decide)
    · obtain ⟨-, misaligned⟩ | ⟨i, h⟩ := mem_stepErrorPaths h
      · exact misaligned
      · exact absurd h (ne_stepPath (by decide) i)
  · intro misaligned
    simp [errorPaths, stepErrorPaths, misaligned]

theorem exists_error_keywords_iff :
    (∃ e ∈ r.check.errors, e.path = "keywords") ↔ r.steps.length ≠ r.keywords.length := by
  rw [← mem_errorPaths_keywords_iff, ← map_path_errors, List.mem_map]
  rfl

/-- Whether an issue is about more than a name. -/
def concernsSteps (e : Issue) : Bool := e.path ≠ "group_name" && e.path ≠ "name"

theorem path_of_mem_checkName {path word name : String} {e : Issue}
    (h : e ∈ checkName path word name) : e.path = path := by
  have listed : e.path ∈ (checkName path word name).map (·.path) := List.mem_map_of_mem h
  rw [map_path_checkName] at listed
  exact eq_of_mem_namePaths listed

/-- Of the errors of a misaligned record, all but those of its names are the misalignment. -/
theorem filter_errors_of_misaligned (h : r.steps.length ≠ r.keywords.length) :
    r.check.errors.filter concernsSteps =
      [Misaligned.issue ⟨r.keywords.length, r.steps.length⟩] := by
  have names : ∀ path word name, path ∈ ["group_name", "name"] →
      (checkName path word name).filter concernsSteps = [] := by
    intro path word name hp
    refine List.filter_eq_nil_iff.2 fun e he => ?_
    rw [concernsSteps, path_of_mem_checkName he]
    revert hp
    simp only [List.mem_cons, List.not_mem_nil, or_false]
    rintro (rfl | rfl) <;> decide
  rw [check, errors, List.filter_append, List.filter_append, names _ _ _ (by simp),
    names _ _ _ (by simp), stepErrors, if_pos h]
  rfl

/-- A misaligned record is warned of no keyword. -/
theorem path_ne_keywordPath_of_misaligned (h : r.steps.length ≠ r.keywords.length) {w : Issue}
    (hw : w ∈ r.check.warnings) (i : Nat) : w.path ≠ keywordPath i := by
  intro hi
  have listed : keywordPath i ∈ r.warnings.map (·.path) := hi ▸ List.mem_map_of_mem hw
  rw [map_path_warnings, warningPaths, keywordWarningPaths, if_neg h, List.nil_append,
    List.mem_append] at listed
  obtain listed | listed := listed
  · obtain ⟨j, -, same⟩ := List.mem_map.1 listed
    exact tagPath_ne_keywordPath j i same
  · split at listed
    · exact keywordPath_ne_steps i (List.mem_singleton.1 listed)
    · cases listed

end Record

namespace Document

/-! ### The lines of steps -/

/-- The lines of a document before those of its steps. -/
def opening (r : Record) : List String :=
  ["Feature: " ++ r.feature, ""] ++ r.tags ++ ["Scenario: " ++ r.scenario]

/-- The lines of steps among the lines of a document: those after the scenario and before the
last two. -/
def stepPart (r : Record) (lines : List String) : List String :=
  (lines.drop (opening r).length).dropLast.dropLast

variable (c : Config) (r : Record) (t : Time.Stamp)

theorem lines_eq_opening :
    lines c r t = opening r ++ (r.stepLines.map StepLine.line ++ ["", footer c t]) := by
  simp [lines, bodyLines, opening]

theorem stepPart_lines : stepPart r (lines c r t) = r.stepLines.map StepLine.line := by
  have last : ["", footer c t] = [""] ++ [footer c t] := rfl
  rw [stepPart, lines_eq_opening, List.drop_left, last, ← List.append_assoc, List.dropLast_concat,
    List.dropLast_concat]

/-- The lines of steps lack a step or a keyword of a record: the line at its index is not there,
or does not end or start with it. -/
inductive Drops (steps : List String) : Prop where
  | step (i : Nat) (text : String) (there : r.steps[i]? = some text)
      (lost : ∀ keyword, steps[i]? ≠ some (keyword ++ " " ++ text))
  | keyword (i : Nat) (keyword : String) (there : r.keywords[i]? = some keyword)
      (lost : ∀ text, steps[i]? ≠ some (keyword ++ " " ++ text))

variable {r}

/-- The line at an index is made of the keyword and the step at that index. -/
theorem getElem?_map_line {i : Nat} {keyword text : String} (hk : r.keywords[i]? = some keyword)
    (hs : r.steps[i]? = some text) :
    (r.stepLines.map StepLine.line)[i]? = some (keyword ++ " " ++ text) := by
  rw [List.getElem?_map, Record.stepLines, List.getElem?_zipWith, hk, hs]
  rfl

theorem length_map_line :
    (r.stepLines.map StepLine.line).length = min r.steps.length r.keywords.length := by
  rw [List.length_map, Record.length_stepLines, Nat.min_comm]

theorem drops_iff :
    Drops r (r.stepLines.map StepLine.line) ↔ r.steps.length ≠ r.keywords.length := by
  constructor
  · intro drops aligned
    cases drops with
    | step i text there lost =>
      obtain ⟨hs, -⟩ := List.getElem?_eq_some_iff.1 there
      exact lost _ (getElem?_map_line (List.getElem?_eq_getElem (aligned ▸ hs)) there)
    | keyword i keyword there lost =>
      obtain ⟨hk, -⟩ := List.getElem?_eq_some_iff.1 there
      exact lost _ (getElem?_map_line there (List.getElem?_eq_getElem (aligned.symm ▸ hk)))
  · intro misaligned
    -- the first index past the end of the shorter list
    have past : (r.stepLines.map StepLine.line)[min r.steps.length r.keywords.length]? = none :=
      List.getElem?_eq_none (Nat.le_of_eq length_map_line)
    obtain fewer | more := Nat.lt_or_gt_of_ne misaligned
    · rw [Nat.min_eq_left (by omega)] at past
      exact .keyword _ _ (List.getElem?_eq_getElem fewer) fun _ => by simp [past]
    · rw [Nat.min_eq_right (by omega)] at past
      exact .step _ _ (List.getElem?_eq_getElem more) fun _ => by simp [past]

/-! ### Counts -/

/-- The number of steps in the summary of a report. -/
def summarySteps (report : Report) : Except ReportFault Value := do
  Envelope.part (← Envelope.part report.value "summary") "steps"

theorem summarySteps_eq (report : Report) :
    summarySteps report = .ok (Report.count report.record.stepCount) := rfl

/-! ### Steps accounted for -/

/-- The lines of steps in the document of a record account for all its steps and keywords, unless
its check says that they do not. -/
structure AccountsFor (c : Config) (r : Record) (t : Time.Stamp) (steps : List String) : Prop where
  /-- These are the lines of steps. -/
  place : lines c r t = opening r ++ (steps ++ ["", footer c t])
  length : steps.length = min r.steps.length r.keywords.length
  drops_iff : Drops r steps ↔ r.steps.length ≠ r.keywords.length
  reported_iff : Drops r steps ↔ ∃ e ∈ r.check.errors, e.path = "keywords"
  /-- The report of what is left out is the only one on steps. -/
  reported : Drops r steps → r.check.valid = false ∧
    r.check.errors.filter Record.concernsSteps =
      [Misaligned.issue ⟨r.keywords.length, r.steps.length⟩] ∧
    ∀ w ∈ r.check.warnings, ∀ i, w.path ≠ Record.keywordPath i
  shown : r.check.valid = true →
    steps.length = r.steps.length ∧ steps.length = r.keywords.length ∧
      ∀ (i : Nat) (hk : i < r.keywords.length) (hs : i < r.steps.length),
        steps[i]? = some (r.keywords[i] ++ " " ++ r.steps[i])
  logged : r.check.valid = true → (render c r t).2 =
    [⟨.debug, "scenario_split.render.feature_renderer",
      s!"Rendered scenario '{r.scenario}' of feature '{r.feature}' ({steps.length} steps)"⟩]
  summed : r.check.valid = true →
    ∀ report : Report, report.record = r → summarySteps report = .ok (.int steps.length)

/-- No step of a record is left out of its document unless its check reports it. -/
theorem accountsFor_stepPart (c : Config) (r : Record) (t : Time.Stamp) :
    AccountsFor c r t (stepPart r (lines c r t)) := by
  rw [stepPart_lines]
  have aligned (valid : r.check.valid = true) : r.Aligned := (Record.valid_check.1 valid).aligned
  have count (valid : r.check.valid = true) :
      (r.stepLines.map StepLine.line).length = r.steps.length := by
    rw [List.length_map, Record.length_stepLines_of_aligned (aligned valid)]
  constructor
  · exact lines_eq_opening c r t
  · exact length_map_line
  · exact drops_iff
  · rw [drops_iff, Record.exists_error_keywords_iff]
  · intro drops
    have misaligned := drops_iff.1 drops
    refine ⟨?_, Record.filter_errors_of_misaligned misaligned,
      fun _ hw i => Record.path_ne_keywordPath_of_misaligned misaligned hw i⟩
    exact Bool.eq_false_iff.2 fun valid => misaligned (aligned valid)
  · intro valid
    exact ⟨count valid, (count valid).trans (aligned valid), fun i hk hs =>
      getElem?_map_line (List.getElem?_eq_getElem hk) (List.getElem?_eq_getElem hs)⟩
  · intro valid
    rw [count valid]
    rfl
  · intro valid report hr
    rw [count valid, summarySteps_eq, hr]
    rfl

end Document

end SoloScenario

import SoloScenario.Proofs.Envelopes
import SoloScenario.Proofs.IssuePaths

/-! What an envelope tells of a record that was checked. Whether it tells of success is
said three times over, by the check, by the status of the report and by the envelope, and the
errors are listed beside it; here the envelope is read part by part, and all of it agrees with
the record. -/

namespace SoloScenario

namespace Envelope

/-! ### Reading an envelope -/

/-- A value shows an issue: its path and its message. -/
structure ShowsIssue (v : Value) (i : Issue) : Prop where
  path : part v "path" = .ok (.text i.path)
  message : part v "message" = .ok (.text i.message)

/-- A value lists issues: as many items, in the order of the issues, and each shows its issue. -/
def ShowsIssues (v : Value) (issues : List Issue) : Prop :=
  ∃ items, v = .list items ∧ List.Forall₂ ShowsIssue items issues

/-- An envelope with these parts tells the truth about a record that was checked and about the
path that its document was put at. -/
structure TellsTruth (r : Record) (output : Option String) (success : Bool) (data : Value)
    (message : String) : Prop where
  /-- The errors are those of the check. They are none if all is well with the record, and the
  message counts them otherwise. -/
  errors : ∃ errors, part data "errors" = .ok errors ∧ ShowsIssues errors r.check.errors ∧
    (success = true ↔ size errors = .ok 0) ∧
    (success = false → ∃ n, size errors = .ok n ∧ 1 ≤ n ∧ message = s!"{n} validation errors")
  success_iff : success = true ↔ r.Sound
  warnings : ∃ warnings, part data "warnings" = .ok warnings ∧
    ShowsIssues warnings r.check.warnings
  tags : part data "tags" = .ok (.int r.tags.length)
  steps : part data "steps" = .ok (.int r.steps.length)
  /-- The path is told if it is not empty. -/
  output : ∀ v, part data "output" = .ok v ↔ ∃ path, output = some path ∧ path ≠ "" ∧ v = .text path

/-! ### Issues -/

theorem showsIssue_issueValue (i : Issue) : ShowsIssue (Report.issueValue i) i := ⟨rfl, rfl⟩

theorem showsIssues_issueValues (issues : List Issue) :
    ShowsIssues (Report.issueValues issues) issues := by
  refine ⟨issues.map Report.issueValue, rfl, ?_⟩
  induction issues with
  | nil => exact .nil
  | cons i issues ih => exact .cons (showsIssue_issueValue i) ih

theorem size_issueValues (issues : List Issue) :
    size (Report.issueValues issues) = .ok issues.length := by
  rw [Report.issueValues, size, List.length_map]

/-! ### Paths of documents -/

theorem part_output_data (report : Report) (v : Value) :
    part (Report.object report.data) "output" = .ok v ↔
      ∃ path, report.output = some path ∧ path ≠ "" ∧ v = .text path := by
  have last : part (Report.object report.data) "output" =
      part (Report.object (Report.outputEntry report.output)) "output" := rfl
  rw [last]
  cases report.output with
  | none => exact iff_of_false nofun nofun
  | some path =>
    by_cases empty : path = ""
    · subst empty
      refine iff_of_false nofun ?_
      rintro ⟨_, same, some, -⟩
      exact some (Option.some.inj same).symm
    · have told : part (Report.object (Report.outputEntry (some path))) "output" =
          .ok (.text path) := by
        rw [Report.outputEntry, if_neg empty]
        rfl
      simp [told, empty, eq_comm]

/-! ### Checked records -/

/-- The errors of a check are counted as none exactly if the record passes it. -/
theorem valid_iff_size (r : Record) :
    r.check.valid = true ↔ size (Report.issueValues r.check.errors) = .ok 0 := by
  rw [r.valid_check_iff, size_issueValues, Except.ok.injEq, List.length_eq_zero_iff]

/-- The message of a record that does not pass its check counts the errors, of which there are
some. -/
theorem message_of_invalid {report : Report} {r : Record} (checked : report.findings = some r.check)
    (invalid : r.check.valid = false) (command : String) :
    ∃ n, size (Report.issueValues r.check.errors) = .ok n ∧ 1 ≤ n ∧
      report.message command = s!"{n} validation errors" := by
  refine ⟨_, size_issueValues _, ?_, ?_⟩
  · rw [Nat.one_le_iff_ne_zero, Ne, List.length_eq_zero_iff, ← r.valid_check_iff, invalid]
    decide
  · simp [Report.message, Report.isValid, Report.errors, checked, invalid]

/-- The envelope of a checked record tells the truth about it. -/
theorem tellsTruth_ofReport (r : Record) (made : String) (text output : Option String)
    (command : String) :
    ∃ success data message,
      ofReport command (Report.value ⟨made, r, text, output, some r.check⟩) =
        .ok (make success command data message) ∧
      TellsTruth r output success data message := by
  refine ⟨_, _, _, Report.ofReport_value command _, ?_⟩
  constructor
  · exact ⟨_, rfl, showsIssues_issueValues r.check.errors, valid_iff_size r,
      fun invalid => message_of_invalid rfl invalid command⟩
  · exact Record.valid_check.trans (Record.valid_iff_sound r)
  · exact ⟨_, rfl, showsIssues_issueValues r.check.warnings⟩
  · rfl
  · rfl
  · exact part_output_data _

end Envelope

end SoloScenario

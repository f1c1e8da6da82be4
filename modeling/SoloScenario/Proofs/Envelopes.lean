import SoloScenario.Command.Run
import SoloScenario.Proofs.Clean
import SoloScenario.Proofs.JsonRoundTrip

/-! Envelopes as they are printed. Every report has an envelope; its data and its
message are given here in closed form. An envelope of plain data is printed as
one line, and the line is read back as the envelope. What it counts has few enough
digits to be printed, since no list has more members than memory holds. -/

namespace SoloScenario

open Json

/-! ### The envelope of a report -/

namespace Report

/-- The errors that were found. -/
def errors (r : Report) : List Issue := (r.findings.map (·.errors)).getD []

/-- The warnings that were found. -/
def warnings (r : Report) : List Issue := (r.findings.map (·.warnings)).getD []

/-- The entry that tells where a document was put. -/
def outputEntry : Option String → List (String × Value)
  | some path => if path = "" then [] else [("output", .text path)]
  | none => []

/-- The data of a report's envelope. -/
def data (r : Report) : List (String × Value) :=
  [("feature", .text r.record.feature), ("scenario", .text r.record.scenario),
    ("tags", count r.record.tagCount), ("steps", count r.record.stepCount),
    ("errors", issueValues r.errors),
    ("warnings", issueValues r.warnings)] ++ outputEntry r.output

/-- The message of a report's envelope. -/
def message (command : String) (r : Report) : String :=
  if r.isValid then
    if command = "render" then s!"Rendered scenario '{r.record.scenario}'" else "Record is valid"
  else s!"{r.errors.length} validation errors"

/-- The envelope of a report. -/
def envelope (command : String) (r : Report) : Value :=
  Envelope.make r.isValid command (object r.data) (r.message command)

theorem outputEntry_value (r : Report) : Envelope.outputEntry r.value = outputEntry r.output := by
  obtain ⟨timestamp, record, text, output, findings⟩ := r
  cases output with
  | none => rfl
  | some path =>
    by_cases empty : path = ""
    · subst empty
      rfl
    · simp [Envelope.outputEntry, Envelope.part, value, object, Value.field?, Value.isText,
        outputEntry, Value.isEmpty, empty]

theorem message_value (command : String) (r : Report) :
    Envelope.message r.isValid command (.text r.record.scenario) (issueValues r.errors) =
      .ok (r.message command) := by
  unfold Envelope.message message
  cases r.isValid with
  | false => simp [issueValues, Envelope.size]
  | true =>
    by_cases h : command = "render"
    · simp [h, Value.display, Value.hasText]
    · simp [h]

/-- Every report has an envelope. -/
theorem ofReport_value (command : String) (r : Report) :
    Envelope.ofReport command r.value = .ok (r.envelope command) := by
  have status : Envelope.part r.value "status" =
      .ok (.text (if r.isValid then "valid" else "invalid")) := rfl
  have valid : Value.isText "valid" (.text (if r.isValid then "valid" else "invalid")) =
      r.isValid := by
    cases r.isValid <;> decide
  have summary : Envelope.part r.value "summary" =
      .ok (object [("tags", count r.record.tagCount), ("steps", count r.record.stepCount),
        ("lines", count r.lineCount)]) := rfl
  have feature : Envelope.part r.value "feature" = .ok (.text r.record.feature) := rfl
  have scenario : Envelope.part r.value "scenario" = .ok (.text r.record.scenario) := rfl
  have errors : Envelope.part r.value "errors" = .ok (issueValues r.errors) := rfl
  have warnings : Envelope.part r.value "warnings" = .ok (issueValues r.warnings) := rfl
  rw [Envelope.ofReport, status, summary, feature, scenario, errors, warnings]
  simp only [ok_bind, valid, outputEntry_value, message_value]
  rfl

/-! ### Plain data -/

theorem plain_count (n : Nat) : Plain (count n) := .int n

/-- What memory holds is counted in few digits. -/
theorem hasText_count {n : Nat} (h : n ≤ Value.maxMembers) : (count n).hasText = true := by
  have small : n < Nat.pow 10 19 := Nat.lt_of_le_of_lt h (by decide)
  have few : (Text.decimal n).length ≤ 19 := (Text.length_decimal_le_iff (by decide)).2 small
  rw [count, Value.hasText, Text.isShort, Int.natAbs_natCast, decide_eq_true_eq]
  exact Nat.le_trans few (by decide)

theorem hasText_issueValues (issues : List Issue) : (issueValues issues).hasText = true := by
  refine Value.allHaveText_iff.2 fun v hv => ?_
  obtain ⟨i, -, rfl⟩ := List.mem_map.1 hv
  rfl

theorem plain_issueValue (i : Issue) : Plain (issueValue i) := by
  refine .object (by simp) fun e he => ?_
  simp only [List.mem_cons, List.not_mem_nil, or_false] at he
  obtain rfl | rfl := he
  · exact .text i.path
  · exact .text i.message

theorem plain_issueValues (issues : List Issue) : Plain (issueValues issues) := by
  refine .list fun v hv => ?_
  obtain ⟨i, -, rfl⟩ := List.mem_map.1 hv
  exact plain_issueValue i

theorem plain_data (r : Report) : Plain (object r.data) := by
  have output : outputEntry r.output = [] ∨
      ∃ path, outputEntry r.output = [("output", .text path)] := by
    unfold outputEntry
    split
    · next path _ =>
      split
      · exact .inl rfl
      · exact .inr ⟨path, rfl⟩
    · exact .inl rfl
  have plain : ∀ e ∈ r.data, Plain e.2 := by
    simp only [data, List.mem_append, List.mem_cons, List.not_mem_nil, or_false]
    rintro e ((rfl | rfl | rfl | rfl | rfl | rfl) | he)
    · exact .text r.record.feature
    · exact .text r.record.scenario
    · exact plain_count r.record.tagCount
    · exact plain_count r.record.stepCount
    · exact plain_issueValues r.errors
    · exact plain_issueValues r.warnings
    · obtain none | ⟨path, some⟩ := output
      · simp [none] at he
      · rw [some, List.mem_singleton] at he
        exact he ▸ .text path
  refine .object ?_ plain
  obtain none | ⟨path, some⟩ := output
  · simp [data, none]
  · simp [data, some]

/-- The lists of a record are no longer than memory holds. -/
structure FitsMemory (r : Report) : Prop where
  tags : r.record.tagCount ≤ Value.maxMembers
  steps : r.record.stepCount ≤ Value.maxMembers

theorem hasText_data {r : Report} (h : r.FitsMemory) : (object r.data).hasText = true := by
  refine hasText_object.2 ?_
  simp only [data, List.mem_append, List.mem_cons, List.not_mem_nil, or_false]
  rintro e ((rfl | rfl | rfl | rfl | rfl | rfl) | he)
  · rfl
  · rfl
  · exact hasText_count h.tags
  · exact hasText_count h.steps
  · exact hasText_issueValues r.errors
  · exact hasText_issueValues r.warnings
  · unfold outputEntry at he
    grind [Value.hasText]

end Report

/-! ### Lines with an envelope -/

/-- A text is one line, and what the line spells as JSON is an envelope with these parts. -/
def IsEnvelope (text : String) (success : Bool) (command : String) (data : Value)
    (message : String) : Prop :=
  ∃ line, text = line ++ "\n" ∧ Text.breaksLine line = false ∧
    Value.ofJson? line = some (Envelope.make success command data message)

theorem plain_make {data : Value} (h : Plain data) (success : Bool) (command message : String) :
    Plain (Envelope.make success command data message) := by
  refine .object (by simp) fun e he => ?_
  simp only [List.mem_cons, List.not_mem_nil, or_false] at he
  obtain rfl | rfl | rfl | rfl := he
  · exact .bool success
  · exact .text command
  · exact h
  · exact .text message

theorem hasText_make (success : Bool) (command : String) (data : Value) (message : String) :
    (Envelope.make success command data message).hasText = data.hasText := by
  rw [Bool.eq_iff_iff, Envelope.make, hasText_object]
  simp [Value.hasText]

namespace Command

theorem isEnvelope_envelopeLine {data : Value} (h : Plain data) (short : data.hasText = true)
    (success : Bool) (command message : String) :
    IsEnvelope (envelopeLine (Envelope.make success command data message)) success command data
      message := by
  obtain ⟨line, written, read, unbroken⟩ :=
    (plain_make h success command message).exists_toJson? (by rwa [hasText_make]) .compact
  refine ⟨line, by simp [envelopeLine, written], ?_, read⟩
  refine Text.breaksLine_eq_false_iff.2 fun c hc => ?_
  have control : 0x20 ≤ c.toNat := unbroken rfl c hc
  rw [Text.isLineEnd, Bool.or_eq_false_iff, decide_eq_false_iff_not, decide_eq_false_iff_not]
  constructor <;> rintro rfl <;> exact absurd control (by decide)

/-- Where nothing is printed, there is no envelope. -/
theorem not_isEnvelope_empty {success : Bool} {command : String} {data : Value}
    {message : String} : ¬ IsEnvelope "" success command data message := by
  rintro ⟨line, empty, -⟩
  have chars := congrArg String.toList empty
  simp at chars

/-- The line of a report is its envelope. -/
theorem isEnvelope_reportLine (command : String) {r : Report} (h : r.FitsMemory) :
    IsEnvelope (reportLine command r) r.isValid command (Report.object r.data)
      (r.message command) := by
  rw [reportLine, r.ofReport_value command]
  exact isEnvelope_envelopeLine r.plain_data (Report.hasText_data h) r.isValid command
    (r.message command)

/-- The line of a failure is an envelope without data. -/
theorem isEnvelope_failureLine (command message : String) :
    IsEnvelope (failureLine command message) false command .null message :=
  isEnvelope_envelopeLine .null rfl false command message

end Command

end SoloScenario

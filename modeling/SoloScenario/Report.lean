import SoloScenario.Json.Text
import SoloScenario.Record.Check
import SoloScenario.Value.Display

/-! Reports on records, and the envelope that a command prints: whether it
succeeded, its name, its data and a message. An envelope is made from a report as
a value, which may also come from elsewhere and lack parts. -/

namespace SoloScenario

/-- What a run tells of a record. -/
structure Report where
  timestamp : String
  record : Record
  /-- The document, if it was written. -/
  text : Option String
  output : Option String
  /-- The outcome of the check, if there was one. -/
  findings : Option Findings

namespace Report

/-- A mapping with texts for keys. -/
def object (entries : List (String × Value)) : Value :=
  .map (entries.map fun (k, v) => (.text k, v))

def count (n : Nat) : Value := .int n

def issueValue (i : Issue) : Value := object [("path", .text i.path), ("message", .text i.message)]

def issueValues (issues : List Issue) : Value := .list (issues.map issueValue)

/-- A record that was not checked counts as valid. -/
def isValid (r : Report) : Bool := (r.findings.map (·.valid)).getD true

def lineCount (r : Report) : Nat := (r.text.map fun t => (Text.splitLines t.toList).length).getD 0

def value (r : Report) : Value :=
  object [("timestamp", .text r.timestamp), ("feature", .text r.record.feature),
    ("scenario", .text r.record.scenario),
    ("status", .text (if r.isValid then "valid" else "invalid")),
    ("summary", object [("tags", count r.record.tagCount), ("steps", count r.record.stepCount),
      ("lines", count r.lineCount)]),
    ("output", (r.output.map .text).getD .null),
    ("errors", issueValues ((r.findings.map (·.errors)).getD [])),
    ("warnings", issueValues ((r.findings.map (·.warnings)).getD []))]

end Report

/-! ### Envelopes -/

inductive ReportFault where
  | missing (key : String)
  | notMapping
  /-- Errors that cannot be counted. -/
  | notCountable
  /-- A scenario with a whole number of too many digits. -/
  | tooManyDigits
  deriving DecidableEq, Repr

def ReportFault.message : ReportFault → String
  | .missing key => Text.quoted key
  | .notMapping => "not a mapping"
  | .notCountable => "not countable"
  | .tooManyDigits => Text.tooManyDigits

namespace Envelope

/-- The part of a value under a key. -/
def part (v : Value) (key : String) : Except ReportFault Value :=
  match v with
  | .map entries =>
    match Value.field? entries key with
    | some w => .ok w
    | none => .error (.missing key)
  | _ => .error .notMapping

def size : Value → Except ReportFault Nat
  | .list items | .tuple items | .set items => .ok items.length
  | .map entries => .ok entries.length
  | .text s => .ok s.length
  | .bytes bs => .ok bs.length
  | _ => .error .notCountable

def make (success : Bool) (command : String) (data : Value) (message : String) : Value :=
  Report.object [("success", .bool success), ("command", .text command), ("data", data),
    ("message", .text message)]

/-- Where the document was put, if a report tells it. -/
def outputEntry (report : Value) : List (String × Value) :=
  match part report "output" with
  | .ok v => if v.isEmpty then [] else [("output", v)]
  | .error _ => []

def message (success : Bool) (command : String) (scenario errors : Value) :
    Except ReportFault String := do
  if !success then return s!"{← size errors} validation errors"
  else if command = "render" then
    if scenario.hasText then return s!"Rendered scenario '{scenario.display}'"
    else throw .tooManyDigits
  else return "Record is valid"

def ofReport (command : String) (report : Value) : Except ReportFault Value := do
  let success := (← part report "status").isText "valid"
  let summary ← part report "summary"
  let feature ← part report "feature"
  let scenario ← part report "scenario"
  let tags ← part summary "tags"
  let steps ← part summary "steps"
  let errors ← part report "errors"
  let warnings ← part report "warnings"
  let data := Report.object ([("feature", feature), ("scenario", scenario), ("tags", tags),
    ("steps", steps), ("errors", errors), ("warnings", warnings)] ++ outputEntry report)
  return make success command data (← message success command scenario errors)

/-- The envelope of a command that failed. Its data are null if there are none. -/
def failure (command text : String) (extra : List (Value × Value)) : Value :=
  make false command (if extra.isEmpty then .null else .map extra) text

end Envelope

end SoloScenario

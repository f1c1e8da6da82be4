import SoloScenario.Record.Basic
import SoloScenario.Text.Blank
import SoloScenario.Text.Lines

/-! The check of a record: whether the document it makes can be read back. Names
have to be there and every name, keyword and step has to stay on its line; tags
that do not start with the sign and keywords that are not known are warned of. -/

namespace SoloScenario

inductive Severity where
  | error | warning
  /-- Any other name that an issue was given. -/
  | other (name : String)
  deriving DecidableEq, Repr

def Severity.ofName (name : String) : Severity :=
  if name = "error" then .error else if name = "warning" then .warning else .other name

def Severity.name : Severity → String
  | .error => "error"
  | .warning => "warning"
  | .other name => name

/-- An issue: the part of the record it is about, what is wrong, and how grave it is. -/
structure Issue where
  path : String
  message : String
  severity : Severity
  deriving DecidableEq, Repr

def Misaligned.issue (m : Misaligned) : Issue := ⟨Misaligned.path, m.message, .error⟩

/-- The issues that a misalignment carries: itself. -/
def Misaligned.issues (m : Misaligned) : List Issue := [m.issue]

structure Findings where
  valid : Bool
  errors : List Issue
  warnings : List Issue
  deriving DecidableEq, Repr

/-- The outcome in one line. Warnings are only counted when there are any. -/
def Findings.summary (f : Findings) : String :=
  if f.valid then
    if f.warnings.isEmpty then "Valid" else s!"Valid ({f.warnings.length} warnings)"
  else s!"Invalid: {f.errors.length} errors, {f.warnings.length} warnings"

def knownKeywords : List String := ["*", "And", "But", "Given", "Then", "When"]

namespace Record

/-- The issue of a name, which the message calls by the given word. -/
def checkName (path word name : String) : List Issue :=
  if Text.isBlank name then
    [⟨path, word ++ " name is required and must not be empty.", .error⟩]
  else if Text.breaksLine name then [⟨path, word ++ " name must be a single line.", .error⟩]
  else []

/-- The issue of the tag with an index. -/
def checkTag (index : Nat) (tag : String) : List Issue :=
  if tag.toList.head? = some '@' then []
  else [⟨s!"tags[{index}]", s!"Tag '{tag}' does not start with '@'.", .warning⟩]

/-- The error of the step with an index. -/
def checkStep (index : Nat) (s : StepLine) : List Issue :=
  if Text.breaksLine s.keyword || Text.breaksLine s.text then
    [⟨s!"steps[{index}]", "Step keyword and text must be a single line.", .error⟩]
  else []

/-- The warning of the keyword of the step with an index. -/
def checkKeyword (index : Nat) (s : StepLine) : List Issue :=
  if s.keyword ∈ knownKeywords then []
  else
    let known := ", ".intercalate knownKeywords
    [⟨s!"steps[{index}].keyword",
      s!"Unknown keyword '{s.keyword}'. Expected one of: {known}", .warning⟩]

/-- The issues that a check of single members finds, in the order of the members. -/
def checkEach {α : Type} (check : Nat → α → List Issue) (members : List α) : List Issue :=
  (members.mapIdx check).flatten

/-- The errors of the steps: their misalignment, or else those of single steps. -/
def stepErrors (r : Record) : List Issue :=
  if r.steps.length ≠ r.keywords.length then
    [Misaligned.issue ⟨r.keywords.length, r.steps.length⟩]
  else checkEach checkStep r.stepLines

/-- The warnings of the steps; those of single steps only if steps and keywords are aligned. -/
def stepWarnings (r : Record) : List Issue :=
  (if r.steps.length ≠ r.keywords.length then [] else checkEach checkKeyword r.stepLines) ++
    if r.steps.isEmpty then [⟨"steps", "No steps defined.", .warning⟩] else []

/-- All errors: of the feature's name, of the scenario's name, of the steps. -/
def errors (r : Record) : List Issue :=
  checkName "group_name" "Feature" r.feature ++
    (checkName "name" "Scenario" r.scenario ++ r.stepErrors)

/-- All warnings: of the tags and of the steps. -/
def warnings (r : Record) : List Issue := checkEach checkTag r.tags ++ r.stepWarnings

/-- Checks a record. It is valid if it has no errors. -/
def check (r : Record) : Findings := ⟨r.errors.isEmpty, r.errors, r.warnings⟩

theorem valid_check_iff (r : Record) : r.check.valid ↔ r.check.errors = [] := by
  simp [check]

end Record

end SoloScenario

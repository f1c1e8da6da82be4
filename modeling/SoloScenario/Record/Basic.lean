import SoloScenario.Value.Display

/-! Scenario records: the tags, the feature, the name and the steps of a single
scenario. Texts and keywords of the steps are two lists of which the constructor
demands equal length; a record whose fields were set one by one may break that,
and then only the steps that have both count. -/

namespace SoloScenario

/-- A single scenario. -/
structure Record (T : Type := String) where
  tags : List T
  feature : T
  scenario : T
  steps : List T
  keywords : List T
  deriving DecidableEq, Repr, Inhabited

/-- A step: its keyword and its text. -/
structure StepLine (T : Type := String) where
  keyword : T
  text : T
  deriving DecidableEq, Repr

/-- A step as it is written: keyword, space, text. -/
def StepLine.line (s : StepLine) : String := s.keyword ++ " " ++ s.text

/-- Steps and keywords differ in number. -/
structure Misaligned where
  keywords : Nat
  steps : Nat
  deriving DecidableEq, Repr

def Misaligned.message (m : Misaligned) : String :=
  s!"Expected one keyword per step, got {m.keywords} keywords for {m.steps} steps."

def Misaligned.path : String := "keywords"

/-- A misalignment as text: its place and its report. -/
def Misaligned.text (m : Misaligned) : String := Misaligned.path ++ ": " ++ m.message

structure ParsedTag where
  name : String
  deriving DecidableEq, Repr

/-- A step as another program parsed it. -/
structure ParsedStep where
  text : String
  deriving DecidableEq, Repr

namespace Record

/-! ### Construction -/

section Construction

variable {T : Type}

/-- The record with these fields, if there are as many keywords as steps. -/
def make? (tags : List T) (feature scenario : T) (steps keywords : List T) :
    Except Misaligned (Record T) :=
  if steps.length = keywords.length then .ok ⟨tags, feature, scenario, steps, keywords⟩
  else .error ⟨keywords.length, steps.length⟩

/-- The record of keywords and texts that come in pairs. -/
def ofStepLines? (tags : List T) (feature scenario : T) (lines : List (StepLine T)) :
    Except Misaligned (Record T) :=
  make? tags feature scenario (lines.map (·.text)) (lines.map (·.keyword))

theorem make?_eq_ok_iff {tags : List T} {feature scenario : T} {steps keywords : List T}
    {r : Record T} :
    make? tags feature scenario steps keywords = .ok r ↔
      steps.length = keywords.length ∧ r = ⟨tags, feature, scenario, steps, keywords⟩ := by
  unfold make?
  split <;> simp_all [eq_comm]

theorem make?_eq_error_iff {tags : List T} {feature scenario : T} {steps keywords : List T}
    {m : Misaligned} :
    make? tags feature scenario steps keywords = .error m ↔
      steps.length ≠ keywords.length ∧ m = ⟨keywords.length, steps.length⟩ := by
  unfold make?
  split <;> simp_all [eq_comm]

/-- Pairs are never refused. -/
theorem ofStepLines?_eq_ok (tags : List T) (feature scenario : T) (lines : List (StepLine T)) :
    ofStepLines? tags feature scenario lines =
      .ok ⟨tags, feature, scenario, lines.map (·.text), lines.map (·.keyword)⟩ := by
  simp [ofStepLines?, make?]

end Construction

/-- The record of tags and steps that another program parsed. -/
def ofParsed? (tags : List ParsedTag) (feature scenario : String) (steps : List ParsedStep)
    (keywords : List String) : Except Misaligned Record :=
  make? (tags.map (·.name)) feature scenario (steps.map (·.text)) keywords

/-! ### Views -/

/-- Keywords paired with the texts of the steps, up to the end of the shorter list. -/
def stepLines (r : Record) : List StepLine := List.zipWith StepLine.mk r.keywords r.steps

def tagCount (r : Record) : Nat := r.tags.length

/-- The number of steps, whether or not they have keywords. -/
def stepCount (r : Record) : Nat := r.steps.length

/-- As many keywords as steps. -/
def Aligned (r : Record) : Prop := r.steps.length = r.keywords.length

instance (r : Record) : Decidable r.Aligned := inferInstanceAs (Decidable (_ = _))

theorem length_stepLines (r : Record) :
    r.stepLines.length = min r.keywords.length r.steps.length := by
  simp [stepLines]

/-! ### Display -/

/-- A list of texts as the display of a record shows it. -/
def listText (items : List String) : String := Value.enclose "[" "]" (items.map Text.quoted)

/-- A fixed row of texts as the literal of a record shows it. -/
def rowText (items : List String) : String := Value.encloseTuple (items.map Text.quoted)

/-- The fields of a record with their names, lists written by the given function. -/
def fieldTexts (r : Record) (listText : List String → String) : List String :=
  ["tags=" ++ listText r.tags, "group_name=" ++ Text.quoted r.feature,
    "name=" ++ Text.quoted r.scenario, "steps=" ++ listText r.steps,
    "keywords=" ++ listText r.keywords]

def display (r : Record) : String :=
  Value.enclose "ScenarioRecord\x7b" "\x7d" (r.fieldTexts listText)

def literal (r : Record) : String :=
  Value.enclose "ScenarioRecord(" ")" (r.fieldTexts rowText)

/-! ### Fields from outside -/

/-- An attempt to change a field of a record by its name. -/
inductive FieldChange where
  | assign (field : String)
  | delete (field : String)
  deriving DecidableEq, Repr

/-- A record is never changed, whatever the field. -/
def FieldChange.refusal : FieldChange → String
  | .assign field => s!"cannot assign to field {Text.quoted field}"
  | .delete field => s!"cannot delete field {Text.quoted field}"

/-- Whether a thing with these attributes can serve as a tag. -/
def servesAsTag (attributes : List String) : Bool := attributes.contains "name"

/-- Whether a thing with these attributes can serve as a step. -/
def servesAsStep (attributes : List String) : Bool := attributes.contains "text"

end Record

end SoloScenario

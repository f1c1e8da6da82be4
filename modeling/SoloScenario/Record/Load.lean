import SoloScenario.Log
import SoloScenario.Record.Basic

/-! Records from loaded values. The feature and the scenario may each be given
under two keys; a step is either an entry for its keyword and one for its text,
or a single entry from keyword to text. The first offence refuses the value. What
was read is logged before the record is made of it, with its tags still to be displayed. -/

namespace SoloScenario

/-- The parts of a record that have to be there, each under one of two keys. -/
inductive NameField where
  | feature | scenario
  deriving DecidableEq, Repr

def NameField.text : NameField → String
  | .feature => "feature"
  | .scenario => "scenario"

/-- The keys of a field, the one that counts first. -/
def NameField.keys : NameField → List String
  | .feature => ["feature", "group_name"]
  | .scenario => ["scenario", "name"]

/-- A reason for which a value holds no record. -/
inductive Refusal where
  | notMapping (kind : String)
  | nameCollection (key : String)
  | nameMissing (field : NameField)
  | tagsNotList
  | tagCollection (index : Nat)
  | stepsNotList
  | stepNotMapping (index : Nat)
  /-- A step has only one of keyword and text. -/
  | stepMissing (key : String) (index : Nat)
  /-- A step without keyword and text has not exactly one entry. -/
  | stepEntries (index : Nat)
  | tooManyDigits
  /-- What was read does not make a record. -/
  | misaligned (m : Misaligned)
  deriving DecidableEq, Repr

def Refusal.message (source : String) : Refusal → String
  | .notMapping kind => s!"Record must be a YAML mapping, got {kind}"
  | .nameCollection key => s!"'{key}' must be a string in {source}"
  | .nameMissing field => s!"Missing required field '{field.text}' in {source}"
  | .tagsNotList => s!"'tags' must be a list in {source}"
  | .tagCollection i => s!"Tag {i} must be a string in {source}"
  | .stepsNotList => s!"'steps' must be a list in {source}"
  | .stepNotMapping i => s!"Step {i} must be a mapping in {source}"
  | .stepMissing key i => s!"Missing required field '{key}' in steps[{i}] ({source})"
  | .stepEntries i => s!"Step {i} must have exactly one keyword entry in {source}"
  | .tooManyDigits => Text.tooManyDigits
  | .misaligned m => m.text

namespace Record

open Text (TextLike)

abbrev Entries (T : Type := String) := List (Value T × Value T)

section Loading

variable {T : Type} [DecidableEq T] [TextLike T]

def textOf (v : Value T) : Except Refusal T :=
  if v.hasText then .ok v.display else .error .tooManyDigits

/-- The first of these keys whose value is not null, with that value. -/
def firstPresent? (entries : Entries T) (keys : List String) : Option (String × Value T) :=
  keys.findSome? fun key => (Value.given? entries key).map fun v => (key, v)

def loadName (entries : Entries T) (field : NameField) : Except Refusal T :=
  match firstPresent? entries field.keys with
  | none => .error (.nameMissing field)
  | some (key, v) => if v.isCollection then .error (.nameCollection key) else textOf v

/-- The members of a list that may be left out or left empty. -/
def loadList (entries : Entries T) (key : String) (refusal : Refusal) :
    Except Refusal (List (Value T)) :=
  match Value.field? entries key with
  | none => .ok []
  | some v =>
    if v.isEmpty then .ok []
    else match v with
      | .list items => .ok items
      | _ => .error refusal

/-- The text of a step: nothing if it is null. -/
def stepText : Value T → Except Refusal T
  | .null => .ok (TextLike.ofString "")
  | v => textOf v

/-- Checks the tags from an index on. -/
def checkTags (index : Nat) : List (Value T) → Except Refusal Unit
  | [] => .ok ()
  | v :: rest =>
    if v.isCollection then .error (.tagCollection index) else checkTags (index + 1) rest

/-- The step with an index. -/
def loadStep (index : Nat) : Value T → Except Refusal (StepLine T)
  | .map entries =>
    match Value.field? entries "keyword", Value.field? entries "text" with
    | some k, some t => do return ⟨← textOf k, ← stepText t⟩
    | none, some _ => .error (.stepMissing "keyword" index)
    | some _, none => .error (.stepMissing "text" index)
    | none, none =>
      match entries with
      | [(k, t)] => do return ⟨← textOf k, ← stepText t⟩
      | _ => .error (.stepEntries index)
  | _ => .error (.stepNotMapping index)

def loadSteps (index : Nat) : List (Value T) → Except Refusal (List (StepLine T))
  | [] => .ok []
  | v :: rest => do
    let s ← loadStep index v
    let more ← loadSteps (index + 1) rest
    return s :: more

end Loading

/-- What is read of a record before it is made. -/
structure Draft (T : Type := String) where
  feature : T
  scenario : T
  tags : List (Value T)
  lines : List (StepLine T)

variable {T : Type} [TextLike T]

/-- Reads what a value holds of a record. -/
def draft? [DecidableEq T] : Value T → Except Refusal (Draft T)
  | .map entries => do
    let feature ← loadName entries .feature
    let scenario ← loadName entries .scenario
    let tags ← loadList entries "tags" .tagsNotList
    checkTags 0 tags
    let lines ← loadSteps 0 (← loadList entries "steps" .stepsNotList)
    return ⟨feature, scenario, tags, lines⟩
  | v => .error (.notMapping v.kind)

def Draft.record? (d : Draft T) : Except Refusal (Record T) := do
  let tags ← d.tags.mapM textOf
  (ofStepLines? tags d.feature d.scenario d.lines).mapError .misaligned

/-- The entry that tells what was read. -/
def Draft.entry (source : String) (d : Draft T) : LogEntry :=
  let scenario := TextLike.shown d.scenario
  ⟨.debug, "scenario_split.record.parser",
    s!"Loaded record '{scenario}' from {source} ({d.tags.length} tags, {d.lines.length} steps)"⟩

/-- Loads the record that a source holds, and logs it. -/
def load [DecidableEq T] (source : String) (v : Value T) : Except Refusal (Record T) × Log :=
  match draft? v with
  | .ok d => (d.record?, [d.entry source])
  | .error refusal => (.error refusal, [])

end Record

end SoloScenario

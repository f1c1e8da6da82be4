import SoloScenario.Document.Basic
import SoloScenario.Text.Case

/-! Settings: a configuration whose fields may hold values of any kind. They are
read from a mapping, where a separator is given by name or by its characters,
and become a configuration when a document is written. -/

namespace SoloScenario

/-- The fields of a configuration as values of any kind. -/
structure Settings where
  tool : Value
  separator : Value
  pattern : Value
  deriving Repr, Inhabited

inductive SettingFault where
  /-- A value that cannot be looked up. -/
  | notKey
  /-- A value of a kind that lacks an operation. -/
  | lacks (kind operation : String)
  /-- A separator that is not known, as its literal shows it. -/
  | unknownSeparator (literal : String)
  | unknownField
  | notText
  | tooManyDigits
  deriving DecidableEq, Repr

def separatorNames : List (String × String) :=
  [("crlf", "\r\n"), ("lf", "\n"), ("native", "\n")]

def SettingFault.message : SettingFault → String
  | .notKey => "unhashable type"
  | .lacks kind operation => s!"'{kind}' object has no attribute '{operation}'"
  | .unknownSeparator literal =>
    let names := ", ".intercalate (separatorNames.map (·.1))
    s!"Invalid line separator {literal}. Must be one of: {names}"
  | .unknownField => "unexpected field"
  | .notText => "not a text"
  | .tooManyDigits => Text.tooManyDigits

/-- The separators that stand for themselves. -/
def plainSeparators : List String := ["\n", "\r\n", "\r"]

/-- The separator that a text names, in capitals or not, or is. -/
def separatorOf? (s : String) : Option String :=
  (separatorNames.lookup s).or ((separatorNames.lookup (Text.lower s)).or
    (if s ∈ plainSeparators then some s else none))

namespace Settings

/-- The separator that a value names or is. -/
def resolveSeparator (v : Value) : Except SettingFault String :=
  match v with
  | .text s =>
    match separatorOf? s with
    | some separator => .ok separator
    | none => .error (.unknownSeparator v.literal)
  | .bytes _ => .error (.unknownSeparator v.literal)
  | _ => if v.canBeKey then .error (.lacks v.qualifiedKind "lower") else .error .notKey

def ofConfig (c : Config) : Settings :=
  ⟨.text c.tool, .text c.separator, (c.pattern.map .text).getD .null⟩

def default : Settings := ofConfig {}

/-- The field with a name, set to a value. -/
def set? (s : Settings) (field : String) (v : Value) : Option Settings :=
  if field = "tool_name" then some { s with tool := v }
  else if field = "line_separator" then some { s with separator := v }
  else if field = "timestamp_format" then some { s with pattern := v }
  else none

/-- The settings with these fields, taken as they are. -/
def ofFields : List (Value × Value) → Except SettingFault Settings
  | [] => .ok default
  | (k, v) :: rest => do
    let s ← ofFields rest
    match k with
    | .text field =>
      match s.set? field v with
      | some s => return s
      | none => throw .unknownField
    | _ => throw .unknownField

/-- The settings that the entries of a mapping give. Unknown fields and those that are null do
not count; the separator is resolved. -/
def ofEntries (entries : List (Value × Value)) : Except SettingFault Settings := do
  let separator ← match Value.given? entries "line_separator" with
    | none => pure default.separator
    | some v => (resolveSeparator v).map .text
  return ⟨(Value.given? entries "tool_name").getD default.tool, separator,
    (Value.given? entries "timestamp_format").getD default.pattern⟩

/-- The settings that a value gives, which has to be a mapping. -/
def ofValue : Value → Except SettingFault Settings
  | .map entries => ofEntries entries
  | v => .error (.lacks v.qualifiedKind "items")

/-- The name of a tool, which may be any value with a text. -/
def toolText (v : Value) : Except SettingFault String :=
  if v.hasText then .ok v.display else .error .tooManyDigits

/-- The pattern for times, which is a text or counts as nothing. -/
def patternText : Value → Except SettingFault (Option String)
  | .text p => .ok (some p)
  | v => if v.isEmpty then .ok none else .error .notText

def config (s : Settings) : Except SettingFault Config := do
  let tool ← toolText s.tool
  let pattern ← patternText s.pattern
  match s.separator with
  | .text separator => return ⟨tool, separator, pattern⟩
  | _ => throw .notText

def literal (s : Settings) : String :=
  Value.enclose "RenderConfig(" ")"
    ["tool_name=" ++ s.tool.literal, "line_separator=" ++ s.separator.literal,
      "timestamp_format=" ++ s.pattern.literal]

end Settings

end SoloScenario

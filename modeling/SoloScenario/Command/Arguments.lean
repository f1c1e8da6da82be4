import SoloScenario.Command.Similar

/-! Arguments of a command: options with or without a value, by a long name or by
a letter, and operands. A value may be attached to its option or follow it. -/

namespace SoloScenario.Command

inductive CommandOption where
  | help | version | verbose | output | toolName | lineSeparator | timestamp | timestampFormat
  | json
  deriving DecidableEq, Repr

structure OptionForm where
  option : CommandOption
  long : String
  letter : Option Char
  takesValue : Bool

def mainForms : List OptionForm :=
  [⟨.version, "--version", none, false⟩, ⟨.verbose, "--verbose", some 'v', false⟩,
    ⟨.help, "--help", none, false⟩]

def renderForms : List OptionForm :=
  [⟨.output, "--output", some 'o', true⟩, ⟨.toolName, "--tool-name", none, true⟩,
    ⟨.lineSeparator, "--line-separator", none, true⟩, ⟨.timestamp, "--timestamp", none, true⟩,
    ⟨.timestampFormat, "--timestamp-format", none, true⟩, ⟨.json, "--json", none, false⟩,
    ⟨.help, "--help", none, false⟩]

def validateForms : List OptionForm := [⟨.help, "--help", none, false⟩]

inductive ArgumentFault where
  /-- An option that there is not, and those that resemble it. -/
  | noOption (name : String) (similar : List String)
  | needsValue (name : String)
  | takesNoValue (name : String)
  deriving DecidableEq, Repr

/-- Options with their values in the order in which they were given, and operands. -/
structure Arguments where
  given : List (CommandOption × String)
  operands : List String
  deriving DecidableEq, Repr

/-- An option that takes the next argument for its value, and its name there. -/
abbrev Pending := Option (CommandOption × String)

/-- Reads options by their letters. The last of them may take the rest for its value. -/
def readLetters (forms : List OptionForm) :
    List Char → Except ArgumentFault (List (CommandOption × String) × Pending)
  | [] => .ok ([], none)
  | c :: rest =>
    let name := String.ofList ['-', c]
    match forms.find? (·.letter = some c) with
    | none => .error (.noOption name [])
    | some f =>
      if f.takesValue then
        if rest.isEmpty then .ok ([], some (f.option, name))
        else .ok ([(f.option, String.ofList rest)], none)
      else do
        let (given, pending) ← readLetters forms rest
        return ((f.option, "") :: given, pending)

/-- The two sides of the first equals sign, if there is one. -/
def splitEquals (cs : List Char) : List Char × Option (List Char) :=
  match cs.span (· ≠ '=') with
  | (name, _ :: value) => (name, some value)
  | (name, []) => (name, none)

def readOption (forms : List OptionForm) (cs : List Char) :
    Except ArgumentFault (List (CommandOption × String) × Pending) :=
  let (name, value) := splitEquals cs
  let long := String.ofList name
  match forms.find? (·.long = long), value with
  | some f, some value =>
    if f.takesValue then .ok ([(f.option, String.ofList value)], none)
    else .error (.takesNoValue long)
  | some f, none =>
    if f.takesValue then .ok ([], some (f.option, long)) else .ok ([(f.option, "")], none)
  | none, _ =>
    if cs.take 2 = ['-', '-'] then .error (.noOption long (similar long (forms.map (·.long))))
    else readLetters forms (cs.drop 1)

/-- Whether an argument is an option: a hyphen with something after it. -/
def isOption (arg : String) : Bool :=
  match arg.toList with
  | '-' :: _ :: _ => true
  | _ => false

/-- Reads arguments. Two hyphens end the options, and so does an operand if
options may not follow one. -/
def readArguments (forms : List OptionForm) (mixed : Bool) :
    List String → Except ArgumentFault Arguments
  | [] => .ok ⟨[], []⟩
  | arg :: rest =>
    if arg = "--" then .ok ⟨[], rest⟩
    else if isOption arg then
      match readOption forms arg.toList, rest with
      | .error fault, _ => .error fault
      | .ok (given, none), rest => do
        let more ← readArguments forms mixed rest
        return { more with given := given ++ more.given }
      | .ok (_, some (_, name)), [] => .error (.needsValue name)
      | .ok (given, some (option, _)), value :: rest => do
        let more ← readArguments forms mixed rest
        return { more with given := given ++ (option, value) :: more.given }
    else if mixed then do
      let more ← readArguments forms mixed rest
      return { more with operands := arg :: more.operands }
    else .ok ⟨[], arg :: rest⟩

namespace Arguments

def has (a : Arguments) (option : CommandOption) : Bool := a.given.any (·.1 = option)

/-- The value of an option; the last one counts. -/
def value? (a : Arguments) (option : CommandOption) : Option String :=
  (a.given.reverse.find? (·.1 = option)).map (·.2)

/-- The options that were given, each once, in the order in which they first were. -/
def options (a : Arguments) : List CommandOption := (a.given.map (·.1)).eraseDups

/-- The first option that asks for information on the program. -/
def inquiry? (a : Arguments) : Option CommandOption :=
  (a.given.find? fun (o, _) => o = .help || o = .version).map (·.1)

end Arguments

end SoloScenario.Command

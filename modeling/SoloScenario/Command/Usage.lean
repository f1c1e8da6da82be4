import SoloScenario.Command.Arguments
import SoloScenario.Document.Settings
import SoloScenario.Time.Reading

/-! How the commands are used: their help, and what is said to arguments that do
not fit them. -/

namespace SoloScenario.Command

/-- The program and its subcommands. -/
inductive Name where
  | main | render | validate
  deriving DecidableEq, Repr

def Name.call : Name → String
  | .main => "scenario-split"
  | .render => "scenario-split render"
  | .validate => "scenario-split validate"

def Name.outline : Name → String
  | .main => "[OPTIONS] COMMAND [ARGS]..."
  | .render | .validate => "[OPTIONS] RECORD_FILE"

/-- The first line of a command's help. -/
def Name.usage (n : Name) : String := s!"Usage: {n.call} {n.outline}\n"

def Name.forms : Name → List OptionForm
  | .main => mainForms
  | .render => renderForms
  | .validate => validateForms

def subcommands : List (String × Name) := [("render", .render), ("validate", .validate)]

def versionText : String := "scenario-split, version 0.1.0\n"

/-- What a command's help says below its first line. -/
def Name.description : Name → List String
  | .main => [
    "  Render single-scenario feature files from extracted scenario records.",
    "",
    "Options:",
    "  --version      Show the version and exit.",
    "  -v, --verbose  Enable debug logging.",
    "  --help         Show this message and exit.",
    "",
    "Commands:",
    "  render    Render RECORD_FILE as a single-scenario feature file.",
    "  validate  Validate RECORD_FILE and print the findings as flow JSON."]
  | .render => [
    "  Render RECORD_FILE as a single-scenario feature file.",
    "",
    "Options:",
    "  -o, --output PATH               Write the feature file here instead of stdout.",
    "  --tool-name TEXT                Name shown in the generation comment.",
    "                                  [default: scenario-split]",
    "  --line-separator [crlf|lf|native]",
    "                                  [default: native]",
    "  --timestamp [%Y-%m-%d|%Y-%m-%dT%H:%M:%S|%Y-%m-%d %H:%M:%S]",
    "                                  Fixed generation time (default: now).",
    "  --timestamp-format TEXT         strftime pattern for the generation time",
    "                                  (default: ISO 8601).",
    "  --json                          Print flow JSON output instead of the feature",
    "                                  text.",
    "  --help                          Show this message and exit."]
  | .validate => [
    "  Validate RECORD_FILE and print the findings as flow JSON.",
    "",
    "Options:",
    "  --help  Show this message and exit."]

def Name.help (n : Name) : String :=
  n.usage ++ "\n" ++ String.join (n.description.map (· ++ "\n"))

inductive UsageFault where
  | argument (fault : ArgumentFault)
  | noCommand
  /-- A subcommand that there is not, and those that resemble it. -/
  | unknownCommand (name : String) (similar : List String)
  | noRecord
  | tooMany (operands : List String)
  | separator (value : String)
  | timestamp (value : String)
  deriving DecidableEq, Repr

/-- A hint at words that may have been meant. -/
def hint : List String → String
  | [] => ""
  | [word] => s!" Did you mean '{word}'?"
  | words =>
    let list := ", ".intercalate (words.map fun w => s!"'{w}'")
    s!" (Possible options: {list})"

def quotedList (items : List String) : String := ", ".intercalate (items.map Text.quoted)

def UsageFault.message : UsageFault → String
  | .argument (.noOption name similar) => s!"No such option {Text.quoted name}.{hint similar}"
  | .argument (.needsValue name) => s!"Option '{name}' requires an argument."
  | .argument (.takesNoValue name) => s!"Option '{name}' does not take a value."
  | .noCommand => "Missing command."
  | .unknownCommand name similar => s!"No such command {Text.quoted name}.{hint similar}"
  | .noRecord => "Missing argument 'RECORD_FILE'."
  | .tooMany [operand] => s!"Got unexpected extra argument ({operand})"
  | .tooMany operands =>
    let list := " ".intercalate operands
    s!"Got unexpected extra arguments ({list})"
  | .separator value =>
    s!"Invalid value for '--line-separator': {Text.quoted value} is not one of " ++
      quotedList (separatorNames.map (·.1)) ++ "."
  | .timestamp value =>
    s!"Invalid value for '--timestamp': {Text.quoted value} does not match the formats " ++
      quotedList Time.Stamp.readable ++ "."

/-- Whether a fault is reported with the usage of the command; one of an option's
value is found before the command is known. -/
def UsageFault.showsUsage : UsageFault → Bool
  | .argument (.needsValue _) | .argument (.takesNoValue _) => false
  | _ => true

/-- What is printed for a fault in the arguments of a command. -/
def UsageFault.text (n : Name) (f : UsageFault) : String :=
  (if f.showsUsage then n.usage ++ s!"Try '{n.call} --help' for help.\n\n" else "") ++
    s!"Error: {f.message}\n"

end SoloScenario.Command

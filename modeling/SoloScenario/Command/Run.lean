import SoloScenario.Command.Usage
import SoloScenario.Record.File
import SoloScenario.Record.Printed
import SoloScenario.Report

/-! Running a command on a tree of files: what it prints, its exit code, and the
tree that it leaves. Both commands load and check a record; one of them writes
the document of a valid one to a file or prints it. A run may also end in an
exception, and then prints nothing. -/

namespace SoloScenario.Command

open Text (Points)

/-- What a run prints, its exit code, and the tree that it leaves. -/
structure Outcome where
  exitCode : Nat
  stdout : String
  stderr : String
  tree : Tree
  /-- The kind of the exception that ended the run, if one did. -/
  exception : Option String

/-- What a command did: its exit code, what it printed, its log and the tree it leaves. -/
structure Result where
  exitCode : Nat
  stdout : String
  log : Log
  tree : Tree
  /-- The kind of the exception that ended it, if one did. -/
  exception : Option String

/-- The result of a command that an exception of some kind ends. -/
def raising (kind : String) (log : Log) (tree : Tree) : Result := ⟨1, "", log, tree, some kind⟩

/-- The kind of exception in which printing or writing half of a character ends. -/
def encodingError : String := "UnicodeEncodeError"

def logSource : String := "scenario_split.cli"

def entry (level : Level) (message : String) : LogEntry := ⟨level, logSource, message⟩

def envelopeLine (envelope : Value) : String := (envelope.toJson? .compact).getD "" ++ "\n"

def reportLine (command : String) (report : Report) : String :=
  match Envelope.ofReport command report.value with
  | .ok envelope => envelopeLine envelope
  | .error _ => ""

def failureLine (command message : String) : String :=
  envelopeLine (Envelope.failure command message [])

/-- The kind of exception in which a fault of loading ends a run, if it is not reported. -/
def escapes? : LoadFault → Option String
  | .raised e => if e.reported then none else some e.kind
  | _ => none

/-- Whether a fault of loading is reported in an envelope. -/
def isReported (fault : LoadFault) : Bool := (escapes? fault).isNone

/-- The result of a record that cannot be loaded. -/
def failedLoad (command : String) (tree : Tree) (path : Path) (fault : LoadFault) (log : Log) :
    Result :=
  match escapes? fault with
  | some kind => raising kind log tree
  | none =>
    ⟨1, failureLine command s!"Failed to load record: {fault.message}",
      log ++ [entry .debug s!"Failed to load {path.text}"], tree, none⟩

/-- The result of a command that prints an envelope on a record. -/
def telling (exitCode : Nat) (command : String) (r : Record Points) (report : Report)
    (log : Log) (tree : Tree) : Result :=
  if r.fitsEnvelope then ⟨exitCode, reportLine command report, log, tree, none⟩
  else raising encodingError log tree

/-! ### Checking a record -/

def validate (loader : Loader) (tree : Tree) (path : Path) : Result :=
  match Record.loadFile loader tree path with
  | (.error fault, log) => failedLoad "validate" tree path fault log
  | (.ok r, log) =>
    let findings := r.shown.check
    telling (if findings.valid then 0 else 1) "validate" r
      ⟨"", r.shown, none, none, some findings⟩ log tree

/-! ### Writing a document -/

/-- What the arguments ask for when a document is written. -/
structure RenderRequest where
  path : Path
  output : Option Path
  tool : String
  separator : String
  time : Time.Stamp
  pattern : Option String
  json : Bool

def RenderRequest.config (q : RenderRequest) : Except SettingFault Config := do
  let settings ← Settings.ofEntries [(.text "tool_name", .text q.tool),
    (.text "line_separator", .text q.separator),
    (.text "timestamp_format", (q.pattern.map .text).getD .null)]
  settings.config

def checkEntries (path : Path) (findings : Findings) : Log :=
  entry .info s!"{path.text}: {findings.summary}" ::
    findings.warnings.map fun w => entry .warning s!"{w.path}: {w.message}"

/-- The result when the document of a record is where it was asked for, or is to be printed. -/
def delivering (q : RenderRequest) (r : Record Points) (findings : Findings) (text : String)
    (log : Log) (tree : Tree) : Result :=
  if q.json then
    telling 0 "render" r ⟨"", r.shown, some text, q.output.map Path.text, some findings⟩ log tree
  else match q.output with
    | some path => ⟨0, s!"Wrote {path.text}\n", log, tree, none⟩
    | none => if r.fitsDocument then ⟨0, text, log, tree, none⟩ else raising encodingError log tree

def failedWrite (tree : Tree) (path : Path) (message : String) (log : Log) : Result :=
  ⟨1, failureLine "render" s!"Failed to write {path.text}: {message}",
    log ++ [entry .debug s!"Failed to write {path.text}"], tree, none⟩

/-- Writes the document of a valid record. A file that it cannot be written to for halves of
characters in it is opened and left empty. -/
def renderValid (tree : Tree) (q : RenderRequest) (config : Config) (r : Record Points)
    (findings : Findings) (log : Log) : Result :=
  let (text, rendered) := Document.render config r.shown q.time
  let log := log ++ rendered
  match q.output with
  | none => delivering q r findings text log tree
  | some path =>
    if r.fitsDocument then
      match tree.write path text.toUTF8.toList with
      | (tree, .ok ()) =>
        delivering q r findings text (log ++ [entry .info s!"Wrote {path.text}"]) tree
      | (tree, .error fault) => failedWrite tree path fault.message log
    else match tree.openAt path with
      | (tree, .ok _) => raising encodingError log tree
      | (tree, .error fault) => failedWrite tree path fault.message log

def render (loader : Loader) (tree : Tree) (q : RenderRequest) : Result :=
  match Record.loadFile loader tree q.path with
  | (.error fault, log) => failedLoad "render" tree q.path fault log
  | (.ok r, log) =>
    let findings := r.shown.check
    let log := log ++ checkEntries q.path findings
    if !findings.valid then
      telling 1 "render" r ⟨"", r.shown, none, none, some findings⟩ log tree
    else match q.config with
      | .ok config => renderValid tree q config r findings log
      | .error _ => raising "ValueError" log tree

/-! ### From arguments to a run -/

/-- Why a command is not run: its arguments do not fit, or a path holds a null character. -/
inductive Stop where
  | usage (fault : UsageFault)
  | badPath
  deriving DecidableEq, Repr

def readPath (arg : String) : Except Stop Path :=
  if arg.toList.contains '\x00' then .error .badPath else .ok (Path.ofString arg)

def readSeparator (arg : String) : Except Stop String :=
  let name := Text.lower arg
  if (separatorNames.lookup name).isSome then .ok name else .error (.usage (.separator arg))

def readTime (arg : String) : Except Stop Time.Stamp :=
  match Time.Stamp.read? arg with
  | some t => .ok t
  | none => .error (.usage (.timestamp arg))

def checkOption (a : Arguments) (option : CommandOption) : Except Stop Unit :=
  let value := (a.value? option).getD ""
  match option with
  | .output => (readPath value).map fun _ => ()
  | .lineSeparator => (readSeparator value).map fun _ => ()
  | .timestamp => (readTime value).map fun _ => ()
  | _ => .ok ()

/-- The path of the record, which is the only operand. -/
def readRecordPath (a : Arguments) : Except Stop Path :=
  match a.operands with
  | [] => .error (.usage .noRecord)
  | arg :: rest => do
    let path ← readPath arg
    if rest.isEmpty then return path else throw (.usage (.tooMany rest))

/-- What arguments ask for. Options are checked in the order in which they were given. -/
def readRequest (now : Time.Stamp) (a : Arguments) : Except Stop RenderRequest := do
  a.options.forM (checkOption a)
  let path ← readRecordPath a
  return {
    path := path
    output := ← (a.value? .output).mapM readPath
    tool := (a.value? .toolName).getD ({} : Config).tool
    separator := ← readSeparator ((a.value? .lineSeparator).getD "native")
    time := (← (a.value? .timestamp).mapM readTime).getD now
    pattern := a.value? .timestampFormat
    json := a.has .json }

def stopped (tree : Tree) (n : Name) : Stop → Outcome
  | .usage fault => ⟨2, "", fault.text n, tree, none⟩
  | .badPath => ⟨1, "", "", tree, some "ValueError"⟩

/-- The outcome of a command that was run: of its log, all is shown or only warnings. -/
def finished (verbose : Bool) (r : Result) : Outcome :=
  ⟨r.exitCode, r.stdout, Log.text (if verbose then .debug else .warning) r.log, r.tree,
    r.exception⟩

/-- The outcome of asking for information. -/
def informed (tree : Tree) (n : Name) : CommandOption → Outcome
  | .version => ⟨0, versionText, "", tree, none⟩
  | _ => ⟨0, n.help, "", tree, none⟩

def runSubcommand (loader : Loader) (now : Time.Stamp) (tree : Tree) (verbose : Bool) (n : Name)
    (args : List String) : Outcome :=
  match readArguments n.forms true args with
  | .error fault => stopped tree n (.usage (.argument fault))
  | .ok a =>
    match a.inquiry? with
    | some option => informed tree n option
    | none =>
      match n with
      | .render =>
        match readRequest now a with
        | .error stop => stopped tree n stop
        | .ok q => finished verbose (render loader tree q)
      | _ =>
        match readRecordPath a with
        | .error stop => stopped tree n stop
        | .ok path => finished verbose (validate loader tree path)

/-- The outcome of naming a subcommand that there is not. If the name looks like
an option, the arguments are read once more as options. -/
def unknownCommand (tree : Tree) (name : String) (args : List String) : Outcome :=
  let unknown := stopped tree .main
    (.usage (.unknownCommand name (similar name (subcommands.map (·.1)))))
  if isOption name then
    match readArguments mainForms false args with
    | .error fault => stopped tree .main (.usage (.argument fault))
    | .ok a =>
      match a.inquiry? with
      | some option => informed tree .main option
      | none => unknown
  else unknown

def run (loader : Loader) (now : Time.Stamp) (tree : Tree) (args : List String) : Outcome :=
  if args.isEmpty then ⟨2, "", Name.main.help, tree, none⟩
  else match readArguments mainForms false args with
    | .error fault => stopped tree .main (.usage (.argument fault))
    | .ok a =>
      match a.inquiry? with
      | some option => informed tree .main option
      | none =>
        match a.operands with
        | [] => stopped tree .main (.usage .noCommand)
        | name :: rest =>
          match subcommands.lookup name with
          | some n => runSubcommand loader now tree (a.has .verbose) n rest
          | none => unknownCommand tree name (name :: rest)

/-- The paths that a run on these arguments reads or writes. -/
def paths (args : List String) : List Path :=
  let named := do
    let a ← readArguments mainForms false args
    match a.operands with
    | [] => return []
    | name :: rest =>
      let b ← readArguments ((subcommands.lookup name).getD .main).forms true rest
      return b.operands.take 1 ++ (b.value? .output).toList
  match named with
  | .ok named => named.map Path.ofString
  | .error _ => []

end SoloScenario.Command

import SoloScenario.Command.Run
import SoloScenario.Proofs.Steps

/-! Accepted arguments. They name one subcommand and say what it is asked for, and a
run on them is that subcommand alone. A document is asked for under a configuration,
so that the fault of a wrong one cannot come up in a run. -/

namespace SoloScenario.Command

/-! ### Accepted arguments -/

/-- A subcommand with what it asks for. -/
inductive Invocation where
  | validate (path : Path)
  | render (request : RenderRequest)

deriving instance DecidableEq for RenderRequest

deriving instance DecidableEq for Invocation

namespace Invocation

/-- The name of the subcommand. -/
def name : Invocation → String
  | .validate _ => "validate"
  | .render _ => "render"

/-- The path of the record. -/
def path : Invocation → Path
  | .validate path => path
  | .render q => q.path

/-- Whether an envelope is asked for. -/
def json : Invocation → Bool
  | .validate _ => true
  | .render q => q.json

/-- What the subcommand does on a tree. -/
def run (loader : Loader) (tree : Tree) : Invocation → Result
  | .validate path => Command.validate loader tree path
  | .render q => Command.render loader tree q

end Invocation

/-- What the arguments of a subcommand ask for, if they are accepted and do not
ask for information. -/
def readSubcommand (now : Time.Stamp) (n : Name) (args : List String) : Option Invocation :=
  match readArguments n.forms true args with
  | .error _ => none
  | .ok a =>
    if a.inquiry?.isSome then none
    else if n = .render then (readRequest now a).toOption.map .render
    else (readRecordPath a).toOption.map .validate

/-- What arguments ask for, and whether the whole log is to be shown, if they are
accepted and do not ask for information. -/
def readInvocation (now : Time.Stamp) (args : List String) : Option (Bool × Invocation) :=
  match readArguments mainForms false args with
  | .error _ => none
  | .ok a =>
    if a.inquiry?.isSome then none
    else match a.operands with
      | [] => none
      | name :: rest => (subcommands.lookup name).bind fun n =>
        (readSubcommand now n rest).map fun i => (a.has .verbose, i)

variable {now : Time.Stamp} {n : Name} {args : List String} {verbose : Bool} {i : Invocation}

theorem runSubcommand_of_readSubcommand (h : readSubcommand now n args = some i) (loader : Loader)
    (tree : Tree) (verbose : Bool) :
    runSubcommand loader now tree verbose n args = finished verbose (i.run loader tree) := by
  cases ha : readArguments n.forms true args with
  | error fault => simp [readSubcommand, ha] at h
  | ok a =>
    cases hq : a.inquiry? with
    | some option => simp [readSubcommand, ha, hq] at h
    | none =>
      simp only [readSubcommand, ha, hq, Option.isSome_none, Bool.false_eq_true, if_false] at h
      split at h
      · next hn =>
        subst hn
        obtain ⟨q, read, rfl⟩ := Option.map_eq_some_iff.1 h
        simp only [runSubcommand, ha, hq, toOption_eq_some.1 read, Invocation.run]
      · next hn =>
        obtain ⟨path, read, rfl⟩ := Option.map_eq_some_iff.1 h
        cases n with
        | render => exact absurd rfl hn
        | main => simp only [runSubcommand, ha, hq, toOption_eq_some.1 read, Invocation.run]
        | validate => simp only [runSubcommand, ha, hq, toOption_eq_some.1 read, Invocation.run]

/-- A run on accepted arguments is the run of the subcommand. -/
theorem run_of_readInvocation (h : readInvocation now args = some (verbose, i)) (loader : Loader)
    (tree : Tree) : run loader now tree args = finished verbose (i.run loader tree) := by
  have some_args : args.isEmpty = false := by
    cases args with
    | nil => cases h
    | cons arg rest => rfl
  cases ha : readArguments mainForms false args with
  | error fault => simp [readInvocation, ha] at h
  | ok a =>
    cases hq : a.inquiry? with
    | some option => simp [readInvocation, ha, hq] at h
    | none =>
      cases ho : a.operands with
      | nil => simp [readInvocation, ha, hq, ho] at h
      | cons name rest =>
        simp only [readInvocation, ha, hq, ho, Option.isSome_none, Bool.false_eq_true, if_false,
          Option.bind_eq_some_iff, Option.map_eq_some_iff, Prod.mk.injEq] at h
        obtain ⟨n, hn, i, hi, rfl, rfl⟩ := h
        simp only [run, some_args, Bool.false_eq_true, if_false, ha, hq, ho, hn]
        exact runSubcommand_of_readSubcommand hi loader tree (a.has .verbose)

/-! ### Other arguments -/

/-- The outcomes of a run that only tells something: why it stops, or what was asked for. -/
inductive OnlyTells (tree : Tree) : Outcome → Prop
  | stopped (n : Name) (stop : Stop) : OnlyTells tree (stopped tree n stop)
  | informed (n : Name) (option : CommandOption) : OnlyTells tree (informed tree n option)

theorem OnlyTells.tree_eq {tree : Tree} {outcome : Outcome} (h : OnlyTells tree outcome) :
    outcome.tree = tree := by
  cases h with
  | stopped n stop => cases stop <;> rfl
  | informed n option => cases option <;> rfl

theorem onlyTells_of_record {a : Arguments} (ha : readArguments n.forms true args = .ok a)
    (hq : a.inquiry? = none) (other : n ≠ .render) (h : (readRecordPath a).toOption = none)
    (loader : Loader) (tree : Tree) (verbose : Bool) :
    OnlyTells tree (runSubcommand loader now tree verbose n args) := by
  cases hp : readRecordPath a with
  | ok path =>
    rw [hp] at h
    cases h
  | error stop =>
    cases n with
    | render => exact absurd rfl other
    | main =>
      simp only [runSubcommand, ha, hq, hp]
      exact .stopped ..
    | validate =>
      simp only [runSubcommand, ha, hq, hp]
      exact .stopped ..

theorem onlyTells_runSubcommand (h : readSubcommand now n args = none) (loader : Loader)
    (tree : Tree) (verbose : Bool) :
    OnlyTells tree (runSubcommand loader now tree verbose n args) := by
  cases ha : readArguments n.forms true args with
  | error fault =>
    simp only [runSubcommand, ha]
    exact .stopped ..
  | ok a =>
    cases hq : a.inquiry? with
    | some option =>
      simp only [runSubcommand, ha, hq]
      exact .informed ..
    | none =>
      simp only [readSubcommand, ha, hq, Option.isSome_none, Bool.false_eq_true, if_false] at h
      split at h
      · next hn =>
        subst hn
        cases hr : readRequest now a with
        | error stop =>
          simp only [runSubcommand, ha, hq, hr]
          exact .stopped ..
        | ok q =>
          rw [hr] at h
          cases h
      · next other =>
        exact onlyTells_of_record ha hq other (Option.map_eq_none_iff.1 h) loader tree verbose

theorem onlyTells_unknownCommand (tree : Tree) (name : String) (args : List String) :
    OnlyTells tree (unknownCommand tree name args) := by
  unfold unknownCommand
  split
  · split
    · exact .stopped ..
    · split
      · exact .informed ..
      · exact .stopped ..
  · exact .stopped ..

/-- A run on arguments that are not accepted only tells something. -/
theorem onlyTells_run (h : readInvocation now args = none) (some_args : args ≠ [])
    (loader : Loader) (tree : Tree) : OnlyTells tree (run loader now tree args) := by
  have given : args.isEmpty = false := List.isEmpty_eq_false_iff.2 some_args
  cases ha : readArguments mainForms false args with
  | error fault =>
    simp only [run, given, Bool.false_eq_true, if_false, ha]
    exact .stopped ..
  | ok a =>
    cases hq : a.inquiry? with
    | some option =>
      simp only [run, given, Bool.false_eq_true, if_false, ha, hq]
      exact .informed ..
    | none =>
      cases ho : a.operands with
      | nil =>
        simp only [run, given, Bool.false_eq_true, if_false, ha, hq, ho]
        exact .stopped ..
      | cons name rest =>
        cases hn : subcommands.lookup name with
        | none =>
          simp only [run, given, Bool.false_eq_true, if_false, ha, hq, ho, hn]
          exact onlyTells_unknownCommand ..
        | some n =>
          simp only [readInvocation, ha, hq, ho, hn, Option.isSome_none, Bool.false_eq_true,
            if_false, Option.bind_some, Option.map_eq_none_iff] at h
          simp only [run, given, Bool.false_eq_true, if_false, ha, hq, ho, hn]
          exact onlyTells_runSubcommand h loader tree (a.has .verbose)

/-! ### Accepted requests -/

theorem exists_separator_of_readSeparator {arg name : String} (h : readSeparator arg = .ok name) :
    ∃ separator, separatorNames.lookup name = some separator := by
  simp only [readSeparator] at h
  split at h
  · next known =>
    obtain rfl := Except.ok.inj h
    exact Option.isSome_iff_exists.1 known
  · cases h

/-- How a request is read: its options pass their checks, and its parts can be read. -/
theorem readRequest_eq_ok_iff {a : Arguments} {q : RenderRequest} :
    readRequest now a = .ok q ↔ (∀ o ∈ a.options, checkOption a o = .ok ()) ∧
      ∃ path output separator time, readRecordPath a = .ok path ∧
        (a.value? .output).mapM readPath = .ok output ∧
        readSeparator ((a.value? .lineSeparator).getD "native") = .ok separator ∧
        (a.value? .timestamp).mapM readTime = .ok time ∧
        q = ⟨path, output, (a.value? .toolName).getD ({} : Config).tool, separator,
          time.getD now, a.value? .timestampFormat, a.has .json⟩ := by
  rw [← forM_eq_ok, readRequest]
  constructor
  · intro h
    obtain ⟨⟨⟩, checks, h⟩ := bind_eq_ok.1 h
    obtain ⟨path, record, h⟩ := bind_eq_ok.1 h
    obtain ⟨output, put, h⟩ := bind_eq_ok.1 h
    obtain ⟨separator, named, h⟩ := bind_eq_ok.1 h
    obtain ⟨time, timed, h⟩ := bind_eq_ok.1 h
    exact ⟨checks, path, output, separator, time, record, put, named, timed,
      (Except.ok.inj h).symm⟩
  · rintro ⟨checks, path, output, separator, time, record, put, named, timed, rfl⟩
    simp only [checks, record, put, named, timed, ok_bind, pure_eq_ok]

/-- The separator of an accepted request has a name. -/
theorem exists_separator_of_readRequest {a : Arguments} {q : RenderRequest}
    (h : readRequest now a = .ok q) :
    ∃ separator, separatorNames.lookup q.separator = some separator := by
  obtain ⟨-, path, output, separator, time, -, -, named, -, rfl⟩ := readRequest_eq_ok_iff.1 h
  exact exists_separator_of_readSeparator named

/-- Texts in a mapping of settings are taken as they are, but for the name of the separator. -/
theorem ofEntries_texts {tool name separator : String} (pattern : Option String)
    (h : Settings.resolveSeparator (.text name) = .ok separator) :
    Settings.ofEntries [(.text "tool_name", .text tool), (.text "line_separator", .text name),
      (.text "timestamp_format", (pattern.map .text).getD .null)] =
      .ok ⟨.text tool, .text separator, (pattern.map .text).getD .null⟩ := by
  have named (v : Value) : Value.given? [(.text "tool_name", .text tool),
      (.text "line_separator", .text name), (.text "timestamp_format", v)] "line_separator" =
        some (.text name) := rfl
  rw [Settings.ofEntries, named]
  simp only [h, map_ok, ok_bind]
  cases pattern <;> rfl

/-- A request whose separator has a name asks for a configuration. -/
theorem RenderRequest.config_of_separator {q : RenderRequest} {separator : String}
    (h : separatorNames.lookup q.separator = some separator) :
    q.config = .ok ⟨q.tool, separator, q.pattern⟩ := by
  have resolved : Settings.resolveSeparator (.text q.separator) = .ok separator := by
    rw [Settings.resolveSeparator, separatorOf?, h, Option.some_or]
  rw [RenderRequest.config, ofEntries_texts q.pattern resolved, ok_bind]
  cases q.pattern <;> rfl

variable {q : RenderRequest}

/-- How the arguments of a subcommand make a request. -/
theorem readSubcommand_eq_render_iff :
    readSubcommand now n args = some (.render q) ↔ n = .render ∧
      ∃ a, readArguments renderForms true args = .ok a ∧ a.inquiry? = none ∧
        readRequest now a = .ok q := by
  constructor
  · intro h
    unfold readSubcommand at h
    split at h
    · cases h
    next a read =>
    split at h
    · cases h
    next silent =>
    split at h
    · next hn =>
      subst hn
      obtain ⟨q, request, same⟩ := Option.map_eq_some_iff.1 h
      obtain rfl := Invocation.render.inj same
      exact ⟨rfl, a, read, by simpa using silent, toOption_eq_some.1 request⟩
    · obtain ⟨path, -, other⟩ := Option.map_eq_some_iff.1 h
      cases other
  · rintro ⟨rfl, a, read, silent, request⟩
    rw [readSubcommand, Name.forms, read]
    simp [silent, toOption_eq_some.2 request]

/-- How arguments ask for a document: what is read before the name of the subcommand
asks for no information, nor does what is read after it, which makes the request. -/
inductive AsksDocument (now : Time.Stamp) (args : List String) (verbose : Bool)
    (q : RenderRequest) : Prop where
  | intro {a b : Arguments} {name : String} {rest : List String}
    (before : readArguments mainForms false args = .ok a) (silent : a.inquiry? = none)
    (operands : a.operands = name :: rest) (names : subcommands.lookup name = some .render)
    (after : readArguments renderForms true rest = .ok b) (silent' : b.inquiry? = none)
    (request : readRequest now b = .ok q) (shows : a.has .verbose = verbose)

theorem asksDocument_iff :
    readInvocation now args = some (verbose, .render q) ↔ AsksDocument now args verbose q := by
  constructor
  · intro h
    unfold readInvocation at h
    split at h
    · cases h
    next a before =>
    split at h
    · cases h
    next silent =>
    split at h
    · cases h
    next name rest operands =>
    obtain ⟨n, names, h⟩ := Option.bind_eq_some_iff.1 h
    obtain ⟨i, read, same⟩ := Option.map_eq_some_iff.1 h
    obtain ⟨shows, rfl⟩ := Prod.mk.inj same
    obtain ⟨rfl, b, after, silent', request⟩ := readSubcommand_eq_render_iff.1 read
    exact .intro before (by simpa using silent) operands names after silent' request shows
  · rintro ⟨before, silent, operands, names, after, silent', request, shows⟩
    have read := readSubcommand_eq_render_iff.2 ⟨rfl, _, after, silent', request⟩
    simp [readInvocation, before, silent, operands, names, read, shows]

/-- An accepted request asks for a configuration. -/
theorem exists_config_of_readInvocation
    (h : readInvocation now args = some (verbose, .render q)) : ∃ c, q.config = .ok c := by
  obtain ⟨-, -, -, -, -, -, request, -⟩ := asksDocument_iff.1 h
  obtain ⟨separator, known⟩ := exists_separator_of_readRequest request
  exact ⟨_, RenderRequest.config_of_separator known⟩

end SoloScenario.Command

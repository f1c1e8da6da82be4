import SoloScenario.Proofs.Envelopes
import SoloScenario.Proofs.ReadingFiles
import SoloScenario.Proofs.RunEnds

/-! Runs that print an envelope. A run that checks a record, or that writes its
document and is asked for an envelope, prints one envelope and nothing else, and
the envelope tells of success exactly when the exit code is zero. The ways out are
exceptions: that of a loader, if it is none of a value or of the system, and that of
half of a character, where it would have to be printed or written. -/

namespace SoloScenario

open Text (Points)

variable {loader : Loader} {tree : Tree} {path : Path} {r : Record Points} {log : Log}

/-- The record file at a path is read, and its loader ends in an exception that is not
reported. -/
def EndsUnreported (loader : Loader) (tree : Tree) (path : Path) : Prop :=
  ∃ bytes e, tree.hasPath path = .ok true ∧ path.suffix ∈ recordSuffixes ∧
    tree.readFile path = .ok bytes ∧ loader bytes = .error (.raised e) ∧ e.reported = false

/-! ### Exceptions of loaders -/

theorem valueOfBytes_eq_raised_iff {bytes : List UInt8} {e : Raised} :
    valueOfBytes loader path bytes = .error (.raised e) ↔ loader bytes = .error (.raised e) := by
  unfold valueOfBytes
  split <;> next h => simp [h]

theorem value_eq_raised_iff {e : Raised} : tree.value loader path = .error (.raised e) ↔
    tree.hasPath path = .ok true ∧ path.suffix ∈ recordSuffixes ∧
      ∃ bytes, tree.readFile path = .ok bytes ∧ loader bytes = .error (.raised e) := by
  constructor
  · intro h
    cases readEnd_value loader tree path with
    | missing _ ends => cases ends.symm.trans h
    | misnamed _ _ ends => cases ends.symm.trans h
    | barred _ _ ends => cases ends.symm.trans h
    | held bytes there named read ends =>
      exact ⟨there, named, bytes, read, valueOfBytes_eq_raised_iff.1 (ends.symm.trans h)⟩
  · rintro ⟨there, named, bytes, read, raised⟩
    exact (value_of_readFile there named read).trans (valueOfBytes_eq_raised_iff.2 raised)

/-- Only the exception of a loader is not reported. -/
theorem endsUnreported_iff : EndsUnreported loader tree path ↔
    ∃ e, tree.value loader path = .error (.raised e) ∧ e.reported = false := by
  simp only [EndsUnreported, value_eq_raised_iff]
  constructor
  · rintro ⟨bytes, e, there, named, read, raised, unreported⟩
    exact ⟨e, ⟨there, named, bytes, read, raised⟩, unreported⟩
  · rintro ⟨e, ⟨there, named, bytes, read, raised⟩, unreported⟩
    exact ⟨bytes, e, there, named, read, raised, unreported⟩

namespace Command

theorem escapes?_ne_none_iff {fault : LoadFault} :
    escapes? fault ≠ none ↔ ∃ e, fault = .raised e ∧ e.reported = false := by
  cases fault with
  | raised e => cases reported : e.reported <;> simp [escapes?, reported]
  | _ => simp [escapes?]

/-- A fault of loading ends a run in an exception if it is one of the loader. -/
theorem escapes?_of_loadFile {fault : LoadFault}
    (h : Record.loadFile loader tree path = (.error fault, log)) :
    escapes? fault ≠ none ↔ EndsUnreported loader tree path := by
  rw [escapes?_ne_none_iff, endsUnreported_iff]
  obtain value | ⟨v, refusal, value, -, rfl⟩ := value_of_loadFile_error (congrArg Prod.fst h)
  · rw [value]
    simp
  · rw [value]
    simp

/-! ### What a run tells -/

/-- A command tells how it ended: it prints one envelope and nothing else, which tells of
success exactly if the exit code is zero, and otherwise the exit code is one. -/
def Tells (command : String) (exitCode : Nat) (stdout : String) : Prop :=
  exitCode ≤ 1 ∧ ∃ data message, IsEnvelope stdout (exitCode = 0) command data message

/-- A command ends in an exception, with an exit code of one and nothing printed. -/
structure Raises (result : Result) : Prop where
  exception : result.exception ≠ none
  exitCode : result.exitCode = 1
  stdout : result.stdout = ""

theorem raises_raising (kind : String) (log : Log) (tree : Tree) : Raises (raising kind log tree) :=
  ⟨nofun, rfl, rfl⟩

/-- What prints nothing tells nothing. -/
theorem Raises.not_tells {result : Result} (h : Raises result) (command : String) :
    ¬Tells command result.exitCode result.stdout := by
  rintro ⟨-, data, message, envelope⟩
  rw [h.stdout] at envelope
  exact not_isEnvelope_empty envelope

/-- A command tells how it ended or ends in an exception, but not both. -/
inductive TellsOrRaises (command : String) (result : Result) : Prop where
  | tells (h : Tells command result.exitCode result.stdout) (none : result.exception = none)
  | raises (h : Raises result)

theorem TellsOrRaises.tells_iff {command : String} {result : Result}
    (h : TellsOrRaises command result) :
    Tells command result.exitCode result.stdout ↔ result.exception = none := by
  cases h with
  | tells h none => exact iff_of_true h none
  | raises h => exact iff_of_false (h.not_tells command) h.exception

theorem TellsOrRaises.raises_of_ne {command : String} {result : Result}
    (h : TellsOrRaises command result) (raised : result.exception ≠ none) : Raises result := by
  cases h with
  | tells _ none => exact absurd none raised
  | raises h => exact h

theorem tells_failureLine (command message : String) :
    Tells command 1 (failureLine command message) :=
  ⟨Nat.le_refl 1, .null, message, isEnvelope_failureLine command message⟩

theorem tells_reportLine (command : String) {r : Report} (h : r.FitsMemory) :
    Tells command (if r.isValid then 0 else 1) (reportLine command r) := by
  have envelope := isEnvelope_reportLine command h
  cases valid : r.isValid
  · rw [valid] at envelope
    exact ⟨by decide, _, _, envelope⟩
  · rw [valid] at envelope
    exact ⟨by decide, _, _, envelope⟩

theorem tellsOrRaises_failedLoad (command : String) (fault : LoadFault) :
    TellsOrRaises command (failedLoad command tree path fault log) := by
  unfold failedLoad
  split
  · exact .raises (raises_raising ..)
  · exact .tells (tells_failureLine ..) rfl

theorem tellsOrRaises_failedWrite (message : String) :
    TellsOrRaises "render" (failedWrite tree path message log) :=
  .tells (tells_failureLine ..) rfl

theorem tellsOrRaises_telling {exitCode : Nat} {command : String} {report : Report}
    (h : report.FitsMemory) (code : exitCode = if report.isValid then 0 else 1) :
    TellsOrRaises command (telling exitCode command r report log tree) := by
  subst code
  cases fits : r.fitsEnvelope with
  | true =>
    rw [telling_of_fits fits]
    exact .tells (tells_reportLine command h) rfl
  | false =>
    rw [telling_of_halves fits]
    exact .raises (raises_raising ..)

/-! ### Records that were loaded -/

/-- What a run on a loaded record has to print for an envelope, or to write for a document, holds
half of a character. -/
inductive MeetsHalf (tree : Tree) (r : Record Points) : Invocation → Prop where
  | checked {path : Path} (halves : r.fitsEnvelope = false) : MeetsHalf tree r (.validate path)
  | invalid {q : RenderRequest} (invalid : r.shown.check.valid = false)
      (halves : r.fitsEnvelope = false) : MeetsHalf tree r (.render q)
  | printed {q : RenderRequest} (valid : r.shown.check.valid = true) (output : q.output = none)
      (halves : r.fitsEnvelope = false) : MeetsHalf tree r (.render q)
  /-- The file that the document was to be put in is opened. -/
  | emptied {q : RenderRequest} {path : Path} {s : Spot} (valid : r.shown.check.valid = true)
      (output : q.output = some path) (halves : r.fitsDocument = false)
      (opened : (tree.openAt path).2 = .ok s) : MeetsHalf tree r (.render q)

/-- The reports on a loaded record are of one that fits into memory. -/
theorem fitsMemory_of_loadFile (h : Record.loadFile loader tree path = (.ok r, log))
    {report : Report} (same : report.record = r.shown) : report.FitsMemory := by
  obtain ⟨tags, steps⟩ := length_le_of_loadFile (congrArg Prod.fst h)
  constructor
  · simpa [same, Record.tagCount, Record.shown, Record.map] using tags
  · simpa [same, Record.stepCount, Record.shown, Record.map] using steps

theorem exception_telling_iff {exitCode : Nat} {command : String} {report : Report} :
    (telling exitCode command r report log tree).exception ≠ none ↔ r.fitsEnvelope = false := by
  cases fits : r.fitsEnvelope with
  | true => simp [telling_of_fits fits]
  | false => simp [telling_of_halves fits, raising]

theorem tellsOrRaises_validate (h : Record.loadFile loader tree path = (.ok r, log)) :
    TellsOrRaises "validate" (validate loader tree path) := by
  rw [validate_of_ok h]
  exact tellsOrRaises_telling (fitsMemory_of_loadFile h rfl) rfl

theorem exception_validate_iff (h : Record.loadFile loader tree path = (.ok r, log)) :
    (validate loader tree path).exception ≠ none ↔ MeetsHalf tree r (.validate path) := by
  rw [validate_of_ok h, exception_telling_iff]
  constructor
  · exact .checked
  · rintro ⟨halves⟩
    exact halves

section Render

variable {q : RenderRequest} {c : Config}

theorem tellsOrRaises_render (hc : q.config = .ok c) (json : q.json = true)
    (h : Record.loadFile loader tree q.path = (.ok r, log)) :
    TellsOrRaises "render" (render loader tree q) := by
  cases valid : r.shown.check.valid with
  | false =>
    rw [render_of_invalid h valid]
    exact tellsOrRaises_telling (fitsMemory_of_loadFile h rfl)
      (by rw [Report.isValid_ofCheck, valid]; rfl)
  | true =>
    have delivered (log : Log) (left : Tree) : TellsOrRaises "render"
        (delivering q r r.shown.check (Document.text c r.shown q.time) log left) := by
      rw [delivering_of_json json]
      exact tellsOrRaises_telling (fitsMemory_of_loadFile h rfl)
        (by rw [Report.isValid_ofDocument, valid]; rfl)
    have ends := renderEnd_of_valid h valid hc
    generalize render loader tree q = result at ends ⊢
    cases ends with
    | printed => exact delivered ..
    | written => exact delivered ..
    | refused => exact tellsOrRaises_failedWrite _
    | emptied => exact .raises (raises_raising ..)
    | unopened => exact tellsOrRaises_failedWrite _

/-- A run that puts a document at a path meets half of a character only if it empties the file. -/
theorem meetsHalf_of_output {path : Path} (output : q.output = some path)
    (valid : r.shown.check.valid = true) : MeetsHalf tree r (.render q) ↔
      r.fitsDocument = false ∧ ∃ s, (tree.openAt path).2 = .ok s := by
  constructor
  · intro meets
    cases meets with
    | invalid invalid _ => cases invalid.symm.trans valid
    | printed _ none _ => cases none.symm.trans output
    | emptied _ put halves opened =>
      obtain rfl := Option.some.inj (output.symm.trans put)
      exact ⟨halves, _, opened⟩
  · rintro ⟨halves, s, opened⟩
    exact .emptied valid output halves opened

/-- A run that prints nothing but an envelope on a valid record meets half of a character only
there. -/
theorem meetsHalf_of_none (output : q.output = none) (valid : r.shown.check.valid = true) :
    MeetsHalf tree r (.render q) ↔ r.fitsEnvelope = false := by
  constructor
  · intro meets
    cases meets with
    | invalid invalid _ => cases invalid.symm.trans valid
    | printed _ _ halves => exact halves
    | emptied _ put _ _ => cases output.symm.trans put
  · exact .printed valid output

theorem meetsHalf_of_invalid (invalid : r.shown.check.valid = false) :
    MeetsHalf tree r (.render q) ↔ r.fitsEnvelope = false := by
  constructor
  · intro meets
    cases meets with
    | invalid _ halves => exact halves
    | printed valid _ _ => cases valid.symm.trans invalid
    | emptied valid _ _ _ => cases valid.symm.trans invalid
  · exact .invalid invalid

theorem exception_render_iff (hc : q.config = .ok c) (json : q.json = true)
    (h : Record.loadFile loader tree q.path = (.ok r, log)) :
    (render loader tree q).exception ≠ none ↔ MeetsHalf tree r (.render q) := by
  cases valid : r.shown.check.valid with
  | false => rw [render_of_invalid h valid, exception_telling_iff, meetsHalf_of_invalid valid]
  | true =>
    have ends := renderEnd_of_valid h valid hc
    generalize render loader tree q = result at ends ⊢
    cases ends with
    | printed output =>
      rw [delivering_of_json json, exception_telling_iff, meetsHalf_of_none output valid]
    | written output fits _ =>
      rw [delivering_of_json json, exception_telling_iff, meetsHalf_of_output output valid, fits,
        Record.fitsEnvelope_of_fitsDocument fits]
      simp
    | refused output fits _ =>
      rw [meetsHalf_of_output output valid, fits]
      simp [failedWrite]
    | emptied output halves leaves =>
      rw [meetsHalf_of_output output valid, leaves]
      simp [raising, halves]
    | unopened output _ leaves =>
      rw [meetsHalf_of_output output valid, leaves]
      simp [failedWrite]

end Render

/-! ### Runs -/

/-- A run that is asked for an envelope ends in an exception: that of the loader, or that of half
of a character. -/
def EndsInException (loader : Loader) (tree : Tree) (i : Invocation) : Prop :=
  EndsUnreported loader tree i.path ∨
    ∃ r log, Record.loadFile loader tree i.path = (.ok r, log) ∧ MeetsHalf tree r i

variable {i : Invocation}

/-- Once a record is loaded, only half of a character in it is left to meet. -/
theorem endsInException_of_ok (h : Record.loadFile loader tree i.path = (.ok r, log)) :
    EndsInException loader tree i ↔ MeetsHalf tree r i := by
  constructor
  · rintro (unreported | ⟨r', log', same, meets⟩)
    · obtain ⟨e, value, -⟩ := endsUnreported_iff.1 unreported
      obtain ⟨v, other, -⟩ := value_of_loadFile_ok (congrArg Prod.fst h)
      cases other.symm.trans value
    · obtain rfl := Except.ok.inj (Prod.mk.inj (h.symm.trans same)).1
      exact meets
  · exact fun meets => .inr ⟨r, log, h, meets⟩

theorem tellsOrRaises_run (json : i.json = true)
    (config : ∀ q, i = .render q → ∃ c, q.config = .ok c) :
    TellsOrRaises i.name (i.run loader tree) := by
  cases loaded : Record.loadFile loader tree i.path with
  | mk outcome log =>
    cases outcome with
    | error fault =>
      rw [Invocation.run_of_error loaded]
      exact tellsOrRaises_failedLoad i.name fault
    | ok r =>
      cases i with
      | validate path => exact tellsOrRaises_validate loaded
      | render q =>
        obtain ⟨c, hc⟩ := config q rfl
        exact tellsOrRaises_render hc json loaded

theorem exception_run_iff (json : i.json = true)
    (config : ∀ q, i = .render q → ∃ c, q.config = .ok c) :
    (i.run loader tree).exception ≠ none ↔ EndsInException loader tree i := by
  cases loaded : Record.loadFile loader tree i.path with
  | mk outcome log =>
    cases outcome with
    | error fault =>
      have other : ¬∃ r log, Record.loadFile loader tree i.path = (.ok r, log) ∧
          MeetsHalf tree r i := by
        rintro ⟨r, log', same, -⟩
        rw [loaded] at same
        cases (Prod.mk.inj same).1
      rw [Invocation.run_of_error loaded, exception_failedLoad, escapes?_of_loadFile loaded,
        EndsInException, or_iff_left other]
    | ok r =>
      rw [endsInException_of_ok loaded]
      cases i with
      | validate path => exact exception_validate_iff loaded
      | render q =>
        obtain ⟨c, hc⟩ := config q rfl
        exact exception_render_iff hc json loaded

/-- A run on accepted arguments that is asked for an envelope prints one envelope and nothing
else, which tells of success exactly if the exit code is zero, unless it ends in an exception;
then it prints nothing. -/
theorem tells_run_iff {now : Time.Stamp} {args : List String} {verbose : Bool}
    (h : readInvocation now args = some (verbose, i)) (json : i.json = true) (loader : Loader)
    (tree : Tree) :
    (Tells i.name (run loader now tree args).exitCode (run loader now tree args).stdout ↔
      ¬EndsInException loader tree i) ∧
    (EndsInException loader tree i → (run loader now tree args).exception ≠ none ∧
      (run loader now tree args).exitCode = 1 ∧ (run loader now tree args).stdout = "") := by
  have config : ∀ q, i = .render q → ∃ c, q.config = .ok c := by
    -- the separator was checked with the arguments
    rintro q rfl
    exact exists_config_of_readInvocation h
  have ends : TellsOrRaises i.name (i.run loader tree) := tellsOrRaises_run json config
  have raises : (i.run loader tree).exception ≠ none ↔ EndsInException loader tree i :=
    exception_run_iff json config
  rw [run_of_readInvocation h loader tree, ← raises]
  refine ⟨ends.tells_iff.trans not_not.symm, fun raised => ?_⟩
  obtain ⟨exception, exits, prints⟩ := ends.raises_of_ne raised
  exact ⟨exception, exits, prints⟩

/-- Noon on the first day of the first year. -/
def noon : Time.Stamp where
  date := default
  hour := 12
  minute := 0
  second := 0
  microsecond := 0
  zone := none
  hour_lt := Nat.le_of_ble_eq_true rfl
  minute_lt := Nat.zero_lt_succ 59
  second_lt := Nat.zero_lt_succ 59
  microsecond_lt := Nat.zero_lt_succ 999999

/-- The start of a year. -/
def newYear : Time.Stamp := (Time.Stamp.read? "2024-01-01").getD noon

/-- A tree with one record file. -/
def oneFile (text : String) : Tree :=
  { files := [(⟨false, ["r.yaml"]⟩, text.toUTF8.toList)], folders := [] }

/-- The request of the shortest arguments that ask for a document and an envelope. -/
def shortRequest : RenderRequest :=
  ⟨⟨"", ["r.yaml"]⟩, none, "scenario-split", "native", noon, none, true⟩

/-- The loader of this library, where sets keep their members as they are given. -/
abbrev plainLoader : Loader := Markup.loader id

theorem tells_run_shortRequest :
    let tree := oneFile "feature: a\nscenario: b\n"
    let args := ["render", "r.yaml", "--json"]
    readInvocation noon args = some (false, .render shortRequest) ∧
      Tells "render" (run plainLoader noon tree args).exitCode
        (run plainLoader noon tree args).stdout := by
  intro tree args
  have accepted : readInvocation noon args = some (false, .render shortRequest) := by
    decide +kernel
  obtain ⟨tells, raises⟩ := tells_run_iff accepted rfl plainLoader tree
  refine ⟨accepted, tells.2 fun raised => (raises raised).1 ?_⟩
  decide +kernel

theorem not_tells_run_notTruth :
    let tree := oneFile "feature: !!bool x\nscenario: s\n"
    let args := ["validate", "r.yaml"]
    readInvocation noon args = some (false, .validate ⟨"", ["r.yaml"]⟩) ∧
      (run plainLoader noon tree args).exception = some "KeyError" ∧
      ¬Tells "validate" (run plainLoader noon tree args).exitCode
        (run plainLoader noon tree args).stdout := by
  intro tree args
  have silent : (run plainLoader noon tree args).stdout = "" := by decide +kernel
  refine ⟨by decide +kernel, by decide +kernel, ?_⟩
  rintro ⟨-, data, message, envelope⟩
  rw [silent] at envelope
  exact not_isEnvelope_empty envelope

end Command

end SoloScenario

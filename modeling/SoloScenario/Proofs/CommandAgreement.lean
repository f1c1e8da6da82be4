import SoloScenario.Proofs.EnvelopeRuns
import SoloScenario.Proofs.TreeWrites

/-! The two commands judge a record alike. What one of them refuses, the other
refuses with the same exit code and the same text but for the command that the
envelope names, and writes nothing. What one of them accepts, the other accepts,
unless the document cannot be written, and both tell the same data, but that only
one can tell where a document was put. Their loaders load the same from the record file.
The exception is a document with half of a character in it that one of them has to write
out, while the other does not look at the texts of steps. -/

namespace SoloScenario

open Text (Points)

theorem Path.text_ne_empty (p : Path) : p.text ≠ "" := by
  simp only [Path.text]
  split
  · decide
  · next h => exact h

namespace Command

/-! ### What it means to agree -/

/-- Two texts are both empty, or they are lines whose envelopes differ in the command alone. -/
def SameButCommand (command command' text text' : String) : Prop :=
  (text = "" ∧ text' = "") ∨ ∃ success data message,
    IsEnvelope text success command data message ∧
    text = envelopeLine (Envelope.make success command data message) ∧
    text' = envelopeLine (Envelope.make success command' data message)

/-- The record at the path of a request has a document, which cannot be written where the
request wants it. -/
def Unwritten (loader : Loader) (tree : Tree) (q : RenderRequest) : Prop :=
  ∃ r log c path fault, Record.loadFile loader tree q.path = (.ok r, log) ∧ q.config = .ok c ∧
    q.output = some path ∧ (tree.write path (documentBytes c r.shown q.time)).2 = .error fault

/-- Half of a character in the document of a valid record tells the two commands apart, since
only one of them has to write it out. -/
inductive WritesHalf (loader : Loader) (tree : Tree) (q : RenderRequest) : Prop
  /-- The document is to be printed as it is; the envelope of a check can be printed. -/
  | printed {r : Record Points} {log : Log}
      (loaded : Record.loadFile loader tree q.path = (.ok r, log))
      (valid : r.shown.check.valid = true) (halves : r.fitsDocument = false)
      (output : q.output = none) (plain : q.json = false) (fits : r.fitsEnvelope = true)
  /-- The file that the document is to be put in is opened, and left empty. -/
  | emptied {r : Record Points} {log : Log} {path : Path} {s : Spot}
      (loaded : Record.loadFile loader tree q.path = (.ok r, log))
      (valid : r.shown.check.valid = true) (halves : r.fitsDocument = false)
      (output : q.output = some path) (opened : (tree.openAt path).2 = .ok s)
  /-- An envelope tells that the file is not opened; that of a check cannot be printed. -/
  | unopened {r : Record Points} {log : Log} {path : Path} {fault : PathFault}
      (loaded : Record.loadFile loader tree q.path = (.ok r, log))
      (valid : r.shown.check.valid = true) (halves : r.fitsEnvelope = false)
      (output : q.output = some path) (refused : (tree.openAt path).2 = .error fault)

/-- How two runs from one tree agree, of which one checks a record and the other writes its
document as a request asks for it. -/
structure Agree (loader : Loader) (tree : Tree) (q : RenderRequest) (checked written : Outcome) :
    Prop where
  /-- What is refused is refused alike, and nothing is written. -/
  refused : checked.exitCode ≠ 0 → written.exitCode = checked.exitCode ∧
    SameButCommand "validate" "render" checked.stdout written.stdout ∧ written.tree = tree
  /-- What is accepted is accepted, unless the document cannot be written. -/
  accepted : checked.exitCode = 0 → (written.exitCode = 0 ↔ ¬ Unwritten loader tree q)
  /-- The data are the same, but for where the document was put. -/
  told : checked.exitCode = 0 → written.exitCode = 0 → q.json = true →
    ∃ data message message', "output" ∉ data.map Prod.fst ∧
      IsEnvelope checked.stdout true "validate" (Report.object data) message ∧
      IsEnvelope written.stdout true "render"
        (Report.object (data ++ (q.output.map fun path => ("output", .text path.text)).toList))
        message'

/-! ### Refused records -/

theorem sameButCommand_failureLine (message : String) :
    SameButCommand "validate" "render" (failureLine "validate" message)
      (failureLine "render" message) :=
  .inr ⟨false, .null, message, isEnvelope_failureLine "validate" message, rfl, rfl⟩

/-- Reports of a record with errors differ in nothing but the command. -/
theorem sameButCommand_reportLine {r : Report} (h : r.FitsMemory) (invalid : r.isValid = false) :
    SameButCommand "validate" "render" (reportLine "validate" r) (reportLine "render" r) := by
  refine .inr ⟨false, Report.object r.data, r.message "validate", ?_, ?_, ?_⟩
  · have envelope := isEnvelope_reportLine "validate" h
    rwa [invalid] at envelope
  · rw [reportLine, r.ofReport_value "validate"]
    simp only [Report.envelope, invalid]
  · rw [reportLine, r.ofReport_value "render"]
    simp only [Report.envelope, Report.message, invalid, Bool.false_eq_true, if_false]

variable {loader : Loader} {tree : Tree} {q : RenderRequest} {c : Config} {r : Record Points}
  {log : Log} {verbose verbose' : Bool}

/-- Commands that refuse alike agree. -/
theorem agree_of_refused {checked written : Result} (fails : checked.exitCode = 1)
    (alike : written.exitCode = 1)
    (text : SameButCommand "validate" "render" checked.stdout written.stdout)
    (leaves : written.tree = tree) :
    Agree loader tree q (finished verbose checked) (finished verbose' written) where
  refused _ := ⟨alike.trans fails.symm, text, leaves⟩
  accepted done := by cases fails.symm.trans done
  told done := by cases fails.symm.trans done

theorem agree_of_error {fault : LoadFault}
    (h : Record.loadFile loader tree q.path = (.error fault, log)) :
    Agree loader tree q (finished verbose (validate loader tree q.path))
      (finished verbose' (render loader tree q)) := by
  rw [validate_of_error h, render_of_error h]
  refine agree_of_refused (exitCode_failedLoad _) (exitCode_failedLoad _) ?_ (tree_failedLoad _)
  rw [stdout_failedLoad, stdout_failedLoad]
  split
  · exact sameButCommand_failureLine _
  · exact .inl ⟨rfl, rfl⟩

theorem agree_of_invalid (h : Record.loadFile loader tree q.path = (.ok r, log))
    (invalid : r.shown.check.valid = false) :
    Agree loader tree q (finished verbose (validate loader tree q.path))
      (finished verbose' (render loader tree q)) := by
  rw [validate_of_ok h, render_of_invalid h invalid, invalid]
  cases fits : r.fitsEnvelope with
  | true =>
    have told : SameButCommand "validate" "render" (reportLine "validate" (.ofCheck r.shown))
        (reportLine "render" (.ofCheck r.shown)) :=
      sameButCommand_reportLine (fitsMemory_of_loadFile h rfl)
        ((Report.isValid_ofCheck _).trans invalid)
    rw [telling_of_fits fits, telling_of_fits fits]
    refine agree_of_refused rfl rfl ?_ rfl
    dsimp only
    exact told
  | false =>
    rw [telling_of_halves fits, telling_of_halves fits]
    exact agree_of_refused rfl rfl (.inl ⟨rfl, rfl⟩) rfl

/-! ### Accepted records -/

theorem not_unwritten_of_none (h : q.output = none) : ¬ Unwritten loader tree q := by
  rintro ⟨r, log, c, path, fault, -, -, output, -⟩
  rw [h] at output
  cases output

/-- Whether the document is refused, where it is to be put at a path. -/
theorem unwritten_iff {path : Path} (h : Record.loadFile loader tree q.path = (.ok r, log))
    (hc : q.config = .ok c) (output : q.output = some path) :
    Unwritten loader tree q ↔
      ∃ fault, (tree.write path (documentBytes c r.shown q.time)).2 = .error fault := by
  constructor
  · rintro ⟨r', log', c', path', fault, loaded, config, output', refused⟩
    rw [h] at loaded
    obtain rfl := Except.ok.inj (Prod.mk.inj loaded).1
    obtain rfl := Except.ok.inj (hc.symm.trans config)
    obtain rfl := Option.some.inj (output.symm.trans output')
    exact ⟨fault, refused⟩
  · rintro ⟨fault, refused⟩
    exact ⟨r, log, c, path, fault, h, hc, output, refused⟩

theorem canDeliver_of_whole (h : Record.loadFile loader tree q.path = (.ok r, log))
    (valid : r.shown.check.valid = true) (whole : ¬WritesHalf loader tree q)
    (fits : r.fitsEnvelope = true) : CanDeliver q r := by
  unfold CanDeliver
  split
  · exact fits
  · next plain =>
    intro output
    by_contra halves
    exact whole (.printed h valid (Bool.eq_false_iff.2 halves) output (Bool.eq_false_iff.2 plain)
      fits)

/-- The document of a valid record is printed or written, unless it cannot be written. -/
theorem exitCode_render_eq_zero_iff (h : Record.loadFile loader tree q.path = (.ok r, log))
    (valid : r.shown.check.valid = true) (whole : ¬WritesHalf loader tree q)
    (fits : r.fitsEnvelope = true) (hc : q.config = .ok c) :
    (render loader tree q).exitCode = 0 ↔ ¬ Unwritten loader tree q := by
  have delivers := canDeliver_of_whole h valid whole fits
  have ends := renderEnd_of_valid h valid hc
  generalize render loader tree q = result at ends ⊢
  cases ends with
  | printed output =>
    rw [delivering_of_canDeliver delivers]
    exact iff_of_true rfl (not_unwritten_of_none output)
  | written output _ leaves =>
    rw [delivering_of_canDeliver delivers]
    refine iff_of_true rfl fun unwritten => ?_
    obtain ⟨fault, refused⟩ := (unwritten_iff h hc output).1 unwritten
    rw [leaves] at refused
    cases refused
  | refused output _ leaves =>
    refine iff_of_false nofun fun written => written ?_
    exact (unwritten_iff h hc output).2 ⟨_, congrArg Prod.snd leaves⟩
  | emptied output halves leaves =>
    exact absurd (.emptied h valid halves output (congrArg Prod.snd leaves)) whole
  | unopened output _ leaves =>
    refine iff_of_false nofun fun written => written ?_
    exact (unwritten_iff h hc output).2 ⟨_, congrArg Prod.snd (Tree.write_of_openAt leaves)⟩

/-- What is printed when the document was printed or written. -/
theorem stdout_render_of_exitCode (h : Record.loadFile loader tree q.path = (.ok r, log))
    (valid : r.shown.check.valid = true) (hc : q.config = .ok c)
    (done : (render loader tree q).exitCode = 0) :
    (render loader tree q).stdout = deliveredText q r.shown (Document.text c r.shown q.time) := by
  have ends := renderEnd_of_valid h valid hc
  generalize render loader tree q = result at ends done ⊢
  cases ends with
  | printed => exact stdout_delivering done
  | written => exact stdout_delivering done
  | refused => cases done
  | emptied => cases done
  | unopened => cases done

/-- The reports of a record have the same data, but for where the document was put. -/
theorem data_ofDocument (r : Record) (text : String) (output : Option Path) :
    (Report.ofDocument r text output).data = (Report.ofCheck r).data ++
      (output.map fun path => ("output", Value.text path.text)).toList := by
  cases output with
  | none => rfl
  | some path =>
    simp [Report.ofDocument, Report.ofCheck, Report.data, Report.outputEntry,
      Path.text_ne_empty, Report.errors, Report.warnings]

theorem output_notMem_data_ofCheck (r : Record) :
    "output" ∉ (Report.ofCheck r).data.map Prod.fst := by
  simp [Report.ofCheck, Report.data, Report.outputEntry]

/-- Where the envelope on a valid record cannot be printed, the other command has to print one on
the same texts. -/
theorem refused_of_halves (h : Record.loadFile loader tree q.path = (.ok r, log))
    (valid : r.shown.check.valid = true) (whole : ¬WritesHalf loader tree q)
    (halves : r.fitsEnvelope = false) (hc : q.config = .ok c) :
    ∃ log, render loader tree q = raising encodingError log tree := by
  have document : r.fitsDocument = false := by
    by_contra fits
    rw [Record.fitsEnvelope_of_fitsDocument (eq_true_of_ne_false fits)] at halves
    cases halves
  have ends := renderEnd_of_valid h valid hc
  generalize render loader tree q = result at ends ⊢
  cases ends with
  | printed output =>
    have undelivered : ¬CanDeliver q r := by
      simp [CanDeliver, halves, document, output]
    exact ⟨_, delivering_of_not_canDeliver undelivered⟩
  | written _ fits _ => cases document.symm.trans fits
  | refused _ fits _ => cases document.symm.trans fits
  | emptied output _ leaves =>
    exact absurd (.emptied h valid document output (congrArg Prod.snd leaves)) whole
  | unopened output _ leaves =>
    exact absurd (.unopened h valid halves output (congrArg Prod.snd leaves)) whole

theorem agree_of_valid (h : Record.loadFile loader tree q.path = (.ok r, log))
    (valid : r.shown.check.valid = true) (whole : ¬WritesHalf loader tree q)
    (hc : q.config = .ok c) :
    Agree loader tree q (finished verbose (validate loader tree q.path))
      (finished verbose' (render loader tree q)) := by
  cases fits : r.fitsEnvelope with
  | false =>
    obtain ⟨_, raised⟩ := refused_of_halves h valid whole fits hc
    rw [validate_of_ok h, telling_of_halves fits, raised]
    exact agree_of_refused rfl rfl (.inl ⟨rfl, rfl⟩) rfl
  | true =>
    have passes : (validate loader tree q.path).exitCode = 0 := by
      rw [validate_of_ok h, telling_of_fits fits, valid, if_pos rfl]
    have line : (validate loader tree q.path).stdout =
        reportLine "validate" (.ofCheck r.shown) := by
      rw [validate_of_ok h, telling_of_fits fits]
    refine ⟨fun fails => absurd passes fails,
      fun _ => exitCode_render_eq_zero_iff h valid whole fits hc, fun _ done json => ?_⟩
    have checked := isEnvelope_reportLine "validate" (r := .ofCheck r.shown)
      (fitsMemory_of_loadFile h rfl)
    have written := isEnvelope_reportLine "render"
      (r := .ofDocument r.shown (Document.text c r.shown q.time) q.output)
      (fitsMemory_of_loadFile h rfl)
    rw [Report.isValid_ofCheck, valid, ← line] at checked
    rw [Report.isValid_ofDocument, valid, data_ofDocument, ← deliveredText_of_json json,
      ← stdout_render_of_exitCode h valid hc done] at written
    exact ⟨_, _, _, output_notMem_data_ofCheck r.shown, checked, written⟩

theorem validate_congr {loader' : Loader} {path : Path}
    (h : Record.loadFile loader' tree path = Record.loadFile loader tree path) :
    validate loader' tree path = validate loader tree path := by
  rw [validate, validate, h]

/-- The two commands agree on the record of a request. -/
theorem agree_of_config (whole : ¬WritesHalf loader tree q) (hc : q.config = .ok c) :
    Agree loader tree q (finished verbose (validate loader tree q.path))
      (finished verbose' (render loader tree q)) := by
  cases loaded : Record.loadFile loader tree q.path with
  | mk outcome log =>
    cases outcome with
    | error fault => exact agree_of_error loaded
    | ok r =>
      cases valid : r.shown.check.valid with
      | false => exact agree_of_invalid loaded valid
      | true => exact agree_of_valid loaded valid whole hc

/-- Runs on accepted arguments that check a record and that write its document agree, unless half
of a character has to be written out. They load the same from its file, though one may show the
members of sets in another order than the other. -/
theorem agree_run {loader' : Loader} {now now' : Time.Stamp} {args args' : List String}
    (checks : readInvocation now args = some (verbose, .validate q.path))
    (writes : readInvocation now' args' = some (verbose', .render q))
    (alike : Record.loadFile loader' tree q.path = Record.loadFile loader tree q.path)
    (whole : ¬WritesHalf loader tree q) :
    Agree loader tree q (run loader' now tree args) (run loader now' tree args') := by
  obtain ⟨c, hc⟩ := exists_config_of_readInvocation writes
  rw [run_of_readInvocation checks loader' tree, run_of_readInvocation writes loader tree,
    Invocation.run, validate_congr alike]
  exact agree_of_config whole hc

theorem agree_run_shortRequest :
    let tree := oneFile "feature: a\nscenario: b\n"
    readInvocation noon ["validate", "r.yaml"] = some (false, .validate shortRequest.path) ∧
      readInvocation noon ["render", "r.yaml", "--json"] = some (false, .render shortRequest) ∧
      ¬WritesHalf plainLoader tree shortRequest ∧
      Agree plainLoader tree shortRequest (run plainLoader noon tree ["validate", "r.yaml"])
        (run plainLoader noon tree ["render", "r.yaml", "--json"]) := by
  intro tree
  have checks : readInvocation noon ["validate", "r.yaml"] =
      some (false, .validate shortRequest.path) := by decide +kernel
  have writes : readInvocation noon ["render", "r.yaml", "--json"] =
      some (false, .render shortRequest) := by decide +kernel
  have whole : ¬WritesHalf plainLoader tree shortRequest := by
    rintro (⟨_, _, _, _, plain, _⟩ | ⟨_, _, _, put, _⟩ | ⟨_, _, _, put, _⟩)
    · cases plain
    · cases put
    · cases put
  exact ⟨checks, writes, whole, agree_run checks writes rfl whole⟩

/-- A request for a document to be printed. -/
def plainRequest : RenderRequest :=
  ⟨⟨"", ["r.yaml"]⟩, none, "scenario-split", "native", newYear, none, false⟩

/-- A record whose only step is half of a character is valid, but its document is not printed. -/
theorem not_agree_plainRequest :
    let tree := oneFile "feature: a\nscenario: b\nsteps:\n  - Given: \"\\ud800\"\n"
    let checks := ["validate", "r.yaml"]
    let writes := ["render", "r.yaml", "--timestamp", "2024-01-01"]
    readInvocation noon checks = some (false, .validate plainRequest.path) ∧
      readInvocation noon writes = some (false, .render plainRequest) ∧
      (run plainLoader noon tree checks).exitCode = 0 ∧
      (run plainLoader noon tree writes).exitCode = 1 ∧
      ¬Agree plainLoader tree plainRequest (run plainLoader noon tree checks)
        (run plainLoader noon tree writes) := by
  intro tree checks writes
  have checked : (run plainLoader noon tree checks).exitCode = 0 := by decide +kernel
  have written : (run plainLoader noon tree writes).exitCode = 1 := by decide +kernel
  refine ⟨by decide +kernel, by decide +kernel, checked, written, fun agree => ?_⟩
  have accepted := (agree.accepted checked).2 (not_unwritten_of_none rfl)
  rw [written] at accepted
  cases accepted

end Command

end SoloScenario

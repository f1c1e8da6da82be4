import SoloScenario.Proofs.Invocation

/-! The ends of a run, each stated once: the record cannot be loaded, it has errors,
its document is printed, it is written to a file, or it cannot be written. Where an
envelope or a document would show halves of characters, the run ends in an exception. -/

namespace SoloScenario

open Text (Points)

/-! ### The reports of the commands -/

namespace Report

/-- The report of a record that is only checked. -/
def ofCheck (r : Record) : Report := ⟨"", r, none, none, some r.check⟩

/-- The report of a record whose document was written. -/
def ofDocument (r : Record) (text : String) (output : Option Path) : Report :=
  ⟨"", r, some text, output.map Path.text, some r.check⟩

@[simp] theorem isValid_ofCheck (r : Record) : (ofCheck r).isValid = r.check.valid := rfl

@[simp] theorem isValid_ofDocument (r : Record) (text : String) (output : Option Path) :
    (ofDocument r text output).isValid = r.check.valid := rfl

end Report

namespace Command

variable {loader : Loader} {tree : Tree} {path : Path} {fault : LoadFault} {log : Log}
  {r : Record Points} {q : RenderRequest} {c : Config}

/-! ### Records that are refused -/

@[simp] theorem exitCode_failedLoad (command : String) :
    (failedLoad command tree path fault log).exitCode = 1 := by
  unfold failedLoad
  split <;> rfl

@[simp] theorem tree_failedLoad (command : String) :
    (failedLoad command tree path fault log).tree = tree := by
  unfold failedLoad
  split <;> rfl

theorem stdout_failedLoad (command : String) :
    (failedLoad command tree path fault log).stdout =
      if isReported fault then failureLine command s!"Failed to load record: {fault.message}"
      else "" := by
  unfold failedLoad isReported
  cases escapes? fault <;> rfl

theorem exception_failedLoad (command : String) :
    (failedLoad command tree path fault log).exception = escapes? fault := by
  unfold failedLoad
  split <;> next h => exact h.symm

theorem validate_of_error (h : Record.loadFile loader tree path = (.error fault, log)) :
    validate loader tree path = failedLoad "validate" tree path fault log := by
  rw [validate, h]

theorem render_of_error (h : Record.loadFile loader tree q.path = (.error fault, log)) :
    render loader tree q = failedLoad "render" tree q.path fault log := by
  rw [render, h]

theorem Invocation.run_of_error {i : Invocation}
    (h : Record.loadFile loader tree i.path = (.error fault, log)) :
    i.run loader tree = failedLoad i.name tree i.path fault log := by
  cases i with
  | validate path => exact validate_of_error h
  | render q => exact render_of_error h

/-! ### Envelopes on records -/

section Telling

variable {exitCode : Nat} {command : String} {report : Report}

theorem telling_of_fits (fits : r.fitsEnvelope = true) :
    telling exitCode command r report log tree =
      ⟨exitCode, reportLine command report, log, tree, none⟩ :=
  if_pos fits

theorem telling_of_halves (halves : r.fitsEnvelope = false) :
    telling exitCode command r report log tree = raising encodingError log tree :=
  if_neg (Bool.eq_false_iff.1 halves)

@[simp] theorem tree_telling : (telling exitCode command r report log tree).tree = tree := by
  unfold telling
  split <;> rfl

end Telling

theorem validate_of_ok (h : Record.loadFile loader tree path = (.ok r, log)) :
    validate loader tree path = telling (if r.shown.check.valid then 0 else 1) "validate" r
      (.ofCheck r.shown) log tree := by
  rw [validate, h]
  rfl

theorem render_of_invalid (h : Record.loadFile loader tree q.path = (.ok r, log))
    (invalid : r.shown.check.valid = false) :
    render loader tree q = telling 1 "render" r (.ofCheck r.shown)
      (log ++ checkEntries q.path r.shown.check) tree := by
  simp [render, h, invalid, Report.ofCheck]

/-! ### Documents that are delivered -/

/-- What is printed when a document is where it was asked for. -/
def deliveredText (q : RenderRequest) (r : Record) (text : String) : String :=
  if q.json then reportLine "render" (.ofDocument r text q.output)
  else match q.output with
    | some path => s!"Wrote {path.text}\n"
    | none => text

variable {text : String}

theorem deliveredText_of_json (json : q.json = true) (r : Record) (text : String) :
    deliveredText q r text = reportLine "render" (.ofDocument r text q.output) :=
  if_pos json

/-- What is printed once a document is where it was asked for can be printed: the envelope, or the
document if it was to go nowhere else. -/
def CanDeliver (q : RenderRequest) (r : Record Points) : Prop :=
  if q.json then r.fitsEnvelope = true else q.output = none → r.fitsDocument = true

theorem delivering_of_json (json : q.json = true) :
    delivering q r r.shown.check text log tree =
      telling 0 "render" r (.ofDocument r.shown text q.output) log tree :=
  if_pos json

theorem canDeliver_of_fits (fits : r.fitsDocument = true) : CanDeliver q r := by
  unfold CanDeliver
  split
  · exact Record.fitsEnvelope_of_fitsDocument fits
  · exact fun _ => fits

theorem delivering_of_canDeliver (h : CanDeliver q r) :
    delivering q r r.shown.check text log tree =
      ⟨0, deliveredText q r.shown text, log, tree, none⟩ := by
  unfold CanDeliver at h
  cases json : q.json with
  | true =>
    rw [if_pos json] at h
    rw [delivering_of_json json, deliveredText_of_json json, telling_of_fits h]
  | false =>
    rw [if_neg (by simp [json])] at h
    cases output : q.output with
    | some path =>
      simp only [delivering, deliveredText, json, output, Bool.false_eq_true, if_false]
    | none =>
      simp only [delivering, deliveredText, json, output, Bool.false_eq_true, if_false, h output,
        if_true]

theorem delivering_of_not_canDeliver (h : ¬CanDeliver q r) :
    delivering q r r.shown.check text log tree = raising encodingError log tree := by
  unfold CanDeliver at h
  cases json : q.json with
  | true =>
    rw [if_pos json] at h
    rw [delivering_of_json json, telling_of_halves (Bool.eq_false_iff.2 h)]
  | false =>
    rw [if_neg (by simp [json])] at h
    cases output : q.output with
    | some path => simp [output] at h
    | none =>
      simp only [output, forall_const] at h
      simp only [delivering, json, output, Bool.false_eq_true, if_false, if_neg h]

/-- What is printed when a document was delivered. -/
theorem stdout_delivering
    (done : (delivering q r r.shown.check text log tree).exitCode = 0) :
    (delivering q r r.shown.check text log tree).stdout = deliveredText q r.shown text := by
  by_cases delivers : CanDeliver q r
  · rw [delivering_of_canDeliver delivers]
  · rw [delivering_of_not_canDeliver delivers] at done
    cases done

@[simp] theorem tree_delivering :
    (delivering q r r.shown.check text log tree).tree = tree := by
  by_cases h : CanDeliver q r
  · rw [delivering_of_canDeliver h]
  · rw [delivering_of_not_canDeliver h]
    rfl

/-! ### Documents of valid records -/

theorem render_of_valid (h : Record.loadFile loader tree q.path = (.ok r, log))
    (valid : r.shown.check.valid = true) (hc : q.config = .ok c) :
    render loader tree q =
      renderValid tree q c r r.shown.check (log ++ checkEntries q.path r.shown.check) := by
  simp [render, h, valid, hc]

/-- The bytes of a document. -/
def documentBytes (c : Config) (r : Record) (t : Time.Stamp) : List UInt8 :=
  (Document.text c r t).toUTF8.toList

/-- The ways in which a run on a valid record ends: its document is printed, written to a file,
or refused by the tree; or the file is opened and then left empty for a half of a character, or
is not opened either. -/
inductive RenderEnd (tree : Tree) (q : RenderRequest) (c : Config) (r : Record Points) :
    Result → Prop where
  | printed {log : Log} (output : q.output = none) :
      RenderEnd tree q c r
        (delivering q r r.shown.check (Document.text c r.shown q.time) log tree)
  | written {log : Log} {path : Path} {left : Tree} (output : q.output = some path)
      (fits : r.fitsDocument = true)
      (leaves : tree.write path (documentBytes c r.shown q.time) = (left, .ok ())) :
      RenderEnd tree q c r
        (delivering q r r.shown.check (Document.text c r.shown q.time) log left)
  | refused {log : Log} {path : Path} {left : Tree} {fault : WriteFault}
      (output : q.output = some path) (fits : r.fitsDocument = true)
      (leaves : tree.write path (documentBytes c r.shown q.time) = (left, .error fault)) :
      RenderEnd tree q c r (failedWrite left path fault.message log)
  | emptied {log : Log} {path : Path} {left : Tree} {s : Spot} (output : q.output = some path)
      (halves : r.fitsDocument = false) (leaves : tree.openAt path = (left, .ok s)) :
      RenderEnd tree q c r (raising encodingError log left)
  | unopened {log : Log} {path : Path} {left : Tree} {fault : PathFault}
      (output : q.output = some path) (halves : r.fitsDocument = false)
      (leaves : tree.openAt path = (left, .error fault)) :
      RenderEnd tree q c r (failedWrite left path fault.message log)

theorem renderEnd_renderValid (tree : Tree) (q : RenderRequest) (c : Config) (r : Record Points)
    (log : Log) : RenderEnd tree q c r (renderValid tree q c r r.shown.check log) := by
  unfold renderValid
  simp only [Document.render]
  split
  · next output => exact .printed output
  · next path output =>
    split
    · next fits =>
      split
      · next leaves => exact .written output fits leaves
      · next leaves => exact .refused output fits leaves
    · next halves =>
      have halves := Bool.eq_false_iff.2 halves
      split
      · next leaves => exact .emptied output halves leaves
      · next leaves => exact .unopened output halves leaves

theorem renderEnd_of_valid (h : Record.loadFile loader tree q.path = (.ok r, log))
    (valid : r.shown.check.valid = true) (hc : q.config = .ok c) :
    RenderEnd tree q c r (render loader tree q) := by
  rw [render_of_valid h valid hc]
  exact renderEnd_renderValid ..

end Command

end SoloScenario

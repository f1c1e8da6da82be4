import SoloScenario.Proofs.EnvelopeRuns
import SoloScenario.Proofs.Redirection
import SoloScenario.Proofs.TreeWrites

/-! What a run does to files. A run that fails changes none, and so does one that is
not asked to put a document at a path. One that puts a document there changes that file
alone, and gives it the bytes that the run on the same tree prints when it is asked for
the same document without a path. The exception is a run that breaks off once the file
is open: because the device does not take the whole document, or because half of a
character in it cannot be written. -/

namespace SoloScenario.Command

open Text (Points)

/-- Arguments are accepted and ask to put a document at a path. -/
def PutsAt (now : Time.Stamp) (args : List String) (q : RenderRequest) (path : Path) : Prop :=
  ∃ verbose, readInvocation now args = some (verbose, .render q) ∧ q.output = some path

/-- A run breaks off with the file at a path open and without all of the document in it. -/
inductive BreaksOff (loader : Loader) (tree : Tree) (q : RenderRequest) (path : Path) : Prop where
  | cut {r : Record Points} {log : Log} {c : Config} {fault : SystemFault}
      (loaded : Record.loadFile loader tree q.path = (.ok r, log))
      (valid : r.shown.check.valid = true) (config : q.config = .ok c)
      (fits : r.fitsDocument = true)
      (cut : (tree.write path (documentBytes c r.shown q.time)).2 = .error (.cut fault))
  | half {r : Record Points} {log : Log} {s : Spot}
      (loaded : Record.loadFile loader tree q.path = (.ok r, log))
      (valid : r.shown.check.valid = true) (halves : r.fitsDocument = false)
      (opened : (tree.openAt path).2 = .ok s)

/-- The effects of a run on files. Folders do not count. -/
structure FileEffects (loader : Loader) (now : Time.Stamp) (tree : Tree) (args : List String) :
    Prop where
  /-- A run that fails leaves all files as they were, unless it breaks off. -/
  failed : (run loader now tree args).exitCode ≠ 0 →
    (∀ s, (run loader now tree args).tree.file? s = tree.file? s) ∨
      ∃ q path, PutsAt now args q path ∧ BreaksOff loader tree q path
  /-- A run that breaks off fails, and changes no other file. -/
  broken : ∀ q path, PutsAt now args q path → BreaksOff loader tree q path →
    (run loader now tree args).exitCode = 1 ∧
      ∃ kept, tree.WritesOnly (run loader now tree args).tree path kept
  /-- None does where the device takes all that is written and no text has half of a character. -/
  unbroken : (∀ s bytes, tree.device.cuts s bytes = none) → ∀ q path, PutsAt now args q path →
    (∀ r log, Record.loadFile loader tree q.path = (.ok r, log) → r.fitsDocument = true) →
    ¬BreaksOff loader tree q path
  /-- A run that is not asked to put a document at a path leaves the tree as it was. -/
  unasked : (∀ q path, ¬ PutsAt now args q path) → (run loader now tree args).tree = tree
  /-- A run puts the document of a valid record at a path if the tree takes it there. -/
  succeeds : ∀ q path, PutsAt now args q path → ((run loader now tree args).exitCode = 0 ↔
    ∃ r log c, Record.loadFile loader tree q.path = (.ok r, log) ∧
      r.shown.check.valid = true ∧ r.fitsDocument = true ∧ q.config = .ok c ∧
      (tree.write path (documentBytes c r.shown q.time)).2 = .ok ())
  /-- It changes the file there and no other. -/
  written : ∀ q path, PutsAt now args q path → (run loader now tree args).exitCode = 0 →
    ∃ r log c, Record.loadFile loader tree q.path = (.ok r, log) ∧ q.config = .ok c ∧
      tree.WritesOnly (run loader now tree args).tree path (documentBytes c r.shown q.time)
  /-- The file then has the bytes that are printed without a path for the document, at
  any time if the arguments give one, else at the same time. The other run loads the same
  record, though it may show the members of sets in another order. -/
  printed : ∀ q path, PutsAt now args q path → (run loader now tree args).exitCode = 0 →
    ∀ loader', Record.loadFile loader' tree q.path = Record.loadFile loader tree q.path →
    ∀ now', givesTime args = true ∨ now' = now →
      (run loader' now' tree (printing args)).exitCode = 0 ∧
      (run loader' now' tree (printing args)).tree = tree ∧
      (run loader now tree args).tree.read path =
        .ok (run loader' now' tree (printing args)).stdout.toUTF8.toList

/-! ### The effects of a subcommand -/

variable {loader : Loader} {tree : Tree} {q : RenderRequest} {c : Config} {r : Record Points}
  {log : Log} {path : Path}

@[simp] theorem tree_validate (loader : Loader) (tree : Tree) (path : Path) :
    (validate loader tree path).tree = tree := by
  cases loaded : Record.loadFile loader tree path with
  | mk outcome log =>
    cases outcome with
    | error fault => rw [validate_of_error loaded, tree_failedLoad]
    | ok r => rw [validate_of_ok loaded, tree_telling]

/-- The ways in which a run ends that was asked for a document: the record is refused and
nothing is written, or the record is valid. -/
inductive RequestEnd (loader : Loader) (tree : Tree) (q : RenderRequest) (c : Config)
    (result : Result) : Prop where
  | refused (exits : result.exitCode = 1) (leaves : result.tree = tree)
  | rendered {r : Record Points} {log : Log}
      (loaded : Record.loadFile loader tree q.path = (.ok r, log))
      (valid : r.shown.check.valid = true) (ends : RenderEnd tree q c r result)

theorem requestEnd_render (loader : Loader) (tree : Tree) (hc : q.config = .ok c) :
    RequestEnd loader tree q c (render loader tree q) := by
  cases loaded : Record.loadFile loader tree q.path with
  | mk outcome log =>
    cases outcome with
    | error fault =>
      rw [render_of_error loaded]
      exact .refused (exitCode_failedLoad _) (tree_failedLoad _)
    | ok r =>
      cases valid : r.shown.check.valid with
      | false =>
        rw [render_of_invalid loaded valid]
        refine .refused ?_ tree_telling
        unfold telling
        split <;> rfl
      | true => exact .rendered loaded valid (renderEnd_of_valid loaded valid hc)

/-- A document that is not put at a path changes nothing. -/
theorem tree_render_of_none (hc : q.config = .ok c) (output : q.output = none) :
    (render loader tree q).tree = tree := by
  cases requestEnd_render loader tree hc with
  | refused _ leaves => exact leaves
  | rendered _ _ ends =>
    generalize render loader tree q = result at ends ⊢
    cases ends with
    | printed => exact tree_delivering
    | written put => cases output.symm.trans put
    | refused put => cases output.symm.trans put
    | emptied put => cases output.symm.trans put
    | unopened put => cases output.symm.trans put

/-- A document that cannot be written changes no file, even if folders were made for it, unless
the run breaks off. -/
theorem sameFiles_render_of_exitCode (hc : q.config = .ok c)
    (fails : (render loader tree q).exitCode ≠ 0) :
    tree.SameFiles (render loader tree q).tree ∨
      ∃ path, q.output = some path ∧ BreaksOff loader tree q path := by
  cases requestEnd_render loader tree hc with
  | refused _ leaves =>
    rw [leaves]
    exact .inl (.refl tree)
  | rendered loaded valid ends =>
    generalize render loader tree q = result at ends fails ⊢
    cases ends with
    | printed =>
      rw [tree_delivering]
      exact .inl (.refl tree)
    | written _ fits _ =>
      rw [delivering_of_canDeliver (canDeliver_of_fits fits)] at fails
      exact absurd rfl fails
    | refused output fits leaves =>
      have written := congrArg Prod.snd leaves
      cases Tree.writeEnd_of_write leaves with
      | refused same => exact .inl same
      | cut => exact .inr ⟨_, output, .cut loaded valid hc fits written⟩
    | emptied output halves leaves =>
      exact .inr ⟨_, output, .half loaded valid halves (congrArg Prod.snd leaves)⟩
    | unopened _ _ leaves =>
      cases Tree.openEnd_of_openAt leaves with
      | refused same => exact .inl same

/-- How a run on a valid record ends, once the record is known. -/
theorem renderEnd_render (loaded : Record.loadFile loader tree q.path = (.ok r, log))
    (valid : r.shown.check.valid = true) (hc : q.config = .ok c) :
    ∃ result, render loader tree q = result ∧ RenderEnd tree q c r result :=
  ⟨_, rfl, renderEnd_of_valid loaded valid hc⟩

/-- A document that the device cuts short is in its file as far as the device takes it. -/
theorem render_of_cut (loaded : Record.loadFile loader tree q.path = (.ok r, log))
    (valid : r.shown.check.valid = true) (hc : q.config = .ok c) (output : q.output = some path)
    (fits : r.fitsDocument = true) {fault : SystemFault}
    (cut : (tree.write path (documentBytes c r.shown q.time)).2 = .error (.cut fault)) :
    (render loader tree q).exitCode = 1 ∧
      ∃ kept, tree.WritesOnly (render loader tree q).tree path kept := by
  obtain ⟨result, same, ends⟩ := renderEnd_render loaded valid hc
  rw [same]
  cases ends with
  | printed none => cases none.symm.trans output
  | written put _ leaves =>
    obtain rfl := Option.some.inj (output.symm.trans put)
    rw [leaves] at cut
    cases cut
  | refused put _ leaves =>
    obtain rfl := Option.some.inj (output.symm.trans put)
    rw [leaves] at cut
    obtain rfl := Except.error.inj cut
    cases Tree.writeEnd_of_write leaves with
    | cut _ writes => exact ⟨rfl, _, writes⟩
  | emptied _ halves => cases halves.symm.trans fits
  | unopened _ halves => cases halves.symm.trans fits

/-- A document with half of a character leaves its file empty. -/
theorem render_of_halves (loaded : Record.loadFile loader tree q.path = (.ok r, log))
    (valid : r.shown.check.valid = true) (hc : q.config = .ok c) (output : q.output = some path)
    (halves : r.fitsDocument = false) {s : Spot} (opened : (tree.openAt path).2 = .ok s) :
    (render loader tree q).exitCode = 1 ∧ tree.WritesOnly (render loader tree q).tree path [] := by
  obtain ⟨result, same, ends⟩ := renderEnd_render loaded valid hc
  rw [same]
  cases ends with
  | printed none => cases none.symm.trans output
  | written _ fits => cases halves.symm.trans fits
  | refused _ fits => cases halves.symm.trans fits
  | emptied put _ leaves =>
    obtain rfl := Option.some.inj (output.symm.trans put)
    exact ⟨rfl, Tree.writesOnly_of_openAt leaves⟩
  | unopened put _ leaves =>
    obtain rfl := Option.some.inj (output.symm.trans put)
    rw [leaves] at opened
    cases opened

theorem render_of_breaksOff (hc : q.config = .ok c) (output : q.output = some path)
    (h : BreaksOff loader tree q path) : (render loader tree q).exitCode = 1 ∧
      ∃ kept, tree.WritesOnly (render loader tree q).tree path kept := by
  cases h with
  | cut loaded valid config fits cut =>
    obtain rfl := Except.ok.inj (hc.symm.trans config)
    exact render_of_cut loaded valid hc output fits cut
  | half loaded valid halves opened =>
    obtain ⟨fails, empties⟩ := render_of_halves loaded valid hc output halves opened
    exact ⟨fails, [], empties⟩

/-- A device that takes all that is written cuts no file short. -/
theorem not_breaksOff (takes : ∀ s bytes, tree.device.cuts s bytes = none)
    (whole : ∀ r log, Record.loadFile loader tree q.path = (.ok r, log) → r.fitsDocument = true) :
    ¬BreaksOff loader tree q path := by
  intro breaks
  cases breaks with
  | @cut r _ c _ _ _ _ _ cut =>
    generalize documentBytes c r.shown q.time = bytes at cut
    have ends : Tree.WriteEnd tree path bytes (tree.write path bytes) := Tree.writeEnd_of_write rfl
    generalize tree.write path bytes = result at cut ends
    cases ends with
    | refused => cases cut
    | written => cases cut
    | cut cuts =>
      rw [takes] at cuts
      cases cuts
  | half loaded _ halves _ => cases halves.symm.trans (whole _ _ loaded)

/-- A document that was put at a path was written there. -/
theorem write_of_exitCode (hc : q.config = .ok c) (output : q.output = some path)
    (done : (render loader tree q).exitCode = 0) :
    ∃ r log, Record.loadFile loader tree q.path = (.ok r, log) ∧ r.shown.check.valid = true ∧
      r.fitsDocument = true ∧ tree.write path (documentBytes c r.shown q.time) =
        ((render loader tree q).tree, .ok ()) := by
  cases requestEnd_render loader tree hc with
  | refused exits _ => cases exits.symm.trans done
  | rendered loaded valid ends =>
    generalize render loader tree q = result at ends done ⊢
    cases ends with
    | printed none => cases output.symm.trans none
    | written put fits leaves =>
      obtain rfl := Option.some.inj (output.symm.trans put)
      refine ⟨_, _, loaded, valid, fits, leaves.trans ?_⟩
      rw [tree_delivering]
    | refused => cases done
    | emptied => cases done
    | unopened => cases done

/-- A document is put at a path if its record is valid and the tree takes it there. -/
theorem exitCode_render_iff (hc : q.config = .ok c) (output : q.output = some path) :
    (render loader tree q).exitCode = 0 ↔
      ∃ r log, Record.loadFile loader tree q.path = (.ok r, log) ∧
        r.shown.check.valid = true ∧ r.fitsDocument = true ∧
        (tree.write path (documentBytes c r.shown q.time)).2 = .ok () := by
  constructor
  · intro done
    obtain ⟨r, log, loaded, valid, fits, leaves⟩ := write_of_exitCode hc output done
    exact ⟨r, log, loaded, valid, fits, by rw [leaves]⟩
  · rintro ⟨r, log, loaded, valid, fits, takes⟩
    obtain ⟨result, same, ends⟩ := renderEnd_render loaded valid hc
    have delivers : CanDeliver q r := canDeliver_of_fits fits
    rw [same]
    cases ends with
    | printed => rw [delivering_of_canDeliver delivers]
    | written => rw [delivering_of_canDeliver delivers]
    | refused put _ leaves =>
      obtain rfl := Option.some.inj (output.symm.trans put)
      rw [leaves] at takes
      cases takes
    | emptied _ halves => cases halves.symm.trans fits
    | unopened _ halves => cases halves.symm.trans fits

/-- The document of a valid record is printed if no path and no envelope is asked for. -/
theorem render_toPrint (loaded : Record.loadFile loader tree q.path = (.ok r, log))
    (valid : r.shown.check.valid = true) (fits : r.fitsDocument = true) (hc : q.config = .ok c) :
    (render loader tree q.toPrint).exitCode = 0 ∧
      (render loader tree q.toPrint).stdout = Document.text c r.shown q.time := by
  have delivers : CanDeliver q.toPrint r := canDeliver_of_fits fits
  obtain ⟨result, same, ends⟩ := renderEnd_render (q := q.toPrint) loaded valid hc
  rw [same]
  cases ends with
  | printed =>
    rw [delivering_of_canDeliver delivers]
    exact ⟨rfl, rfl⟩
  | written put => cases put
  | refused put => cases put
  | emptied put => cases put
  | unopened put => cases put

/-! ### The effects of a run -/

variable {now : Time.Stamp} {args : List String}

/-- A run that is not asked for a document leaves the tree as it was. -/
theorem tree_run_of_not_render
    (other : ∀ verbose q, readInvocation now args ≠ some (verbose, .render q)) :
    (run loader now tree args).tree = tree := by
  cases asked : readInvocation now args with
  | none =>
    by_cases none : args = []
    · subst none
      rfl
    · exact (onlyTells_run asked none loader tree).tree_eq
  | some given =>
    obtain ⟨verbose, i⟩ := given
    rw [run_of_readInvocation asked]
    cases i with
    | validate path => exact tree_validate loader tree path
    | render q => exact absurd asked (other verbose q)

example :
    let after := run plainLoader noon (oneFile "feature: a\nscenario: b\n")
      ["render", "r.yaml", "--output", "d/o", "--timestamp", "2024-01-01", "--tool-name", "t"]
    after.exitCode = 0 ∧ after.tree.file? ⟨false, ["d", "o"]⟩ = some
      "Feature: a\n\nScenario: b\n\n# Generated by t, 2024-01-01T00:00:00\n".toUTF8.toList := by
  decide +kernel

end SoloScenario.Command

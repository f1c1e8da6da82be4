import SoloScenario.Proofs.Acceptance
import SoloScenario.Record.File

/-! How a record file is read, each end stated once: it is not there, it is not named as marked-up
text, the system bars the way, or its bytes are read for a value. What is told of a file from then
on goes by these ends. -/

namespace SoloScenario

open Text (Points)

variable {loader : Loader} {tree : Tree} {path : Path} {fault : LoadFault} {bytes : List UInt8}

/-- The ways in which reading the file at a path ends. -/
inductive ReadEnd (loader : Loader) (tree : Tree) (path : Path)
    (result : Except LoadFault (Value Points)) : Prop where
  | missing (nowhere : tree.hasPath path = .ok false) (ends : result = .error (.notFound path))
  | misnamed (there : tree.hasPath path = .ok true) (other : path.suffix ∉ recordSuffixes)
      (ends : result = .error (.suffix path.suffix))
  | barred (fault : PathFault) (asked : fault.path = path) (ends : result = .error (.system fault))
  | held (bytes : List UInt8) (there : tree.hasPath path = .ok true)
      (named : path.suffix ∈ recordSuffixes) (read : tree.readFile path = .ok bytes)
      (ends : result = valueOfBytes loader path bytes)

/-- What the system reports is the path that was asked for. -/
theorem path_of_read {d : PathFault} (h : tree.read path = .error d) : d.path = path := by
  unfold Tree.read at h
  split at h
  · exact congrArg PathFault.path (Except.error.inj h).symm
  split at h
  · cases h
  · exact congrArg PathFault.path (Except.error.inj h).symm

theorem path_of_hasPath {d : PathFault} (h : tree.hasPath path = .error d) : d.path = path := by
  unfold Tree.hasPath at h
  split at h
  · cases h
  split at h
  · cases h
  split at h
  · cases h
  · exact congrArg PathFault.path (Except.error.inj h).symm

theorem path_of_readFile {d : PathFault} (h : tree.readFile path = .error d) : d.path = path := by
  unfold Tree.readFile at h
  cases hf : tree.find path with
  | error fault =>
    rw [hf] at h
    exact congrArg PathFault.path (Except.error.inj h).symm
  | ok s =>
    rw [hf] at h
    simp only [mapError_ok, ok_bind] at h
    split at h
    · exact congrArg PathFault.path (Except.error.inj h).symm
    · exact path_of_read h

/-- The bytes of a file that is there and is named as marked-up text are read for its value. -/
theorem value_of_readFile (there : tree.hasPath path = .ok true)
    (named : path.suffix ∈ recordSuffixes) (read : tree.readFile path = .ok bytes) :
    tree.value loader path = valueOfBytes loader path bytes := by
  simp [Tree.value, there, named, read]

theorem readEnd_value (loader : Loader) (tree : Tree) (path : Path) :
    ReadEnd loader tree path (tree.value loader path) := by
  cases hp : tree.hasPath path with
  | error d => exact .barred d (path_of_hasPath hp) (by simp [Tree.value, hp])
  | ok there =>
    cases there with
    | false => exact .missing hp (by simp [Tree.value, hp])
    | true =>
      by_cases named : path.suffix ∈ recordSuffixes
      · cases hr : tree.readFile path with
        | error d => exact .barred d (path_of_readFile hr) (by simp [Tree.value, hp, named, hr])
        | ok bytes => exact .held bytes hp named hr (value_of_readFile hp named hr)
      · exact .misnamed hp named (by simp [Tree.value, hp, named])

/-! ### What bytes are read for -/

/-- The ways in which the bytes of a file are read: for a value that memory holds and that is
not null, for nothing, or not at all. -/
inductive BytesEnd (loader : Loader) (path : Path) (bytes : List UInt8) :
    Except LoadFault (Value Points) → Prop where
  | value {v : Value Points} (fits : v.fitsMemory = true) : BytesEnd loader path bytes (.ok v)
  | empty : BytesEnd loader path bytes (.error (.empty path))
  | malformed (diagnosis : String) : BytesEnd loader path bytes (.error (.malformed path diagnosis))
  | raised {e : Raised} (ends : loader bytes = .error (.raised e)) :
      BytesEnd loader path bytes (.error (.raised e))

theorem bytesEnd_valueOfBytes (loader : Loader) (path : Path) (bytes : List UInt8) :
    BytesEnd loader path bytes (valueOfBytes loader path bytes) := by
  unfold valueOfBytes
  split
  · exact .empty
  · next v _ _ => exact .value v.2
  · next diagnosis _ => exact .malformed diagnosis
  · next ends => exact .raised ends

theorem fitsMemory_of_value {v : Value Points} (h : tree.value loader path = .ok v) :
    v.fitsMemory = true := by
  cases readEnd_value loader tree path with
  | missing _ ends => cases ends.symm.trans h
  | misnamed _ _ ends => cases ends.symm.trans h
  | barred _ _ ends => cases ends.symm.trans h
  | held bytes _ _ _ ends =>
    have read := bytesEnd_valueOfBytes loader path bytes
    rw [← ends, h] at read
    cases read with
    | value fits => exact fits

/-! ### Records from files -/

/-- A record cannot be loaded because of the file, or because its value is refused. -/
theorem value_of_loadFile_error (h : (Record.loadFile loader tree path).1 = .error fault) :
    tree.value loader path = .error fault ∨ ∃ v refusal, tree.value loader path = .ok v ∧
      Record.ofValue? v = .error refusal ∧ fault = .refused path.text refusal := by
  cases hv : tree.value loader path with
  | error d =>
    rw [Record.loadFile, hv] at h
    exact .inl (congrArg _ (Except.error.inj h))
  | ok v =>
    simp only [Record.loadFile, hv, Record.load_fst] at h
    obtain ⟨refusal, refused, rfl⟩ := mapError_eq_error.1 h
    exact .inr ⟨v, refusal, rfl, refused, rfl⟩

theorem value_of_loadFile_ok {r : Record Points}
    (h : (Record.loadFile loader tree path).1 = .ok r) :
    ∃ v, tree.value loader path = .ok v ∧ Record.ofValue? v = .ok r := by
  cases hv : tree.value loader path with
  | error d =>
    rw [Record.loadFile, hv] at h
    cases h
  | ok v =>
    simp only [Record.loadFile, hv, Record.load_fst] at h
    exact ⟨v, rfl, mapError_eq_ok.1 h⟩

/-- A list under a key of a value that memory holds is no longer than memory holds. -/
theorem Record.Lists.length_le {entries : Record.Entries Points} {key : String}
    {members : List (Value Points)} (h : Record.Lists entries key members)
    (fits : (Value.map entries).fitsMemory = true) : members.length ≤ Value.maxMembers := by
  obtain ⟨rfl, -⟩ | there := h
  · exact Nat.zero_le _
  · rw [Value.fitsMemory, Bool.and_eq_true] at fits
    have list := Value.fitsMemory_of_field? there fits.2
    rw [Value.fitsMemory, Bool.and_eq_true] at list
    exact of_decide_eq_true list.1

/-- The lists of a loaded record are no longer than memory holds. -/
theorem length_le_of_loadFile {r : Record Points}
    (h : (Record.loadFile loader tree path).1 = .ok r) :
    r.tags.length ≤ Value.maxMembers ∧ r.steps.length ≤ Value.maxMembers := by
  obtain ⟨v, held, loaded⟩ := value_of_loadFile_ok h
  obtain ⟨entries, p, rfl, gives, rfl⟩ := Record.exists_parts_of_ofValue? loaded
  have fits := fitsMemory_of_value held
  obtain ⟨members, listed, each⟩ := gives.steps
  have tags := gives.tags.length_le fits
  have steps := listed.length_le fits
  rw [each.length_eq] at steps
  exact ⟨by simpa [Record.Parts.record] using tags, by simpa [Record.Parts.record] using steps⟩

end SoloScenario

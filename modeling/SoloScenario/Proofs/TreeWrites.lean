import SoloScenario.Files.Tree
import SoloScenario.Proofs.Steps

/-! What writing a file does to a tree. Folders may be made on the way, but no file
changes unless the file at the path is opened. From then on it has the bytes that the
device took of those that were written, all of them if the write succeeds, and every
other file has those that it had. -/

namespace SoloScenario.Tree

variable {t t' : Tree} {p : Path} {s : Spot} {bytes : List UInt8}

/-- Two trees have the same files on the same device. Folders do not count. -/
structure SameFiles (t t' : Tree) : Prop where
  files : t'.files = t.files
  device : t'.device = t.device

theorem SameFiles.refl (t : Tree) : SameFiles t t := ⟨rfl, rfl⟩

theorem SameFiles.trans {t'' : Tree} (h : SameFiles t t') (h' : SameFiles t' t'') :
    SameFiles t t'' :=
  ⟨h'.files.trans h.files, h'.device.trans h.device⟩

theorem SameFiles.file? (h : SameFiles t t') (s : Spot) : t'.file? s = t.file? s := by
  rw [Tree.file?, Tree.file?, h.files]

/-! ### Making folders -/

theorem sameFiles_makeOne (h : t.makeOne p = .ok t') : SameFiles t t' := by
  unfold makeOne at h
  obtain ⟨s, -, h⟩ := bind_eq_ok.1 h
  split at h
  · cases h
  · split at h
    · cases h
    · obtain rfl := Except.ok.inj h
      exact ⟨rfl, rfl⟩

theorem sameFiles_makeUnlessThere (h : t.makeUnlessThere p = .ok t') : SameFiles t t' := by
  unfold makeUnlessThere at h
  split at h
  · next made =>
    obtain rfl := Except.ok.inj h
    exact sameFiles_makeOne made
  · split at h
    · obtain rfl := Except.ok.inj h
      exact .refl t
    · cases h

/-- Making folders changes no file, whether or not it comes to its end. -/
theorem sameFiles_makeFolders (fuel : Nat) (t : Tree) (p : Path) :
    SameFiles t (makeFolders fuel t p).1 := by
  induction fuel generalizing t p with
  | zero =>
    unfold makeFolders
    split
    · next made => exact sameFiles_makeUnlessThere made
    · exact .refl t
  | succ fuel ih =>
    unfold makeFolders
    split
    · next made => exact sameFiles_makeUnlessThere made
    · -- the folder around it is made first, and then the folder is tried again
      have around := ih t p.parent
      split
      · next left => rwa [left] at around
      · next left =>
        rw [left] at around
        split
        · next made => exact around.trans (sameFiles_makeUnlessThere made)
        · exact around
    · exact .refl t

/-! ### Paths after a file is put -/

theorem put_put (t : Tree) (s : Spot) (first bytes : List UInt8) :
    (t.put s first).put s bytes = t.put s bytes := by
  simp [put, List.filter_filter]

theorem isFolder_put {u : Spot} (h : t.isFolder u = true) : (t.put s bytes).isFolder u = true := by
  simp only [isFolder, Bool.or_eq_true, List.any_eq_true] at h ⊢
  rcases h with h | ⟨f, hf, within⟩
  · exact .inl h
  · right
    by_cases same : f.1 = s
    · exact ⟨(s, bytes), List.mem_cons_self, same ▸ within⟩
    · exact ⟨f, List.mem_cons_of_mem _ (List.mem_filter.2 ⟨hf, by simpa using same⟩), within⟩

theorem enter_put {u v : Spot} {part : String} (h : t.enter u part = .ok v) :
    (t.put s bytes).enter u part = .ok v := by
  unfold enter at h ⊢
  split at h
  · next folder => rwa [if_pos (isFolder_put folder)]
  · split at h <;> cases h

theorem follow_put {parts : List String} {u v : Spot} (h : t.follow parts u = .ok v) :
    (t.put s bytes).follow parts u = .ok v := by
  induction parts generalizing u with
  | nil => exact h
  | cons part parts ih =>
    obtain ⟨w, entered, h⟩ := bind_eq_ok.1 h
    exact bind_eq_ok.2 ⟨w, enter_put entered, ih h⟩

/-- A path still leads to its place, since what it leads through are folders. -/
theorem locate_put {v : Spot} (h : t.locate p = .ok v) : (t.put s bytes).locate p = .ok v := by
  unfold locate at h ⊢
  split at h
  · cases h
  · next short =>
    rw [if_neg short]
    exact follow_put h

theorem read_put (h : t.locate p = .ok s) : (t.put s bytes).read p = .ok bytes := by
  have there : (t.put s bytes).holds s = true := by
    rw [holds, file?_put]
    rfl
  have found : (t.put s bytes).find p = .ok s := by
    simp only [find, locate_put h, there, if_true, ok_bind, pure_eq_ok]
  simp only [read, found, file?_put]

/-- From one tree to another nothing changed but the file at a path, which has these bytes. -/
structure WritesOnly (t t' : Tree) (p : Path) (bytes : List UInt8) : Prop where
  read : t'.read p = .ok bytes
  others : ∃ s, t'.locate p = .ok s ∧ ∀ u, u ≠ s → t'.file? u = t.file? u

theorem writesOnly_put {around : Tree} (same : SameFiles t around)
    (located : around.locate p = .ok s) : WritesOnly t (around.put s bytes) p bytes where
  read := read_put located
  others := ⟨s, locate_put located, fun u other => by
    rw [file?_put_of_ne around bytes other, same.file?]⟩

/-! ### Opening and writing -/

theorem openFile_eq_ok (h : t.openFile p = .ok (t', s)) :
    t.locate p = .ok s ∧ t' = t.put s [] := by
  unfold openFile at h
  split at h
  · cases h
  · next located =>
    split at h
    · cases h
    · split at h
      · cases h
      · obtain ⟨rfl, rfl⟩ := Prod.mk.inj (Except.ok.inj h)
        exact ⟨located, rfl⟩

/-- The ways in which a file is opened: it is not, and no file changes, or it is emptied. -/
inductive OpenEnd (t : Tree) (p : Path) : Tree × Except PathFault Spot → Prop where
  | refused {around : Tree} {fault : PathFault} (same : SameFiles t around) :
      OpenEnd t p (around, .error fault)
  | opened {around : Tree} {s : Spot} (same : SameFiles t around)
      (located : around.locate p = .ok s) : OpenEnd t p (around.put s [], .ok s)

theorem openEnd_of_openAt {result : Tree × Except PathFault Spot} (h : t.openAt p = result) :
    OpenEnd t p result := by
  have made := sameFiles_makeFolders p.parts.length t p.parent
  subst h
  unfold openAt
  split
  · next left =>
    rw [left] at made
    exact .refused made
  · next left =>
    rw [left] at made
    split
    · next opened =>
      obtain ⟨located, rfl⟩ := openFile_eq_ok opened
      exact .opened made located
    · exact .refused made

theorem writesOnly_of_openAt (h : t.openAt p = (t', .ok s)) : WritesOnly t t' p [] := by
  cases openEnd_of_openAt h with
  | opened same located => exact writesOnly_put same located

/-- The ways in which a file is written: it is not opened, or it is and the device takes all
bytes, or it is and the device keeps what it can. -/
inductive WriteEnd (t : Tree) (p : Path) (bytes : List UInt8) :
    Tree × Except WriteFault Unit → Prop where
  | refused {around : Tree} {fault : PathFault} (same : SameFiles t around) :
      WriteEnd t p bytes (around, .error (.refused fault))
  | written {t' : Tree} (writes : WritesOnly t t' p bytes) : WriteEnd t p bytes (t', .ok ())
  | cut {t' : Tree} {s : Spot} {kept : List UInt8} {fault : SystemFault}
      (cuts : t.device.cuts s bytes = some (kept, fault)) (writes : WritesOnly t t' p kept) :
      WriteEnd t p bytes (t', .error (.cut fault))

theorem writeEnd_of_write {result : Tree × Except WriteFault Unit}
    (h : t.write p bytes = result) : WriteEnd t p bytes result := by
  subst h
  unfold write
  split
  · next opens =>
    cases openEnd_of_openAt opens with
    | refused same => exact .refused same
  · next opens =>
    cases openEnd_of_openAt opens with
    | opened same located =>
      rw [device_put, same.device]
      split
      · rw [put_put]
        exact .written (writesOnly_put same located)
      · next cuts =>
        rw [put_put]
        exact .cut cuts (writesOnly_put same located)

theorem write_of_openAt {fault : PathFault} (h : t.openAt p = (t', .error fault)) :
    t.write p bytes = (t', .error (.refused fault)) := by
  rw [write, h]

theorem writesOnly_of_write (h : t.write p bytes = (t', .ok ())) : WritesOnly t t' p bytes := by
  cases writeEnd_of_write h with
  | written writes => exact writes

end SoloScenario.Tree

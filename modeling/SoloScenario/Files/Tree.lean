import SoloScenario.Files.Path
import SoloScenario.Text.Quoted

/-! A tree of files and folders. Paths are followed part by part from the
current folder or from the root: every part but the last has to be a folder, and
two dots lead back. Files hold bytes; writing one leaves all others alone. The device
below may refuse what files and folders would allow, and may cut a file short. -/

namespace SoloScenario

/-- A place in a tree: the parts from the root or from the current folder, in order,
without the way back but at the front. -/
structure Spot where
  absolute : Bool
  parts : List String
  deriving DecidableEq, Repr

inductive SystemFault where
  | missing | exists | notFolder | isFolder | nameTooLong
  /-- Any other fault: of permissions, of space, of the device. -/
  | other (number : Nat) (text : String)
  deriving DecidableEq, Repr

/-- What a device is asked for at a place. -/
inductive Access where
  /-- To find what lies within a folder. -/
  | enter
  | read
  | makeFolder
  | write
  deriving DecidableEq, Repr

/-- What a device does beyond what files and folders tell. -/
structure Device where
  /-- The fault with which it refuses an access. -/
  refuses : Access → Spot → Option SystemFault := fun _ _ => none
  /-- What it keeps of the bytes that are written to a file, if it ends in a fault. -/
  cuts : Spot → List UInt8 → Option (List UInt8 × SystemFault) := fun _ _ => none

/-- Files with their bytes, and folders. -/
structure Tree where
  files : List (Spot × List UInt8)
  folders : List Spot
  device : Device := {}

def SystemFault.number : SystemFault → Nat
  | .missing => 2
  | .exists => 17
  | .notFolder => 20
  | .isFolder => 21
  | .nameTooLong => 36
  | .other number _ => number

def SystemFault.text : SystemFault → String
  | .missing => "No such file or directory"
  | .exists => "File exists"
  | .notFolder => "Not a directory"
  | .isFolder => "Is a directory"
  | .nameTooLong => "File name too long"
  | .other _ text => text

def SystemFault.message (f : SystemFault) : String := s!"[Errno {f.number}] {f.text}"

/-- A refused operation on a path. -/
structure PathFault where
  fault : SystemFault
  path : Path
  deriving DecidableEq, Repr

def PathFault.message (f : PathFault) : String :=
  s!"{f.fault.message}: {Text.quoted f.path.text}"

/-- A reason for which a file is not written. -/
inductive WriteFault where
  /-- It is not opened. -/
  | refused (fault : PathFault)
  /-- It is opened and emptied, but does not take all that is written. -/
  | cut (fault : SystemFault)
  deriving DecidableEq, Repr

def WriteFault.message : WriteFault → String
  | .refused fault => fault.message
  | .cut fault => fault.message

namespace Spot

/-- The place one part further; two dots lead back, but not beyond the root. -/
def enter (s : Spot) (part : String) : Spot :=
  if part ≠ ".." then { s with parts := s.parts ++ [part] }
  else match s.parts.getLast? with
    | none => if s.absolute then s else { s with parts := [".."] }
    | some ".." => { s with parts := s.parts ++ [".."] }
    | some _ => { s with parts := s.parts.dropLast }

/-- Whether a place is at or above the start of all paths. -/
def isTop (s : Spot) : Bool := s.parts.all (· = "..")

def isWithin (s folder : Spot) : Bool :=
  s.absolute = folder.absolute && folder.parts.isPrefixOf s.parts && s.parts ≠ folder.parts

def text (s : Spot) : String := (if s.absolute then "/" else "") ++ "/".intercalate s.parts

end Spot

namespace Tree

def file? (t : Tree) (s : Spot) : Option (List UInt8) := (t.files.find? (·.1 = s)).map (·.2)

/-- Whether there is a folder at a place. A folder holds whatever lies within it. -/
def isFolder (t : Tree) (s : Spot) : Bool :=
  s.isTop || t.folders.contains s || t.folders.any (·.isWithin s) ||
    t.files.any fun (f, _) => f.isWithin s

def holds (t : Tree) (s : Spot) : Bool := (t.file? s).isSome || t.isFolder s

/-- The most bytes that one part of a path may have. -/
def maxPart : Nat := 255

/-- The most bytes that a path may have, less one for its end. -/
def maxPath : Nat := 4095

/-- A folder to start a path from. -/
def base (p : Path) : Spot := ⟨p.root ≠ "", []⟩

/-- The place one part further. -/
def enter (t : Tree) (s : Spot) (part : String) : Except SystemFault Spot :=
  if t.isFolder s then
    match t.device.refuses .enter s with
    | some fault => .error fault
    | none => if maxPart < part.utf8ByteSize then .error .nameTooLong else .ok (s.enter part)
  else if (t.file? s).isSome then .error .notFolder
  else .error .missing

def follow (t : Tree) (parts : List String) (s : Spot) : Except SystemFault Spot :=
  parts.foldlM t.enter s

def locate (t : Tree) (p : Path) : Except SystemFault Spot :=
  if maxPath < p.text.utf8ByteSize then .error .nameTooLong else t.follow p.parts (base p)

/-- The place that a path leads to if all folders on its way are there. -/
def spot (p : Path) : Spot := p.parts.foldl Spot.enter (base p)

def ofEntries (files : List (Path × List UInt8)) (folders : List Path) : Tree :=
  { files := files.map fun (p, bytes) => (spot p, bytes), folders := folders.map spot }

/-- The files that are new or have other bytes than in a tree before. -/
def changedFrom (t before : Tree) : List (Spot × List UInt8) :=
  t.files.filter fun (s, bytes) => before.file? s ≠ some bytes

/-! ### Reading -/

def find (t : Tree) (p : Path) : Except SystemFault Spot := do
  let s ← t.locate p
  if t.holds s then return s else throw .missing

/-- Faults that only say that there is nothing: a missing part, a part that is no folder, and
two more that the system has for it. -/
def saysNothingThere (f : SystemFault) : Bool := [2, 20, 9, 40].contains f.number

/-- Whether there is anything at a path. A path with a null character leads nowhere. -/
def hasPath (t : Tree) (p : Path) : Except PathFault Bool :=
  if p.text.toList.contains '\x00' then .ok false
  else match t.find p with
    | .ok _ => .ok true
    | .error fault => if saysNothingThere fault then .ok false else .error ⟨fault, p⟩

def read (t : Tree) (p : Path) : Except PathFault (List UInt8) :=
  match t.find p with
  | .error fault => .error ⟨fault, p⟩
  | .ok s =>
    match t.file? s with
    | some bytes => .ok bytes
    | none => .error ⟨.isFolder, p⟩

def readFile (t : Tree) (p : Path) : Except PathFault (List UInt8) := do
  let s ← (t.find p).mapError fun fault => ⟨fault, p⟩
  match t.device.refuses .read s with
  | some fault => throw ⟨fault, p⟩
  | none => t.read p

/-! ### Writing -/

def put (t : Tree) (s : Spot) (bytes : List UInt8) : Tree :=
  { t with files := (s, bytes) :: t.files.filter (·.1 ≠ s) }

/-- Makes the folder at a path, within one that is there. -/
def makeOne (t : Tree) (p : Path) : Except SystemFault Tree := do
  let s ← t.locate p
  if t.holds s then throw .exists
  else match t.device.refuses .makeFolder s with
    | some fault => throw fault
    | none => return { t with folders := s :: t.folders }

def isFolderAt (t : Tree) (p : Path) : Bool :=
  match t.find p with
  | .ok s => t.isFolder s
  | .error _ => false

/-- Makes the folder at a path unless it is there. What went wrong if the folder
around it is missing is left to be mended. -/
def makeUnlessThere (t : Tree) (p : Path) : Except SystemFault Tree :=
  match t.makeOne p with
  | .ok t => .ok t
  | .error fault => if fault ≠ .missing && t.isFolderAt p then .ok t else .error fault

/-- Makes the folder at a path and those around it, unless they are there, for
paths of at most so many parts. The folders that could be made before a fault
are kept. -/
def makeFolders : Nat → Tree → Path → Tree × Except PathFault Unit
  | 0, t, p =>
    match t.makeUnlessThere p with
    | .ok t => (t, .ok ())
    | .error fault => (t, .error ⟨fault, p⟩)
  | fuel + 1, t, p =>
    match t.makeUnlessThere p with
    | .ok t => (t, .ok ())
    | .error .missing =>
      match makeFolders fuel t p.parent with
      | (t, .error fault) => (t, .error fault)
      | (t, .ok ()) =>
        match t.makeUnlessThere p with
        | .ok t => (t, .ok ())
        | .error fault => (t, .error ⟨fault, p⟩)
    | .error fault => (t, .error ⟨fault, p⟩)

/-- Opens the file at a path for writing, within a folder that is there. This empties it. -/
def openFile (t : Tree) (p : Path) : Except PathFault (Tree × Spot) :=
  match t.locate p with
  | .error fault => .error ⟨fault, p⟩
  | .ok s =>
    if t.isFolder s then .error ⟨.isFolder, p⟩
    else match t.device.refuses .write s with
      | some fault => .error ⟨fault, p⟩
      | none => .ok (t.put s [], s)

def openAt (t : Tree) (p : Path) : Tree × Except PathFault Spot :=
  match makeFolders p.parts.length t p.parent with
  | (t, .error fault) => (t, .error fault)
  | (t, .ok ()) =>
    match t.openFile p with
    | .ok (t, s) => (t, .ok s)
    | .error fault => (t, .error fault)

/-- Makes the folders around a path and writes the file there. -/
def write (t : Tree) (p : Path) (bytes : List UInt8) : Tree × Except WriteFault Unit :=
  match t.openAt p with
  | (t, .error fault) => (t, .error (.refused fault))
  | (t, .ok s) =>
    match t.device.cuts s bytes with
    | none => (t.put s bytes, .ok ())
    | some (kept, fault) => (t.put s kept, .error (.cut fault))

theorem device_put (t : Tree) (s : Spot) (bytes : List UInt8) :
    (t.put s bytes).device = t.device := rfl

theorem file?_put (t : Tree) (s : Spot) (bytes : List UInt8) :
    (t.put s bytes).file? s = some bytes := by
  simp [put, file?]

theorem file?_put_of_ne (t : Tree) {s u : Spot} (bytes : List UInt8) (h : u ≠ s) :
    (t.put s bytes).file? u = t.file? u := by
  have keep : (t.files.filter (·.1 ≠ s)).find? (·.1 = u) = t.files.find? (·.1 = u) := by
    rw [List.find?_filter]
    congr 1
    funext f
    by_cases hf : f.1 = u <;> simp [hf, h]
  simp only [put, file?, List.find?_cons, decide_eq_false (Ne.symm h), keep]

end Tree

end SoloScenario

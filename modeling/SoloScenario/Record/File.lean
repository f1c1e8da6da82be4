import SoloScenario.Files.Tree
import SoloScenario.Markup.Loader
import SoloScenario.Record.Load

/-! Records from files. The file has to be there, to be named as marked-up text,
to be readable, and to hold one value, to its loader, that is a record. -/

namespace SoloScenario

open Text

/-- A reason for which a file holds no record. -/
inductive LoadFault where
  | notFound (path : Path)
  | suffix (suffix : String)
  | system (fault : PathFault)
  | malformed (path : Path) (diagnosis : String)
  | raised (e : Raised)
  | empty (path : Path)
  | refused (source : String) (refusal : Refusal)
  deriving DecidableEq, Repr

def LoadFault.message : LoadFault → String
  | .notFound path => s!"Record file not found: {path.text}"
  | .suffix text => s!"Expected .yaml or .yml file, got: {text}"
  | .system fault => fault.message
  | .malformed path diagnosis => s!"Malformed YAML in {path.text}: {diagnosis}"
  | .raised e => e.message
  | .empty path => s!"Empty record file: {path.text}"
  | .refused source refusal => refusal.message source

def recordSuffixes : List String := [".yaml", ".yml"]

/-- The value that the bytes of the file at a path spell. -/
def valueOfBytes (loader : Loader) (path : Path) (bytes : List UInt8) :
    Except LoadFault (Value Points) :=
  match loader bytes with
  | .ok ⟨.null, _⟩ => .error (.empty path)
  | .ok v => .ok v
  | .error (.malformed diagnosis) => .error (.malformed path diagnosis)
  | .error (.raised e) => .error (.raised e)

def Tree.value (loader : Loader) (t : Tree) (path : Path) : Except LoadFault (Value Points) := do
  if !(← (t.hasPath path).mapError .system) then throw (.notFound path)
  if path.suffix ∉ recordSuffixes then throw (.suffix path.suffix)
  valueOfBytes loader path (← (t.readFile path).mapError .system)

/-- Loads the record in the file at a path, and logs it. -/
def Record.loadFile (loader : Loader) (t : Tree) (path : Path) :
    Except LoadFault (Record Points) × Log :=
  match t.value loader path with
  | .error fault => (.error fault, [])
  | .ok v =>
    let (r, log) := Record.load path.text v
    (r.mapError (.refused path.text), log)

end SoloScenario

import SoloScenario.Markup.Load
import SoloScenario.Text.Lines
import SoloScenario.Text.Utf8

/-! Loaders of record files. A loader gives the value that the bytes of a file spell, or
tells why they spell none; whoever runs a command says which one it is, and so in which order
sets hold their members. The loader of this library decodes the bytes as UTF-8 and reads the
marked-up text that they are. -/

namespace SoloScenario

open Text

/-- An exception that a loader ends in. -/
structure Raised where
  kind : String
  message : String
  /-- Whether it is an exception of a value or of the system, which the commands report. -/
  reported : Bool
  deriving DecidableEq, Repr

/-- A reason for which the bytes of a file spell no value. -/
inductive LoaderFault where
  | malformed (diagnosis : String)
  | raised (e : Raised)
  deriving DecidableEq, Repr

/-- A loader. What it gives is a value that memory could hold. -/
abbrev Loader := List UInt8 → Except LoaderFault { v : Value Points // v.fitsMemory = true }

namespace Markup

def Fault.kind : Fault → String
  | .characterSize => "OverflowError"
  | .noNumber => "IndexError"
  | .notTruth _ => "KeyError"
  | .notDate => "AttributeError"
  | .collectionForDate => "TypeError"
  | _ => "ValueError"

/-- What is said of a text that offends the grammar. -/
def diagnosis : String := "not well-formed"

/-- A fault as a loader tells it. -/
def Fault.told : Fault → LoaderFault
  | .malformed => .malformed diagnosis
  | f => .raised ⟨f.kind, f.message, f.kind = "ValueError"⟩

/-- The exception of a value that memory cannot hold. -/
def tooLarge : Raised := ⟨"MemoryError", "", false⟩

/-- The loader of this library, for an order in which sets keep their members. -/
def loader (order : List (Value Points) → List (Value Points)) : Loader := fun bytes =>
  match Utf8.decode bytes with
  | .ok cs =>
    match load order (unifyLineEnds cs) with
    | .ok v => if fits : v.fitsMemory = true then .ok ⟨v, fits⟩ else .error (.raised tooLarge)
    | .error fault => .error fault.told
  | .error fault => .error (.raised ⟨"UnicodeDecodeError", fault.message, true⟩)

end Markup

end SoloScenario

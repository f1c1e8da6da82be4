import SoloScenario.Number.Binary64
import SoloScenario.Text.Points
import SoloScenario.Time.Stamp

/-! Loaded values: what a record file holds once it is read. A mapping keeps its
entries in the order in which their keys first occur; its keys may be of any kind
that does not itself hold entries that could change. Texts are strings unless another
kind of text is named: a record file may spell halves of characters. -/

namespace SoloScenario

/-- The kinds of containers that can hold themselves. -/
inductive Shape where
  | list | map
  deriving DecidableEq, Repr

/-- A loaded value. -/
inductive Value (T : Type := String) where
  | null
  | bool (b : Bool)
  | int (n : Int)
  | float (x : Binary64)
  | text (s : T)
  | bytes (bs : List UInt8)
  | date (d : Time.Date)
  | stamp (t : Time.Stamp)
  | list (items : List (Value T))
  | tuple (items : List (Value T))
  | set (items : List (Value T))
  | map (entries : List (Value T × Value T))
  /-- A container met again inside itself. -/
  | again (shape : Shape)
  deriving Repr, Inhabited

namespace Value

open Text

variable {T : Type}

/-- The short name of a value's kind. -/
def kind : Value T → String
  | .null => "NoneType"
  | .bool _ => "bool"
  | .int _ => "int"
  | .float _ => "float"
  | .text _ => "str"
  | .bytes _ => "bytes"
  | .date _ => "date"
  | .stamp _ => "datetime"
  | .list _ | .again .list => "list"
  | .tuple _ => "tuple"
  | .set _ => "set"
  | .map _ | .again .map => "dict"

/-- The name of a value's kind with the library that it belongs to, if any. -/
def qualifiedKind : Value T → String
  | v@(.date _) | v@(.stamp _) => "datetime." ++ v.kind
  | v => v.kind

def isNull : Value T → Bool
  | .null => true
  | _ => false

/-- Values that count as nothing where a list or a text is wanted. -/
def isEmpty [DecidableEq T] [TextLike T] : Value T → Bool
  | .null | .bool false | .int 0 => true
  | .text s => s = TextLike.ofString ""
  | .float x => x.isZero
  | .bytes bs => bs.isEmpty
  | .list items | .tuple items | .set items => items.isEmpty
  | .map entries => entries.isEmpty
  | _ => false

/-- Lists and mappings, which are never taken for text. -/
def isCollection : Value T → Bool
  | .list _ | .map _ | .again .list | .again .map => true
  | _ => false

/-- The value as a number: truth values count as one and zero. -/
def number? : Value T → Option (Int ⊕ Binary64)
  | .bool b => some (.inl (if b then 1 else 0))
  | .int n => some (.inl n)
  | .float x => some (.inr x)
  | _ => none

/-- Equality of numbers of either sort. -/
def sameNumber : Int ⊕ Binary64 → Int ⊕ Binary64 → Bool
  | .inl m, .inl n => m = n
  | .inl n, .inr x | .inr x, .inl n => x.toInt? = some n
  | .inr x, .inr y => x.same y

/-- Stamps are equal if they are the same moment; one in a zone equals none without. -/
def sameStamp (s t : Time.Stamp) : Bool :=
  s.zone.isSome = t.zone.isSome && s.instant = t.instant

mutual

/-- Whether two keys are one. -/
def sameKey [DecidableEq T] : Value T → Value T → Bool
  | .text s, .text t => s = t
  | .null, .null => true
  | .bytes a, .bytes b => a = b
  | .date a, .date b => a = b
  | .stamp a, .stamp b => sameStamp a b
  | .tuple xs, .tuple ys => sameKeys xs ys
  | v, w =>
    match v.number?, w.number? with
    | some x, some y => sameNumber x y
    | _, _ => false

def sameKeys [DecidableEq T] : List (Value T) → List (Value T) → Bool
  | [], [] => true
  | x :: xs, y :: ys => sameKey x y && sameKeys xs ys
  | _, _ => false

end

theorem sameKey_text [DecidableEq T] (s t : T) :
    sameKey (.text s) (.text t) = decide (s = t) := by
  rw [sameKey]

mutual

/-- Whether a value can be a key: no part of it holds entries that could change. -/
def canBeKey : Value T → Bool
  | .list _ | .set _ | .map _ | .again _ => false
  | .tuple items => allKeys items
  | _ => true

def allKeys : List (Value T) → Bool
  | [] => true
  | v :: rest => canBeKey v && allKeys rest

end

/-- The most members that a container may have. -/
def maxMembers : Nat := Nat.pow 2 63 - 1

mutual

/-- Whether memory could hold a value: no container in it has too many members. -/
def fitsMemory : Value T → Bool
  | .list items | .tuple items | .set items => items.length ≤ maxMembers && allFitMemory items
  | .map entries => entries.length ≤ maxMembers && entriesFitMemory entries
  | _ => true

def allFitMemory : List (Value T) → Bool
  | [] => true
  | v :: rest => fitsMemory v && allFitMemory rest

def entriesFitMemory : List (Value T × Value T) → Bool
  | [] => true
  | (k, v) :: rest => fitsMemory k && fitsMemory v && entriesFitMemory rest

end

/-- Sets the value of a key: in place if it is there, else at the end. -/
def put [DecidableEq T] (entries : List (Value T × Value T)) (key value : Value T) :
    List (Value T × Value T) :=
  match entries with
  | [] => [(key, value)]
  | (k, v) :: rest => if sameKey k key then (k, value) :: rest else (k, v) :: put rest key value

/-- The mapping that results from setting these entries one after the other. -/
def ofEntries [DecidableEq T] (entries : List (Value T × Value T)) : Value T :=
  .map (entries.foldl (fun m (k, v) => put m k v) [])

/-- The members without those equal to an earlier one, in the order that a set keeps them in. -/
def ofMembers [DecidableEq T] (order : List (Value T) → List (Value T))
    (members : List (Value T)) : Value T :=
  .set (order ((members.foldl (fun m k => put m k .null) []).map (·.1)))

/-! ### Entries -/

variable [DecidableEq T] [TextLike T]

def isText (s : String) : Value T → Bool
  | .text t => t = TextLike.ofString s
  | _ => false

/-- The value of the first entry under a text. -/
def field? (entries : List (Value T × Value T)) (key : String) : Option (Value T) :=
  (entries.find? fun (k, _) => k.isText key).map (·.2)

/-- The value of the first entry under a text, unless it is null. -/
def given? (entries : List (Value T × Value T)) (key : String) : Option (Value T) :=
  (field? entries key).filter fun v => !v.isNull

theorem given?_congr {entries entries' : List (Value T × Value T)} {key : String}
    (h : field? entries key = field? entries' key) : given? entries key = given? entries' key := by
  rw [given?, given?, h]

theorem fitsMemory_of_field? {entries : List (Value T × Value T)} {key : String} {v : Value T}
    (h : field? entries key = some v) (fits : entriesFitMemory entries = true) :
    v.fitsMemory = true := by
  induction entries with
  | nil => cases h
  | cons e rest ih =>
    simp only [entriesFitMemory, Bool.and_eq_true] at fits
    rw [field?, List.find?_cons] at h
    split at h
    · exact Option.some.inj h ▸ fits.1.2
    · exact ih h fits.2

end Value

end SoloScenario

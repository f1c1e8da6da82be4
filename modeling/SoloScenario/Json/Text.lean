import SoloScenario.Number.Shortest
import SoloScenario.Value.Basic

/-! Values as JSON text, on one line or with an indentation of two spaces a
level. Characters beyond ASCII stand for themselves. Bytes, dates, stamps and
sets have no JSON text, and neither has a mapping with a key that is no scalar
or a whole number of too many digits. -/

namespace SoloScenario.Json

open Text

/-- The two ways to lay out lists and mappings. -/
inductive Layout where
  | compact | pretty
  deriving DecidableEq, Repr

/-- A line break and the indentation of a depth. -/
def newline (depth : Nat) : List Char := '\n' :: List.replicate (2 * depth) ' '

/-- What stands before the first item, at the depth of the items. -/
def Layout.opening : Layout → Nat → List Char
  | .compact, _ => []
  | .pretty, depth => newline depth

/-- What stands between two items, at their depth. -/
def Layout.between : Layout → Nat → List Char
  | .compact, _ => [',', ' ']
  | .pretty, depth => ',' :: newline depth

/-- What stands after the last item, at the depth around them. -/
def Layout.closing : Layout → Nat → List Char
  | .compact, _ => []
  | .pretty, depth => newline depth

def escape (c : Char) : List Char :=
  if c = '"' ∨ c = '\\' then ['\\', c]
  else if c = '\n' then ['\\', 'n']
  else if c = '\r' then ['\\', 'r']
  else if c = '\t' then ['\\', 't']
  else if c = '\x08' then ['\\', 'b']
  else if c = '\x0c' then ['\\', 'f']
  else if c.toNat < 0x20 then '\\' :: 'u' :: hexDigits 4 c.toNat
  else [c]

def string (s : String) : List Char := '"' :: (s.toList.flatMap escape ++ ['"'])

def whole (n : Int) : List Char := (if n < 0 then ['-'] else []) ++ decimal n.natAbs

/-- The text of a whole number, unless it has too many digits. -/
def whole? (n : Int) : Option (List Char) := if isShort n then some (whole n) else none

/-- Numbers are written as in displays, but for the names of those that are not finite. -/
def numbers : Binary64.Layout :=
  { Binary64.display with infinity := "Infinity", nan := "NaN" }

def truth (b : Bool) : List Char := if b then "true".toList else "false".toList

def key? : Value → Option (List Char)
  | .text s => some (string s)
  | .null => some (string "null")
  | .bool b => some ('"' :: (truth b ++ ['"']))
  | .int n => (whole? n).map fun digits => '"' :: (digits ++ ['"'])
  | .float x => some ('"' :: (x.write numbers ++ ['"']))
  | _ => none

mutual

/-- The JSON text of a value at a depth. -/
def encode? (layout : Layout) (depth : Nat) : Value → Option (List Char)
  | .null => some "null".toList
  | .bool b => some (truth b)
  | .int n => whole? n
  | .float x => some (x.write numbers)
  | .text s => some (string s)
  | .list items => do
    let inside ← encodeItems? layout (depth + 1) items
    return '[' :: (if items.isEmpty then inside
      else layout.opening (depth + 1) ++ (inside ++ layout.closing depth)) ++ [']']
  | .tuple items => do
    let inside ← encodeItems? layout (depth + 1) items
    return '[' :: (if items.isEmpty then inside
      else layout.opening (depth + 1) ++ (inside ++ layout.closing depth)) ++ [']']
  | .map entries => do
    let inside ← encodeEntries? layout (depth + 1) entries
    return '{' :: (if entries.isEmpty then inside
      else layout.opening (depth + 1) ++ (inside ++ layout.closing depth)) ++ ['}']
  | .bytes _ | .date _ | .stamp _ | .set _ | .again _ => none

def encodeItems? (layout : Layout) (depth : Nat) : List Value → Option (List Char)
  | [] => some []
  | v :: rest => do
    let first ← encode? layout depth v
    let more ← encodeItems? layout depth rest
    return first ++ (if rest.isEmpty then more else layout.between depth ++ more)

def encodeEntries? (layout : Layout) (depth : Nat) : List (Value × Value) → Option (List Char)
  | [] => some []
  | (k, v) :: rest => do
    let name ← key? k
    let first ← encode? layout depth v
    let more ← encodeEntries? layout depth rest
    return name ++ ':' :: ' ' :: first ++
      (if rest.isEmpty then more else layout.between depth ++ more)

end

end Json

/-- The JSON text of a value, if it has one. -/
def Value.toJson? (layout : Json.Layout) (v : Value) : Option String :=
  (Json.encode? layout 0 v).map String.ofList

example : Value.toJson? .compact
      (.map [(.text "a", .list [.null, .int (-1)]), (.text "b", .map [])]) =
    some "\x7b\"a\": [null, -1], \"b\": \x7b\x7d\x7d" := by decide +kernel

end SoloScenario

import SoloScenario.Markup.Scalar
import SoloScenario.Value.Basic

/-! Reading JSON text. A mapping keeps the order of its entries, and of entries
under one key the last counts. A number with a point or an exponent is a number
of 64 bits, and any other is a whole number. -/

namespace SoloScenario.Json

open Text

def skipSpace (cs : List Char) : List Char :=
  cs.dropWhile fun c => c = ' ' || c = '\n' || c = '\r' || c = '\t'

/-- The number that four hexadecimal digits spell. -/
def fourDigits? : List Char → Option (Nat × List Char)
  | a :: b :: c :: d :: rest => do
    let n ← [a, b, c, d].foldlM (fun n c => (hexDigit? c).map (16 * n + ·)) 0
    return (n, rest)
  | _ => none

/-- The character that a letter after a backslash stands for. -/
def unescape? : Char → Option Char
  | '"' => some '"'
  | '\\' => some '\\'
  | '/' => some '/'
  | 'n' => some '\n'
  | 'r' => some '\r'
  | 't' => some '\t'
  | 'b' => some '\x08'
  | 'f' => some '\x0c'
  | _ => none

/-- A character written by its number, in two halves if it is above the first plane. -/
def numbered? (cs : List Char) : Option (Char × List Char) := do
  let (n, rest) ← fourDigits? cs
  if n < 0xd800 || 0xe000 ≤ n then return (Char.ofNat n, rest)
  else match rest with
    | '\\' :: 'u' :: rest => do
      let (m, rest) ← fourDigits? rest
      if n < 0xdc00 && 0xdc00 ≤ m && m < 0xe000 then
        return (Char.ofNat (0x10000 + (n - 0xd800) * 0x400 + (m - 0xdc00)), rest)
      else none
    | _ => none

/-- Reads a string after its first quote, with as much fuel as there are characters. -/
def readString : Nat → List Char → Option (List Char × List Char)
  | 0, _ => none
  | _ + 1, [] => none
  | fuel + 1, c :: rest =>
    if c = '"' then some ([], rest)
    else if c = '\\' then
      match rest with
      | 'u' :: rest => do
        let (d, rest) ← numbered? rest
        let (cs, rest) ← readString fuel rest
        return (d :: cs, rest)
      | e :: rest => do
        let d ← unescape? e
        let (cs, rest) ← readString fuel rest
        return (d :: cs, rest)
      | [] => none
    else if c.toNat < 0x20 then none
    else do
      let (cs, rest) ← readString fuel rest
      return (c :: cs, rest)

def string? (cs : List Char) : Option (String × List Char) :=
  (readString cs.length cs).map fun (s, rest) => (String.ofList s, rest)

def isNumberChar (c : Char) : Bool :=
  c.isDigit || c = '-' || c = '+' || c = '.' || c = 'e' || c = 'E'

def number? (cs : List Char) : Option Value :=
  let (sign, ds) := match cs with
    | '-' :: ds => (true, ds)
    | ds => (false, ds)
  if Markup.allOf Char.isDigit ds then
    let n : Int := ofDecimal ds
    some (.int (if sign then -n else n))
  else if ds.head?.any Char.isDigit then (Markup.decimal? cs).map .float
  else none

mutual

/-- Reads a value, with fuel for every character. -/
def readValue : Nat → List Char → Option (Value × List Char)
  | 0, _ => none
  | fuel + 1, cs =>
    match skipSpace cs with
    | [] => none
    | c :: rest =>
      if c = 'n' then
        if rest.take 3 = ['u', 'l', 'l'] then some (.null, rest.drop 3) else none
      else if c = 't' then
        if rest.take 3 = ['r', 'u', 'e'] then some (.bool true, rest.drop 3) else none
      else if c = 'f' then
        if rest.take 4 = ['a', 'l', 's', 'e'] then some (.bool false, rest.drop 4) else none
      else if c = '"' then (string? rest).map fun (s, rest) => (.text s, rest)
      else if c = '[' then
        match skipSpace rest with
        | ']' :: rest => some (.list [], rest)
        | _ => (readItems fuel rest).map fun (items, rest) => (.list items, rest)
      else if c = '{' then
        match skipSpace rest with
        | '}' :: rest => some (.map [], rest)
        | _ => (readEntries fuel rest).map fun (entries, rest) => (Value.ofEntries entries, rest)
      else
        let (number, rest) := (c :: rest).span isNumberChar
        (number? number).map fun v => (v, rest)

/-- Reads the items of a list that is not empty, with its end. -/
def readItems : Nat → List Char → Option (List Value × List Char)
  | 0, _ => none
  | fuel + 1, cs => do
    let (v, rest) ← readValue fuel cs
    match skipSpace rest with
    | ']' :: rest => return ([v], rest)
    | ',' :: rest =>
      let (items, rest) ← readItems fuel rest
      return (v :: items, rest)
    | _ => none

/-- Reads the entries of a mapping that is not empty, with its end. -/
def readEntries : Nat → List Char → Option (List (Value × Value) × List Char)
  | 0, _ => none
  | fuel + 1, cs => do
    match skipSpace cs with
    | '"' :: rest =>
      let (key, rest) ← string? rest
      match skipSpace rest with
      | ':' :: rest =>
        let (v, rest) ← readValue fuel rest
        match skipSpace rest with
        | '}' :: rest => return ([(.text key, v)], rest)
        | ',' :: rest =>
          let (entries, rest) ← readEntries fuel rest
          return ((.text key, v) :: entries, rest)
        | _ => none
      | _ => none
    | _ => none

end

def decode? (cs : List Char) : Option Value :=
  match readValue (2 * cs.length + 1) cs with
  | some (v, rest) => if (skipSpace rest).isEmpty then some v else none
  | none => none

end Json

/-- The value that a JSON text spells. -/
def Value.ofJson? (s : String) : Option Value := Json.decode? s.toList

end SoloScenario

import SoloScenario.Text.Blank
import SoloScenario.Time.Stamp

/-! Reading a time stamp that is given by hand: a date, or a date and a time of
day with the letter T or white space between them. Numbers may be written
without their leading zero, but for the year. -/

namespace SoloScenario.Time.Reading

open Text

/-- What is read from the front of a text: a value and the rest. -/
abbrev Reader (α : Type) := List Char → Option (α × List Char)

def year : Reader Nat
  | a :: b :: c :: d :: rest => do
    let n ← [a, b, c, d].foldlM (fun n c => (decimalDigit? c).map (10 * n + ·)) 0
    return (n, rest)
  | _ => none

/-- A digit of ASCII in a range, as a number. -/
def digitIn (low high : Char) (c : Char) : Option Nat :=
  if low ≤ c && c ≤ high then some (c.toNat - '0'.toNat) else none

/-- Two digits, the first in a range of ASCII. -/
def twoDigits (low high : Char) : Reader Nat
  | a :: b :: rest => do return (10 * (← digitIn low high a) + (← decimalDigit? b), rest)
  | _ => none

/-- Two digits of ASCII, the first given and the second in a range. -/
def twoFrom (first low high : Char) : Reader Nat
  | a :: b :: rest =>
    if a = first then do
      let d ← digitIn low high b
      return (10 * (a.toNat - '0'.toNat) + d, rest)
    else none
  | _ => none

def oneDigit : Reader Nat
  | a :: rest => (decimalDigit? a).map (·, rest)
  | [] => none

/-- One digit of ASCII from 1 to 9. -/
def oneNonzero : Reader Nat
  | a :: rest => (digitIn '1' '9' a).map (·, rest)
  | [] => none

def either {α : Type} (p q : Reader α) : Reader α := fun cs => (p cs).or (q cs)

def month : Reader Nat :=
  either (twoFrom '1' '0' '2') (either (twoFrom '0' '1' '9') oneNonzero)

/-- A day, which may have a space for its leading zero. -/
def day : Reader Nat :=
  either (twoFrom '3' '0' '1') (either (twoDigits '1' '2') (either (twoFrom '0' '1' '9')
    (either oneNonzero fun
      | ' ' :: rest => oneNonzero rest
      | _ => none)))

def hour : Reader Nat := either (twoFrom '2' '0' '3') (either (twoDigits '0' '1') oneDigit)

def minute : Reader Nat := either (twoDigits '0' '5') oneDigit

/-- A second, leap seconds included. -/
def second : Reader Nat := either (twoFrom '6' '0' '1') (either (twoDigits '0' '5') oneDigit)

def skip (c : Char) : List Char → Option (List Char)
  | a :: rest => if a = c then some rest else none
  | [] => none

/-- What stands between a date and a time. -/
inductive Gap where
  | letter | blank
  deriving DecidableEq, Repr

def Gap.skip : Gap → List Char → Option (List Char)
  | .letter, c :: rest => if c = 'T' || c = 't' then some rest else none
  | .blank, c :: rest => if isBlankChar c then some (rest.dropWhile isBlankChar) else none
  | _, [] => none

def date : Reader Date := fun cs => do
  let (y, cs) ← year cs
  let (m, cs) ← month (← skip '-' cs)
  let (d, cs) ← day (← skip '-' cs)
  return (← (Date.make? y m d).toOption, cs)

def dateOnly (cs : List Char) : Option Stamp := do
  let (d, rest) ← date cs
  if rest.isEmpty then
    return { date := d, hour := 0, minute := 0, second := 0, microsecond := 0, zone := none }
  else none

def dateAndTime (gap : Gap) (cs : List Char) : Option Stamp := do
  let (d, cs) ← date cs
  let (h, cs) ← hour (← gap.skip cs)
  let (m, cs) ← minute (← skip ':' cs)
  let (s, cs) ← second (← skip ':' cs)
  if cs.isEmpty then (Stamp.make? d h m s 0 none).toOption else none

end Reading

/-- The patterns of the forms that can be read, in the order in which they are tried. -/
def Stamp.readable : List String := ["%Y-%m-%d", "%Y-%m-%dT%H:%M:%S", "%Y-%m-%d %H:%M:%S"]

/-- The stamp that a text spells in one of the readable forms. -/
def Stamp.read? (s : String) : Option Stamp :=
  let cs := s.toList
  (Reading.dateOnly cs).or ((Reading.dateAndTime .letter cs).or (Reading.dateAndTime .blank cs))

example : Stamp.read? "2017-6-1t9:05:07" = some (.mk (.mk 2017 6 1) 9 5 7 0 none) := by
  decide +kernel
example : Stamp.read? "2017-06-01 12:30:60" = none := by decide +kernel

end SoloScenario.Time

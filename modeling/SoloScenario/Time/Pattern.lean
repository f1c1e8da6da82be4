import SoloScenario.Text.Case
import SoloScenario.Time.Stamp

/-! Patterns for time stamps. A directive is a percent sign, flags, a width, a
modifier and a letter; every other character stands for itself, and so does a
directive that is unknown or unfinished. The three directives that depend on the
zone or on microseconds are filled in first. -/

namespace SoloScenario.Time

open Text

namespace Pattern

/-- Fills in offset, zone label and microseconds where their letters directly
follow a percent sign. What is filled in is not read as a directive again. The
pattern ends at its first null character. -/
def fill (t : Stamp) : List Char → List Char
  | [] => []
  | '\x00' :: _ => []
  | '%' :: [] => ['%']
  | '%' :: '\x00' :: _ => ['%']
  | '%' :: c :: rest =>
    if c = 'z' then ((t.zone.map fun z => offsetText [] z.offset).getD []) ++ fill t rest
    else if c = 'Z' then
      ((t.zone.map Zone.label).getD []).flatMap (fun c => if c = '%' then ['%', '%'] else [c]) ++
        fill t rest
    else if c = 'f' then padded 6 t.microsecond ++ fill t rest
    else '%' :: c :: fill t rest
  | c :: rest => c :: fill t rest

/-! ### Fields -/

/-- The days of the week from Sunday on. -/
def dayNames : List String :=
  ["Sunday", "Monday", "Tuesday", "Wednesday", "Thursday", "Friday", "Saturday"]

def monthNames : List String :=
  ["January", "February", "March", "April", "May", "June", "July", "August", "September",
    "October", "November", "December"]

/-- A field: a number with its least width, zeros or spaces before it, or a text. -/
inductive Field where
  | number (width : Nat) (spaced : Bool) (value : Int)
  | text (cs : List Char)

def dayName (t : Stamp) : List Char := (dayNames.getD t.date.weekday "?").toList

def monthName (t : Stamp) : List Char := (monthNames.getD (t.date.month - 1) "?").toList

/-- The hour on a clock of twelve hours. -/
def hour12 (t : Stamp) : Nat :=
  if t.hour = 0 then 12 else if 12 < t.hour then t.hour - 12 else t.hour

def halfDay (t : Stamp) : List Char := if 11 < t.hour then ['P', 'M'] else ['A', 'M']

def shortClock (t : Stamp) : List Char := padded 2 t.hour ++ ':' :: padded 2 t.minute

def fullClock (t : Stamp) : List Char := shortClock t ++ ':' :: padded 2 t.second

def slashedDate (t : Stamp) : List Char :=
  padded 2 t.date.month ++ '/' :: (padded 2 t.date.day ++ '/' :: padded 2 (t.date.year % 100))

/-- A number after spaces that fill a width of two. -/
def spaced (n : Nat) : List Char := List.replicate (2 - (decimal n).length) ' ' ++ decimal n

/-- Seconds from the start of the year 1970 to the time on the clock. -/
def epochSeconds (t : Stamp) : Int :=
  let days : Int := (t.date.dayNumber : Int) - 719162
  ((days * 24 + t.hour) * 60 + t.minute) * 60 + t.second

def field? (t : Stamp) (letter : Char) : Option Field :=
  let d := t.date
  match letter with
  | '%' => some (.text ['%'])
  | 'a' => some (.text ((dayName t).take 3))
  | 'A' => some (.text (dayName t))
  | 'b' | 'h' => some (.text ((monthName t).take 3))
  | 'B' => some (.text (monthName t))
  | 'c' => some (.text ((dayName t).take 3 ++ ' ' :: ((monthName t).take 3 ++ ' ' ::
      (spaced d.day ++ ' ' :: (fullClock t ++ ' ' :: decimal d.year)))))
  | 'C' => some (.number 1 false ((d.year / 100 : Nat) : Int))
  | 'd' => some (.number 2 false d.day)
  | 'D' | 'x' => some (.text (slashedDate t))
  | 'e' => some (.number 2 true d.day)
  | 'F' => some (.text (decimal d.year ++ '-' :: (padded 2 d.month ++ '-' :: padded 2 d.day)))
  | 'g' => some (.number 2 false ((d.week.1 % 100 : Nat) : Int))
  | 'G' => some (.number 1 false d.week.1)
  | 'H' => some (.number 2 false t.hour)
  | 'I' => some (.number 2 false (hour12 t))
  | 'j' => some (.number 3 false ((d.dayOfYear + 1 : Nat) : Int))
  | 'k' => some (.number 2 true t.hour)
  | 'l' => some (.number 2 true (hour12 t))
  | 'm' => some (.number 2 false d.month)
  | 'M' => some (.number 2 false t.minute)
  | 'n' => some (.text ['\n'])
  | 'p' => some (.text (halfDay t))
  | 'P' => some (.text ((halfDay t).map Char.toLower))
  | 'r' => some (.text (padded 2 (hour12 t) ++ ':' :: (padded 2 t.minute ++ ':' ::
      (padded 2 t.second ++ ' ' :: halfDay t))))
  | 'R' => some (.text (shortClock t))
  | 's' => some (.number 1 false (epochSeconds t))
  | 'S' => some (.number 2 false t.second)
  | 't' => some (.text ['\t'])
  | 'T' | 'X' => some (.text (fullClock t))
  | 'u' => some (.number 1 false (((d.weekday + 6) % 7 + 1 : Nat) : Int))
  | 'U' => some (.number 2 false (((d.dayOfYear + 7 - d.weekday) / 7 : Nat) : Int))
  | 'V' => some (.number 2 false d.week.2)
  | 'w' => some (.number 1 false d.weekday)
  | 'W' => some (.number 2 false (((d.dayOfYear + 7 - (d.weekday + 6) % 7) / 7 : Nat) : Int))
  | 'y' => some (.number 2 false ((d.year % 100 : Nat) : Int))
  | 'Y' => some (.number 1 false d.year)
  | 'Z' => some (.text [])
  | _ => none

/-! ### Directives -/

/-- What has been read of a directive. -/
structure Directive where
  /-- Its characters from the percent sign on. -/
  source : List Char
  /-- The last of the flags that choose how a field is filled up. -/
  pad : Option Char
  upper : Bool
  swap : Bool
  width : Option Nat
  modifier : Option Char

def Directive.start : Directive := ⟨['%'], none, false, false, none, none⟩

/-- The directive with one more character, unless that one is its letter. A
width counts only up to the cap. -/
def Directive.read? (cap : Nat) (d : Directive) (c : Char) : Option Directive :=
  let d' := { d with source := d.source ++ [c] }
  if d.modifier.isSome then none
  else if d.width.isNone && (c = '_' || c = '-' || c = '0') then some { d' with pad := some c }
  else if d.width.isNone && c = '^' then some { d' with upper := true }
  else if d.width.isNone && c = '#' then some { d' with swap := true }
  else if c.isDigit then
    some { d' with width := some (min cap (10 * d.width.getD 0 + (c.toNat - '0'.toNat))) }
  else if c = 'E' || c = 'O' then some { d' with modifier := some c }
  else none

/-- A text in the case that the directive asks for, filled up to its width. -/
def Directive.fit (d : Directive) (small : Bool) (upper : Bool) (cs : List Char) : List Char :=
  let filler := if d.pad = some '0' then '0' else ' '
  List.replicate (d.width.getD 0 - cs.length) filler ++
    (if small then cs.map Char.toLower else if upper then cs.map upperChar else cs)

def Directive.fitNumber (d : Directive) (width : Nat) (spaced : Bool) (value : Int) : List Char :=
  let pad := if spaced && d.pad ≠ some '0' && d.pad ≠ some '-' then some '_' else d.pad
  let digits := (if value < 0 then ['-'] else []) ++ decimal value.natAbs
  let full := max width (d.width.getD 0)
  if pad = some '-' then d.fit false d.upper digits
  else if pad = some '_' then List.replicate (full - digits.length) ' ' ++ digits
  else if value < 0 then
    '-' :: (List.replicate (full - digits.length) '0' ++ decimal value.natAbs)
  else List.replicate (full - digits.length) '0' ++ digits

/-- Whether a letter takes the modifier. -/
def takesModifier (letter modifier : Char) : Bool :=
  if "%aADF".toList.contains letter then false
  else if modifier = 'E' then !"bhBdeHIjklmMSUVgGWw".toList.contains letter
  else !"cxXY".toList.contains letter

/-- Letters whose names of days and months are capitals when their case is swapped. -/
def isName (letter : Char) : Bool := "aAbBh".toList.contains letter

/-- Letters of months, which turn a directive into capitals even where they do not
take its modifier. -/
def isMonthName (letter : Char) : Bool := "bBh".toList.contains letter

/-- A directive and its letter, written for a stamp. -/
def Directive.expand (t : Stamp) (d : Directive) (letter : Char) : List Char :=
  let upper := d.upper || (d.swap && isMonthName letter)
  let verbatim := d.fit false upper (if letter = '%' then ['%'] else d.source ++ [letter])
  if letter = 'z' || (letter = 'Z' && d.pad = some '-') then []
  else if d.modifier.any fun m => !takesModifier letter m then verbatim
  else match field? t letter with
    | none => verbatim
    | some (.number width spaced value) =>
      if letter = 's' then d.fit false d.upper (if value < 0 then '-' :: decimal value.natAbs
        else decimal value.natAbs)
      else d.fitNumber width spaced value
    | some (.text cs) =>
      d.fit (letter = 'P' || (letter = 'p' && d.swap)) (d.upper || (d.swap && isName letter)) cs

/-- Expands the rest of a pattern, within a directive or outside one. -/
def expand (t : Stamp) (cap : Nat) : Option Directive → List Char → List Char
  | none, [] => []
  | none, c :: rest =>
    if c = '%' then expand t cap (some .start) rest else c :: expand t cap none rest
  | some d, [] => d.fit false d.upper d.source
  | some d, c :: rest =>
    match d.read? cap c with
    | some d' => expand t cap (some d') rest
    | none => d.expand t c ++ expand t cap none rest

/-- Room for the text of a pattern of so many characters: the first of 1024,
2048, … that is at least 256 times its length. -/
def room (length : Nat) : Nat :=
  if 256 * length ≤ 1024 then 1024 else Nat.pow 2 (Nat.log2 (256 * length - 1) + 1)

end Pattern

/-- The stamp written by a pattern; nothing if that takes up all the room there is. -/
def Stamp.format (pattern : String) (t : Stamp) : String :=
  let filled := Pattern.fill t pattern.toList
  let cap := Pattern.room filled.length
  let text := Pattern.expand t cap none filled
  if text.length < cap then String.ofList text else ""

example :
    Stamp.format "%j %-d|%_d|%05d|%^a %h %%%z" (.mk (.mk 2017 6 1) 12 30 0 0 (some .universal)) =
    "152 1| 1|00001|THU Jun %+0000" := by decide +kernel

end SoloScenario.Time

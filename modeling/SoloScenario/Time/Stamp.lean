import SoloScenario.Text.Digits

/-! Dates and time stamps of the civil calendar, and their standard form: the
date, the time of day, microseconds only if there are any, and the offset from
universal time if the stamp has a zone. -/

namespace SoloScenario.Time

open Text

/-! ### The calendar -/

/-- A year with a 29th of February. -/
def isLeap (year : Nat) : Bool := year % 4 = 0 && (year % 100 ≠ 0 || year % 400 = 0)

def daysInMonth (year month : Nat) : Nat :=
  if month = 2 then (if isLeap year then 29 else 28)
  else if month = 4 || month = 6 || month = 9 || month = 11 then 30 else 31

def daysInYear (year : Nat) : Nat := if isLeap year then 366 else 365

/-- Years have up to four digits. -/
def IsYear (year : Nat) : Prop := 1 ≤ year ∧ year ≤ 9999

def IsMonth (month : Nat) : Prop := 1 ≤ month ∧ month ≤ 12

def IsDay (year month day : Nat) : Prop := 1 ≤ day ∧ day ≤ daysInMonth year month

/-- An offset from universal time in microseconds is less than a day either way. -/
def IsOffset (offset : Int) : Prop := -86400000000 < offset ∧ offset < 86400000000

instance (year : Nat) : Decidable (IsYear year) := inferInstanceAs (Decidable (_ ∧ _))
instance (month : Nat) : Decidable (IsMonth month) := inferInstanceAs (Decidable (_ ∧ _))
instance (year month day : Nat) : Decidable (IsDay year month day) :=
  inferInstanceAs (Decidable (_ ∧ _))
instance (offset : Int) : Decidable (IsOffset offset) := inferInstanceAs (Decidable (_ ∧ _))

/-- A day of the civil calendar. -/
structure Date where
  year : Nat
  month : Nat
  day : Nat
  isYear : IsYear year := by decide
  isMonth : IsMonth month := by decide
  isDay : IsDay year month day := by decide
  deriving DecidableEq, Repr

/-- A fixed offset from universal time in microseconds, and a name if it was given one. -/
structure Zone where
  offset : Int
  name : Option String
  isOffset : IsOffset offset := by decide
  deriving DecidableEq, Repr

/-- A moment on a clock, without a zone or in one. -/
structure Stamp where
  date : Date
  hour : Nat
  minute : Nat
  second : Nat
  microsecond : Nat
  zone : Option Zone
  hour_lt : hour < 24 := by decide
  minute_lt : minute < 60 := by decide
  second_lt : second < 60 := by decide
  microsecond_lt : microsecond < 1000000 := by decide
  deriving DecidableEq, Repr

instance : Inhabited Date := ⟨⟨1, 1, 1, by decide, by decide, by decide⟩⟩

def Zone.universal : Zone := { offset := 0, name := none }

namespace Date

/-- The days of the year before the date. -/
def dayOfYear (d : Date) : Nat :=
  (List.range (d.month - 1)).foldl (fun n m => n + daysInMonth d.year (m + 1)) (d.day - 1)

/-- The days from the first of January of the year 1 to the date. -/
def dayNumber (d : Date) : Nat :=
  let y := d.year - 1
  365 * y + y / 4 - y / 100 + y / 400 + d.dayOfYear

/-- The day of the week, Sunday being 0. -/
def weekday (d : Date) : Nat := (d.dayNumber + 1) % 7

/-- Days from the Monday of the first week of a year to the day with this index
in it; the first week is the one that holds the first Thursday. -/
def weekOffset (dayOfYear weekday : Int) : Int :=
  dayOfYear - (dayOfYear - weekday + 382) % 7 + 3

/-- The year that the date's week belongs to and the number of the week in it. -/
def week (d : Date) : Nat × Nat :=
  let wday : Int := d.weekday
  let days := weekOffset d.dayOfYear wday
  if days < 0 then
    let before := d.year - 1
    (before, (weekOffset (d.dayOfYear + daysInYear before) wday).toNat / 7 + 1)
  else
    let after := weekOffset (d.dayOfYear - daysInYear d.year) wday
    if 0 ≤ after then (d.year + 1, after.toNat / 7 + 1) else (d.year, days.toNat / 7 + 1)

end Date

/-! ### Checked construction -/

/-- A part of a date or a time that lies outside its range. -/
inductive Fault where
  | year (n : Nat)
  | month
  | day
  | hour
  | minute
  | second
  | microsecond
  /-- An offset of a day or more, in microseconds. -/
  | offset (n : Int)
  deriving DecidableEq, Repr

/-- A length of time in seconds, written as a call that builds it. -/
def lengthText (days seconds microseconds : Int) : String :=
  let parts := (if days ≠ 0 then [s!"days={days}"] else []) ++
    (if seconds ≠ 0 then [s!"seconds={seconds}"] else []) ++
    (if microseconds ≠ 0 then [s!"microseconds={microseconds}"] else [])
  let inside := if parts.isEmpty then "0" else ", ".intercalate parts
  s!"datetime.timedelta({inside})"

/-- A number of microseconds as days, seconds of a day and microseconds of a second. -/
def splitMicroseconds (n : Int) : Int × Int × Int :=
  let seconds := n.fdiv 1000000
  (seconds.fdiv 86400, seconds.fmod 86400, n.fmod 1000000)

/-- The length of an offset, written as a call that builds it. -/
def offsetLength (n : Int) : String :=
  let (days, seconds, microseconds) := splitMicroseconds n
  lengthText days seconds microseconds

def Fault.message : Fault → String
  | .year n => s!"year {n} is out of range"
  | .month => "month must be in 1..12"
  | .day => "day is out of range for month"
  | .hour => "hour must be in 0..23"
  | .minute => "minute must be in 0..59"
  | .second => "second must be in 0..59"
  | .microsecond => "microsecond must be in 0..999999"
  | .offset n =>
    "offset must be a timedelta strictly between -timedelta(hours=24) and timedelta(hours=24), " ++
      s!"not {offsetLength n}."

def Date.make? (year month day : Nat) : Except Fault Date :=
  if hy : IsYear year then
    if hm : IsMonth month then
      if hd : IsDay year month day then .ok ⟨year, month, day, hy, hm, hd⟩ else .error .day
    else .error .month
  else .error (.year year)

def Zone.make? (offset : Int) (name : Option String) : Except Fault Zone :=
  if h : IsOffset offset then .ok ⟨offset, name, h⟩ else .error (.offset offset)

def Stamp.make? (date : Date) (hour minute second microsecond : Nat) (zone : Option Zone) :
    Except Fault Stamp :=
  if hh : hour < 24 then
    if hm : minute < 60 then
      if hs : second < 60 then
        if hu : microsecond < 1000000 then
          .ok ⟨date, hour, minute, second, microsecond, zone, hh, hm, hs, hu⟩
        else .error .microsecond
      else .error .second
    else .error .minute
  else .error .hour

/-! ### Standard form -/

def Date.iso (d : Date) : List Char :=
  padded 4 d.year ++ '-' :: (padded 2 d.month ++ '-' :: padded 2 d.day)

/-- A mark and six digits, unless the number is zero. -/
def microsecondText (n : Nat) : List Char := if n = 0 then [] else '.' :: padded 6 n

/-- An offset: its sign, hours and minutes, and seconds only if it has a part below a minute. -/
def offsetText (colon : List Char) (n : Int) : List Char :=
  let micros := n.natAbs
  let seconds := micros / 1000000
  let low := seconds % 60
  let fraction := micros % 1000000
  (if n < 0 then '-' else '+') ::
    (padded 2 (seconds / 3600) ++ colon ++ padded 2 (seconds / 60 % 60) ++
      if low = 0 ∧ fraction = 0 then [] else colon ++ padded 2 low ++ microsecondText fraction)

/-- Hours, minutes and seconds, joined by colons, and the microseconds if there are any. -/
def Stamp.clock (t : Stamp) : List Char :=
  padded 2 t.hour ++ ':' :: (padded 2 t.minute ++ ':' ::
    (padded 2 t.second ++ microsecondText t.microsecond))

/-- Date and time with a character between them, and the offset if there is a zone. -/
def Stamp.standard (between : Char) (t : Stamp) : List Char :=
  t.date.iso ++ between :: (t.clock ++ match t.zone with
    | none => []
    | some z => offsetText [':'] z.offset)

/-- The stamp in the form of ISO 8601. -/
def Stamp.iso (t : Stamp) : String := String.ofList (t.standard 'T')

/-- The name of a zone: the one it was given, or one made from its offset. -/
def Zone.label (z : Zone) : List Char :=
  match z.name with
  | some name => name.toList
  | none => "UTC".toList ++ if z.offset = 0 then [] else offsetText [':'] z.offset

/-- Microseconds from the start of the year 1 to the stamp, in universal time if it has a zone. -/
def Stamp.instant (t : Stamp) : Int :=
  let clock : Int := ((t.date.dayNumber * 24 + t.hour) * 60 + t.minute) * 60 + t.second
  clock * 1000000 + t.microsecond - (t.zone.map (·.offset)).getD 0

example : Stamp.iso (.mk (.mk 2017 6 1) 12 30 0 7 (some (.mk (-19800000001) none))) =
    "2017-06-01T12:30:00.000007-05:30:00.000001" := by decide +kernel
example : (Date.week (.mk 2021 1 3), Date.weekday (.mk 2021 1 3)) = ((2020, 53), 0) := by
  decide +kernel

end SoloScenario.Time

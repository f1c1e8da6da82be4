import SoloScenario.Markup.Fault
import SoloScenario.Text.Blank
import SoloScenario.Text.Case
import SoloScenario.Value.Basic

/-! What scalars stand for. A plain scalar is a truth value, a number, a date or
nothing if it is spelled like one, and a text otherwise; a tag asks for one kind
of value whatever the spelling. Whole numbers have bases two, eight, ten and
sixteen; numbers of either sort may also be written in base sixty. -/

namespace SoloScenario.Markup

open Text

inductive ScalarKind where
  | truth | float | whole | merge | null | date | value | reserved | text
  deriving DecidableEq, Repr

/-! ### Spellings -/

def isDigit (c : Char) : Bool := c.isDigit

def isDigitOrGap (c : Char) : Bool := c.isDigit || c = '_'

/-- The rest of a text after its sign, if it has one. -/
def dropSign : List Char → List Char
  | c :: rest => if c = '-' || c = '+' then rest else c :: rest
  | [] => []

/-- A text that is not empty and holds only these characters. -/
def allOf (p : Char → Bool) (cs : List Char) : Bool := !cs.isEmpty && cs.all p

/-- A digit and then digits and underscores. -/
def startsWithDigit (cs : List Char) : Bool :=
  cs.head?.any isDigit && cs.all isDigitOrGap

/-- One or two digits that spell less than sixty. -/
def isSixtieth : List Char → Bool
  | [a] => isDigit a
  | [a, b] => '0' ≤ a && a ≤ '5' && isDigit b
  | _ => false

def colonParts {α : Type} [DecidableEq α] (colon : α) (cs : List α) : List (List α) :=
  cs.foldr (fun c parts =>
    if c = colon then [] :: parts
    else match parts with
      | [] => [[c]]
      | p :: ps => (c :: p) :: ps) [[]]

/-- An exponent with a sign and digits, or nothing. -/
def isExponent : List Char → Bool
  | [] => true
  | e :: s :: ds => (e = 'e' || e = 'E') && (s = '-' || s = '+') && allOf isDigit ds
  | _ => false

def truthWords : List (String × Bool) :=
  [("yes", true), ("no", false), ("true", true), ("false", false), ("on", true), ("off", false)]

/-- Words in small letters, capitals, or with a capital first. -/
def isWordOf (words : List String) (s : String) : Bool :=
  words.any fun w => s = w || s = w.toUpper || s = w.capitalize

def spellsTruth (cs : List Char) : Bool := isWordOf (truthWords.map (·.1)) (String.ofList cs)

def spellsNull (cs : List Char) : Bool :=
  cs.isEmpty || cs = ['~'] || isWordOf ["null"] (String.ofList cs)

def spellsWhole (cs : List Char) : Bool :=
  match dropSign cs with
  | '0' :: 'b' :: ds => allOf (fun c => c = '0' || c = '1' || c = '_') ds
  | '0' :: 'x' :: ds =>
    allOf (fun c => c.isDigit || c = '_' || ('a' ≤ c && c ≤ 'f') || ('A' ≤ c && c ≤ 'F')) ds
  | '0' :: ds => ds.all fun c => ('0' ≤ c && c ≤ '7') || c = '_'
  | ds =>
    match colonParts ':' ds with
    | first :: more => startsWithDigit first && more.all isSixtieth
    | [] => false

/-- Whether a text is a point, digits and underscores, and perhaps an exponent. -/
def isFraction (cs : List Char) : Bool :=
  match cs with
  | '.' :: rest => isExponent (rest.dropWhile isDigitOrGap)
  | _ => false

def spellsFloat (cs : List Char) : Bool :=
  let unsigned := dropSign cs
  let (whole, rest) := unsigned.span isDigitOrGap
  (startsWithDigit whole && isFraction rest) ||
    (match cs with
      | '.' :: d :: rest => isDigit d && isExponent (rest.dropWhile isDigitOrGap)
      | _ => false) ||
    (match colonParts ':' unsigned with
      | first :: more =>
        match more.getLast? with
        | some last =>
          let (ds, rest) := last.span (· ≠ '.')
          startsWithDigit first && more.dropLast.all isSixtieth && isSixtieth ds &&
            (match rest with
              | '.' :: fraction => fraction.all isDigitOrGap
              | _ => false)
        | none => false
      | [] => false) ||
    unsigned = ".inf".toList || unsigned = ".Inf".toList || unsigned = ".INF".toList ||
    cs = ".nan".toList || cs = ".NaN".toList || cs = ".NAN".toList

/-! ### Dates -/

/-- The parts of a written date: its numbers, and the fraction and zone of its time. -/
structure DateParts where
  year : Nat
  month : Nat
  day : Nat
  /-- Hour, minute, second and the digits of the fraction. -/
  time : Option (Nat × Nat × Nat × List Char)
  /-- The offset from universal time in minutes, 0 for the letter Z. -/
  zone : Option Int
  deriving DecidableEq, Repr

/-- Exactly so many digits at the front of a text. -/
def digits? (count : Nat) (cs : List Char) : Option (Nat × List Char) :=
  let ds := cs.take count
  if ds.length = count && ds.all isDigit then some (ofDecimal ds, cs.drop count) else none

/-- One or two digits at the front of a text. -/
def shortNumber? (cs : List Char) : Option (Nat × List Char) :=
  (digits? 2 cs).or (digits? 1 cs)

/-- The rest after a character. -/
def skipChar? (c : Char) : List Char → Option (List Char)
  | d :: rest => if c = d then some rest else none
  | [] => none

def zone? (cs : List Char) : Option (Option Int) :=
  match cs.dropWhile isSpace with
  | [] => if cs.isEmpty then some none else none
  | ['Z'] => some (some 0)
  | s :: rest => do
    if s ≠ '-' && s ≠ '+' then none
    let (hours, rest) ← shortNumber? rest
    let minutes ← match rest with
      | [] => some 0
      | ':' :: rest => do
        let (m, rest) ← digits? 2 rest
        if rest.isEmpty then some m else none
      | _ => none
    let offset : Int := ((60 * hours + minutes : Nat) : Int)
    return some (if s = '-' then -offset else offset)
where
  /-- Space or tab. -/
  isSpace (c : Char) : Bool := c = ' ' || c = '\t'

/-- A time at the end of a written date, after what separates them. -/
def time? (cs : List Char) : Option ((Nat × Nat × Nat × List Char) × Option Int) := do
  let cs ← match cs with
    | c :: rest =>
      if c = 'T' || c = 't' then some rest
      else if zone?.isSpace c then some (rest.dropWhile zone?.isSpace) else none
    | [] => none
  let (hour, cs) ← shortNumber? cs
  let (minute, cs) ← digits? 2 (← skipChar? ':' cs)
  let (second, cs) ← digits? 2 (← skipChar? ':' cs)
  let (fraction, cs) := match cs with
    | '.' :: rest => rest.span isDigit
    | _ => ([], cs)
  let zone ← zone? cs
  return ((hour, minute, second, fraction), zone)

def dateParts? (cs : List Char) : Option DateParts := do
  let (year, cs) ← digits? 4 cs
  let (month, cs) ← shortNumber? (← skipChar? '-' cs)
  let (day, cs) ← shortNumber? (← skipChar? '-' cs)
  if cs.isEmpty then return ⟨year, month, day, none, none⟩
  else
    let (time, zone) ← time? cs
    return ⟨year, month, day, some time, zone⟩

/-- Whether a plain scalar spells a date; without a time it needs two digits for month and day. -/
def spellsDate (cs : List Char) : Bool :=
  match dateParts? cs with
  | some p => p.time.isSome || cs.length = 10
  | none => false

/-! ### Kinds -/

/-- A text without one line end at its end, which no spelling takes into account. -/
def dropLastBreak (cs : List Char) : List Char :=
  if cs.getLast? = some '\n' then cs.dropLast else cs

/-- The kind of a plain scalar that holds no half of a character. -/
def kindOfChars (text : List Char) : ScalarKind :=
  let cs := if text.length = 1 then text else dropLastBreak text
  if spellsTruth cs then .truth
  else if spellsFloat cs then .float
  else if spellsWhole cs then .whole
  else if cs = ['<', '<'] then .merge
  else if spellsNull cs then .null
  else if spellsDate cs then .date
  else if cs = ['='] then .value
  else if cs = ['!'] || cs = ['&'] || cs = ['*'] then .reserved
  else .text

/-- The kind of a plain scalar. -/
def kindOf (text : Points) : ScalarKind :=
  match text.chars? with
  | some cs => kindOfChars cs
  | none => .text

/-! ### Values -/

def dropGaps (text : Points) : Points := text.filter (· ≠ .char '_')

def lowerPoints (text : Points) : Points :=
  text.flatMap fun p =>
    match p with
    | .char c => (lowerChar c).map .char
    | .half _ => [p]

/-- The sign at the front of a text, and the text without it. -/
def splitSign {α : Type} [DecidableEq α] (char : Char → α) : List α → Bool × List α
  | c :: rest =>
    if c = char '-' then (true, rest)
    else if c = char '+' then (false, rest) else (false, c :: rest)
  | [] => (false, [])

/-- The letter that may follow a zero to announce a base. -/
def baseLetter (base : Nat) (c : Char) : Bool :=
  (base = 2 && (c = 'b' || c = 'B')) || (base = 8 && (c = 'o' || c = 'O')) ||
    (base = 16 && (c = 'x' || c = 'X'))

/-- A whole number in a base: white space, a sign, the announcement of the base, and digits. -/
def wholeIn (base : Nat) (text : Points) : Except Fault Int :=
  match text.chars? with
  | none => .error (.notWhole base text)
  | some cs =>
    let (negative, cs) := splitSign id (trimBlank cs)
    let ds := match cs with
      | '0' :: c :: rest => if baseLetter base c then rest else cs
      | _ => cs
    match ds.mapM fun c => (digit? c).filter (· < base) with
    | none | some [] => .error (.notWhole base text)
    | some values =>
      if base = 10 && maxDigits < ds.length then .error (.tooManyDigits ds.length)
      else
        let n : Nat := values.foldl (base * · + ·) 0
        .ok (if negative then -n else n)

def readWhole (text : Points) : Except Fault Int := do
  let cs := dropGaps text
  if cs.isEmpty then throw .noNumber
  let (negative, cs) := splitSign Point.char cs
  let signed (n : Int) : Int := if negative then -n else n
  match cs with
  | [.char '0'] => return 0
  | .char '0' :: .char 'b' :: ds => return signed (← wholeIn 2 ds)
  | .char '0' :: .char 'x' :: ds => return signed (← wholeIn 16 ds)
  | .char '0' :: _ => return signed (← wholeIn 8 cs)
  | [] => throw .noNumber
  | _ =>
    if cs.contains (.char ':') then
      let parts ← (colonParts (.char ':') cs).mapM (wholeIn 10)
      return signed (parts.foldl (60 * · + ·) 0)
    else return signed (← wholeIn 10 cs)

/-- The digits of a number, its whole part and its fraction. -/
def mantissa? (cs : List Char) : Option (List Char × List Char) :=
  match cs.span (· ≠ '.') with
  | (whole, '.' :: fraction) =>
    if (whole ++ fraction).all isDigit && !(whole ++ fraction).isEmpty then some (whole, fraction)
    else none
  | (whole, _) => if allOf isDigit whole then some (whole, []) else none

def exponent? (cs : List Char) : Option Int :=
  match cs with
  | [] => some 0
  | _ :: rest =>
    let (negative, ds) := splitSign id rest
    if allOf isDigit ds then
      let n : Int := ofDecimal ds
      some (if negative then -n else n)
    else none

/-- A number in base ten: white space, a sign, and either digits with a point and
an exponent or the name of a number that is not finite. -/
def decimal? (text : List Char) : Option Binary64 :=
  let ascii := (trimBlank text).map fun c =>
    match decimalDigit? c with
    | some d => Char.ofNat ('0'.toNat + d)
    | none => c
  let (negative, cs) := splitSign id ascii
  let word := (String.ofList cs).toLower
  if word = "inf" || word = "infinity" then some (.infinite negative)
  else if word = "nan" then some .nan
  else
    let (front, back) := cs.span fun c => c ≠ 'e' && c ≠ 'E'
    match mantissa? front, exponent? back with
    | some (whole, fraction), some e =>
      some (.ofDecimal negative (ofDecimal (whole ++ fraction)) (e - fraction.length))
    | _, _ => none

def decimalNumber (text : Points) : Except Fault Binary64 :=
  match text.chars?.bind decimal? with
  | some x => .ok x
  | none => .error (.notNumber text)

/-- The value of numbers in base sixty, the last of them the lowest. -/
def sumSixtieths (parts : List Binary64) : Binary64 :=
  (parts.reverse.foldl (fun (sum, base) x => (sum.add (x.mul (.ofNat base)), base * 60))
    (Binary64.zero false, 1)).1

def readFloat (text : Points) : Except Fault Binary64 := do
  let cs := lowerPoints (dropGaps text)
  if cs.isEmpty then throw .noNumber
  let (negative, cs) := splitSign Point.char cs
  let signed (x : Binary64) : Binary64 := if negative then x.neg else x
  if cs = Points.ofString ".inf" then return signed (.infinite false)
  else if cs = Points.ofString ".nan" then return .nan
  else if cs.contains (.char ':') then
    return signed (sumSixtieths (← (colonParts (.char ':') cs).mapM decimalNumber))
  else return signed (← decimalNumber cs)

def readTruth (text : Points) : Except Fault Bool :=
  let word := lowerPoints text
  match truthWords.find? fun (w, _) => Points.ofString w = word with
  | some (_, b) => .ok b
  | none => .error (.notTruth word)

/-- The first six digits of a fraction, as millionths. -/
def millionths (ds : List Char) : Nat :=
  let ds := ds.take 6
  ofDecimal (ds ++ List.replicate (6 - ds.length) '0')

def readDate (text : Points) : Except Fault (Value Points) := do
  match text.chars?.bind fun cs => dateParts? (dropLastBreak cs) with
  | none => throw .notDate
  | some p =>
    match p.time with
    | none => return .date (← (Time.Date.make? p.year p.month p.day).mapError .date)
    | some (hour, minute, second, fraction) =>
      let zone ← p.zone.mapM fun m => (Time.Zone.make? (60000000 * m) none).mapError .date
      let date ← (Time.Date.make? p.year p.month p.day).mapError .date
      let time ← (Time.Stamp.make? date hour minute second (millionths fraction) zone).mapError
        .date
      return .stamp time

/-! ### Bytes -/

/-- The value of a character of base 64. -/
def sixBits? (c : Char) : Option Nat :=
  if 'A' ≤ c && c ≤ 'Z' then some (c.toNat - 'A'.toNat)
  else if 'a' ≤ c && c ≤ 'z' then some (c.toNat - 'a'.toNat + 26)
  else if c.isDigit then some (c.toNat - '0'.toNat + 52)
  else if c = '+' then some 62
  else if c = '/' then some 63
  else none

/-- Reads base 64 with a number of sextets of the current group already read, the
bits they leave over, and the padding seen since. Other characters are skipped. -/
def sextets (count left pads : Nat) : List Char → Option (List UInt8)
  | [] => if count = 0 then some [] else none
  | '=' :: rest =>
    if 2 ≤ count then
      if 4 ≤ count + (pads + 1) then some [] else sextets count left (pads + 1) rest
    else sextets count left pads rest
  | c :: rest =>
    match sixBits? c with
    | none => sextets count left pads rest
    | some n =>
      match count with
      | 0 => sextets 1 n 0 rest
      | 1 => (sextets 2 (n % 16) 0 rest).map (UInt8.ofNat (4 * left + n / 16) :: ·)
      | 2 => (sextets 3 (n % 4) 0 rest).map (UInt8.ofNat (16 * left + n / 4) :: ·)
      | _ => (sextets 0 0 0 rest).map (UInt8.ofNat (64 * left + n) :: ·)

def readBytes (text : Points) : Except Fault (List UInt8) :=
  match text.chars?.bind fun cs => if cs.all (·.toNat < 0x80) then sextets 0 0 0 cs else none with
  | some bs => .ok bs
  | none => .error .malformed

end SoloScenario.Markup

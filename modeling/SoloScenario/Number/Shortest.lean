import SoloScenario.Number.Binary64
import SoloScenario.Text.Digits

/-! The shortest decimal of a binary number: of all decimals that are nearer to
it than to any other binary number, one with the fewest digits, and of those the
nearest. -/

namespace SoloScenario.Binary64

/-- The digits of a positive decimal, the first worth `10 ^ place`. -/
structure Decimal where
  digits : List Char
  place : Int
  deriving DecidableEq, Repr

/-- Twice the half-way points to the neighbours below and above, and twice the
number, over a common denominator; and whether the half-way points count as near. -/
structure Interval where
  low : Nat
  value : Nat
  high : Nat
  den : Nat
  closed : Bool

/-- What rounds to a finite number. Below a power of two the neighbour is at half the distance. -/
def interval (mantissa : Nat) (exponent : Int) : Interval :=
  let narrow := 2 * mantissa = mantissaLimit && minExponent < exponent
  { low := scale 2 (4 * mantissa - (if narrow then 1 else 2)) exponent
    value := scale 2 (4 * mantissa) exponent
    high := scale 2 (4 * mantissa + 2) exponent
    den := scale 2 4 (-exponent)
    closed := mantissa % 2 = 0 }

/-- Whether `d * 10 ^ k` rounds to the number. -/
def Interval.has (i : Interval) (d : Nat) (k : Int) : Bool :=
  let point := scale 10 d k * i.den
  let low := scale 10 i.low (-k)
  let high := scale 10 i.high (-k)
  if i.closed then low ≤ point && point ≤ high else low < point && point < high

/-- The number divided by `10 ^ k`, as a quotient of natural numbers. -/
def Interval.over (i : Interval) (k : Int) : Nat × Nat :=
  (scale 10 i.value (-k), scale 10 i.den k)

/-- The multiple of `10 ^ k` that rounds to the number, the nearer one if its
two neighbours on this grid do, and the even one of two that are equally near. -/
def Interval.onGrid (i : Interval) (k : Int) : Option Nat :=
  let (num, den) := i.over k
  let d := num / den
  let r := num % den
  match i.has d k, i.has (d + 1) k with
  | true, true =>
    some (if 2 * r < den then d
      else if den < 2 * r then d + 1
      else if d % 2 = 0 then d else d + 1)
  | true, false => some d
  | false, true => some (d + 1)
  | false, false => none

/-- The place of the first digit: the largest `k` with `10 ^ k` at most the number. -/
def Interval.place (i : Interval) (guess : Int) : Nat → Int
  | 0 => guess
  | fuel + 1 =>
    let (num, den) := i.over guess
    if num < den then i.place (guess - 1) fuel
    else if 10 * den ≤ num then i.place (guess + 1) fuel
    else guess

/-- Tries the grids of `count` digits, of one more, and so on. -/
def Interval.search (i : Interval) (place : Int) : Nat → Nat → Option (Nat × Int)
  | 0, _ => none
  | fuel + 1, count =>
    let k := place + 1 - count
    match i.onGrid k with
    | some d => some (d, k)
    | none => i.search place fuel (count + 1)

def trimZeros (cs : List Char) : List Char := (cs.reverse.dropWhile (· = '0')).reverse

/-- The shortest decimal of a positive finite number. -/
def shortest (mantissa : Nat) (exponent : Int) : Decimal :=
  let i := interval mantissa exponent
  let bits : Int := exponent + Nat.log2 mantissa
  let place := i.place (bits * 30103 / 100000) 8
  match i.search place 17 1 with
  | some (d, k) =>
    let cs := Text.decimal d
    ⟨trimZeros cs, k + cs.length - 1⟩
  | none => ⟨Text.decimal mantissa, 0⟩

/-- How a decimal is written out. -/
structure Layout where
  /-- The lowest place of a first digit that is written without an exponent. -/
  lowest : Int
  /-- The first place above those that are written without an exponent. -/
  above : Int
  /-- The least number of digits of an exponent. -/
  exponentWidth : Nat
  infinity : String
  nan : String

/-- Places from the fourth after the point up to the sixteenth before it are
written out; an exponent has a sign and at least two digits. -/
def display : Layout := ⟨-4, 16, 2, "inf", "nan"⟩

/-- Writes a decimal with a point: a whole number keeps one zero after it. -/
def Decimal.positional (d : Decimal) : List Char :=
  if d.place < 0 then
    '0' :: '.' :: (List.replicate (-d.place - 1).toNat '0' ++ d.digits)
  else
    let whole := d.place.toNat + 1
    if d.digits.length ≤ whole then
      d.digits ++ List.replicate (whole - d.digits.length) '0' ++ ['.', '0']
    else d.digits.take whole ++ '.' :: d.digits.drop whole

/-- Writes a decimal with one digit before the point and an exponent. -/
def Decimal.scientific (width : Nat) (d : Decimal) : List Char :=
  let fraction := match d.digits.drop 1 with
    | [] => []
    | cs => '.' :: cs
  d.digits.take 1 ++ fraction ++ 'e' :: (if d.place < 0 then '-' else '+') ::
    Text.padded width d.place.natAbs

def write (n : Layout) : Binary64 → List Char
  | .nan => n.nan.toList
  | .infinite s => (if s then ['-'] else []) ++ n.infinity.toList
  | .finite s m e =>
    (if s then ['-'] else []) ++
      if m = 0 then ['0', '.', '0']
      else
        let d := shortest m e
        if n.lowest ≤ d.place && d.place < n.above then d.positional
        else d.scientific n.exponentWidth

example : write display (ofDecimal false 1 16) = "1e+16".toList := by decide +kernel
example : write display (ofDecimal false 15 (-8)) = "1.5e-07".toList := by decide +kernel
example : write display (ofDecimal true 3 (-1)) = "-0.3".toList := by decide +kernel

end SoloScenario.Binary64

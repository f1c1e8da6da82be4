/-! Binary floating point with 53 bits of precision. A finite number is kept as
its sign, its mantissa and its binary exponent, so that rounding, sums and
products are exact arithmetic of natural numbers followed by one rounding. -/

namespace SoloScenario

/-- A number of 64 bits: a finite one has the magnitude `mantissa * 2 ^ exponent`. -/
inductive Binary64 where
  | finite (negative : Bool) (mantissa : Nat) (exponent : Int)
  | infinite (negative : Bool)
  | nan
  deriving DecidableEq, Repr

namespace Binary64

def minExponent : Int := -1074

def maxExponent : Int := 971

/-- The first number that has too many bits for a mantissa. -/
def mantissaLimit : Nat := Nat.pow 2 53

/-- A number times a power of the base, or the number alone if the exponent is negative. -/
def scale (base n : Nat) (e : Int) : Nat := n * Nat.pow base e.toNat

def zero (negative : Bool) : Binary64 := .finite negative 0 minExponent

/-- The quotient to the nearest natural number, a half to the even neighbour. -/
def roundDiv (num den : Nat) : Nat :=
  let q := num / den
  let r := num % den
  if 2 * r < den then q
  else if den < 2 * r then q + 1
  else if q % 2 = 0 then q else q + 1

/-- The quotient `num / (den * 2 ^ e)` to the nearest natural number. -/
def roundScaled (num den : Nat) (e : Int) : Nat :=
  roundDiv (scale 2 num (-e)) (scale 2 den e)

/-- Whether `num / (den * 2 ^ e)` is below `2 ^ 53`. -/
def fits (num den : Nat) (e : Int) : Bool :=
  scale 2 num (-e) < scale 2 den e * mantissaLimit

/-- The nearest number to a quotient of natural numbers. -/
def ofRatio (negative : Bool) (num den : Nat) : Binary64 :=
  if num = 0 then zero negative
  else
    let guess : Int := (Nat.log2 num : Int) - Nat.log2 den - 53
    let tight := if fits num den guess then guess else guess + 1
    let e := max minExponent tight
    let m := roundScaled num den e
    let (m, e) := if m = mantissaLimit then (m / 2, e + 1) else (m, e)
    if maxExponent < e then .infinite negative else .finite negative m e

/-- The nearest number to `digits * 10 ^ exponent`. Far outside the range of
finite numbers no power of ten is formed. -/
def ofDecimal (negative : Bool) (digits : Nat) (exponent : Int) : Binary64 :=
  if digits = 0 then zero negative
  else
    let magnitude := exponent + ((Nat.log2 digits / 3 : Nat) : Int)
    if 400 < exponent then .infinite negative
    else if magnitude < -400 then zero negative
    else ofRatio negative (scale 10 digits exponent) (scale 10 1 (-exponent))

def neg : Binary64 → Binary64
  | .finite s m e => .finite (!s) m e
  | .infinite s => .infinite (!s)
  | .nan => .nan

/-- The signed multiple of a power of two that a finite number is. -/
def signed (negative : Bool) (mantissa : Nat) : Int := if negative then -mantissa else mantissa

/-- The nearest number to `n * 2 ^ e`, with the given sign if it is zero. -/
def ofScaled (zeroSign : Bool) (n : Int) (e : Int) : Binary64 :=
  if n = 0 then zero zeroSign
  else ofRatio (n < 0) (scale 2 n.natAbs e) (scale 2 1 (-e))

def add : Binary64 → Binary64 → Binary64
  | .nan, _ | _, .nan => .nan
  | .infinite s, .infinite t => if s = t then .infinite s else .nan
  | .infinite s, .finite .. => .infinite s
  | .finite .., .infinite t => .infinite t
  | .finite s m e, .finite t n f =>
    let low := min e f
    ofScaled (s && t) (signed s (scale 2 m (e - low)) + signed t (scale 2 n (f - low))) low

def mul : Binary64 → Binary64 → Binary64
  | .nan, _ | _, .nan => .nan
  | .infinite s, .infinite t => .infinite (s != t)
  | .infinite s, .finite t n _ => if n = 0 then .nan else .infinite (s != t)
  | .finite s m _, .infinite t => if m = 0 then .nan else .infinite (s != t)
  | .finite s m e, .finite t n f => ofScaled (s != t) (signed (s != t) (m * n)) (e + f)

def ofNat (n : Nat) : Binary64 := ofRatio false n 1

/-- The whole number that a number is, if it is one. -/
def toInt? : Binary64 → Option Int
  | .finite s m e =>
    let den := scale 2 1 (-e)
    if m % den = 0 then some (signed s (scale 2 m e / den)) else none
  | _ => none

def isZero : Binary64 → Bool
  | .finite _ m _ => m = 0
  | _ => false

/-- Whether two numbers count as one: the two zeros do, and so does what is no number. -/
def same (x y : Binary64) : Bool := x = y || (x.isZero && y.isZero)

example : ofDecimal false 1 0 = .finite false (mantissaLimit / 2) (-52) := by decide +kernel
example : ofDecimal false 5 (-324) = .finite false 1 (-1074) := by decide +kernel

end Binary64

end SoloScenario

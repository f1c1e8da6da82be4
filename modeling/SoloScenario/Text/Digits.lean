/-! Digits: the decimal digits of every script of Unicode 14, and the digits of
the number systems up to sixteen. -/

namespace SoloScenario.Text

/-- The code points of the zeros; the digits of a script follow its zero. -/
def zeros : List Nat := [
    0x30, 0x660, 0x6f0, 0x7c0, 0x966, 0x9e6, 0xa66, 0xae6, 0xb66, 0xbe6, 0xc66, 0xce6, 0xd66,
    0xde6, 0xe50, 0xed0, 0xf20, 0x1040, 0x1090, 0x17e0, 0x1810, 0x1946, 0x19d0, 0x1a80, 0x1a90,
    0x1b50, 0x1bb0, 0x1c40, 0x1c50, 0xa620, 0xa8d0, 0xa900, 0xa9d0, 0xa9f0, 0xaa50, 0xabf0,
    0xff10, 0x104a0, 0x10d30, 0x11066, 0x110f0, 0x11136, 0x111d0, 0x112f0, 0x11450, 0x114d0,
    0x11650, 0x116c0, 0x11730, 0x118e0, 0x11950, 0x11c50, 0x11d50, 0x11da0, 0x16a60, 0x16ac0,
    0x16b50, 0x1d7ce, 0x1d7d8, 0x1d7e2, 0x1d7ec, 0x1d7f6, 0x1e140, 0x1e2f0, 0x1e950, 0x1fbf0]

/-- The value of a decimal digit of any script. -/
def decimalDigit? (c : Char) : Option Nat :=
  (zeros.find? fun z => z ≤ c.toNat && c.toNat < z + 10).map (c.toNat - ·)

/-- The value of a decimal digit or a letter that serves as one, in either case. -/
def digit? (c : Char) : Option Nat :=
  if 'a' ≤ c && c ≤ 'z' then some (c.toNat - 'a'.toNat + 10)
  else if 'A' ≤ c && c ≤ 'Z' then some (c.toNat - 'A'.toNat + 10)
  else decimalDigit? c

/-- The value of a hexadecimal digit of ASCII. -/
def hexDigit? (c : Char) : Option Nat :=
  if c.toNat < 0x80 then (digit? c).filter (· < 16) else none

/-- One hexadecimal digit in small letters. -/
def hexDigit (n : Nat) : Char :=
  if n < 10 then Char.ofNat ('0'.toNat + n) else Char.ofNat ('a'.toNat + (n - 10))

/-- The lowest `width` hexadecimal digits of a number. -/
def hexDigits : Nat → Nat → List Char
  | 0, _ => []
  | width + 1, n => hexDigits width (n / 16) ++ [hexDigit (n % 16)]

/-- The digits of a number in base ten. -/
def decimal (n : Nat) : List Char := (Nat.repr n).toList

/-- The most decimal digits that a whole number may have where it is read or written. -/
def maxDigits : Nat := 4300

/-- Whether a whole number has no more digits than may be written. -/
def isShort (n : Int) : Bool := (decimal n.natAbs).length ≤ maxDigits

/-- The report of a whole number that has more. -/
def tooManyDigits : String :=
  s!"Exceeds the limit ({maxDigits} digits) for integer string conversion; " ++
    "use sys.set_int_max_str_digits() to increase the limit"

/-- The digits of a number in base ten after as many zeros as fill the width. -/
def padded (width n : Nat) : List Char :=
  List.replicate (width - (decimal n).length) '0' ++ decimal n

/-- The number that decimal digits of ASCII spell. -/
def ofDecimal (cs : List Char) : Nat :=
  cs.foldl (fun n c => 10 * n + (c.toNat - '0'.toNat)) 0

@[simp] theorem length_hexDigits (width n : Nat) : (hexDigits width n).length = width := by
  induction width generalizing n with
  | zero => rfl
  | succ width ih => simp [hexDigits, ih]

theorem hexDigit?_hexDigit : ∀ {n : Nat}, n < 16 → hexDigit? (hexDigit n) = some n := by
  decide

theorem length_padded (width n : Nat) : (padded width n).length = max width (decimal n).length := by
  simp [padded]; omega

theorem length_decimal_le_iff {n k : Nat} (some : 0 < k) :
    (decimal n).length ≤ k ↔ n < Nat.pow 10 k := by
  rw [decimal, String.length_toList, Nat.length_repr_le_iff some, Nat.pow_eq]

/-- The first whole number of too many digits. -/
def firstLong : Int := Nat.pow 10 maxDigits

theorem isShort_firstLong : isShort firstLong = false := by
  have some : 0 < maxDigits := by decide
  rw [isShort, decide_eq_false_iff_not, firstLong, Int.natAbs_natCast, length_decimal_le_iff some]
  exact Nat.lt_irrefl _

theorem isDigit_of_mem_decimal {n : Nat} {c : Char} (h : c ∈ decimal n) : c.isDigit := by
  rw [decimal, Nat.toList_repr] at h
  exact Nat.isDigit_of_mem_toDigits (by decide) (by decide) h

theorem decimal_ne_nil (n : Nat) : decimal n ≠ [] := by
  rw [decimal, Nat.toList_repr]
  exact Nat.toDigits_ne_nil

theorem ofDecimal_decimal (n : Nat) : ofDecimal (decimal n) = n := by
  rw [decimal, Nat.toList_repr, ofDecimal, ← Nat.ofDigitChars_eq_foldl,
    Nat.ofDigitChars_ten_toDigits]

end SoloScenario.Text

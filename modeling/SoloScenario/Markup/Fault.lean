import SoloScenario.Text.Points
import SoloScenario.Time.Stamp

/-! What can be wrong with marked-up text. Every offence against the grammar is
one fault; the others are scalars whose tag asks for a kind of value that their
text does not spell, and character numbers out of range. -/

namespace SoloScenario.Markup

/-- A reason for which a text holds no value. -/
inductive Fault where
  | malformed
  /-- A character number above the last one. -/
  | characterRange
  /-- A character number of more than 31 bits. -/
  | characterSize
  /-- A text that is no whole number in a base. -/
  | notWhole (base : Nat) (text : Text.Points)
  | tooManyDigits (count : Nat)
  | notNumber (text : Text.Points)
  | noNumber
  | notTruth (text : Text.Points)
  | notDate
  /-- A collection where the text of a date is wanted. -/
  | collectionForDate
  | date (fault : Time.Fault)
  deriving DecidableEq, Repr

def Fault.message : Fault → String
  | .malformed => "Malformed YAML"
  | .characterRange => "chr() arg not in range(0x110000)"
  | .characterSize => "Python int too large to convert to C int"
  | .notWhole base text =>
    s!"invalid literal for int() with base {base}: " ++ String.ofList (text.encode.take 200)
  | .tooManyDigits n =>
    s!"Exceeds the limit ({Text.maxDigits} digits) for integer string conversion: " ++
      s!"value has {n} digits; use sys.set_int_max_str_digits() to increase the limit"
  | .notNumber text => "could not convert string to float: " ++ String.ofList text.encode
  | .noNumber => "string index out of range"
  | .notTruth text => String.ofList text.encode
  | .notDate => "'NoneType' object has no attribute 'groupdict'"
  | .collectionForDate => "expected string or bytes-like object"
  | .date fault => fault.message

end SoloScenario.Markup

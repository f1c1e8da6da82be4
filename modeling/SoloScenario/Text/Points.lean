import SoloScenario.Text.Quoted

/-! Texts of code points. A code point is a character or one half of a character that
some encodings write as two; a half that stands alone can be neither printed nor put in
a file, and is shown by its number where it has to be shown. -/

namespace SoloScenario.Text

/-- A code point. -/
inductive Point where
  | char (c : Char)
  | half (n : Fin 0x800)
  deriving DecidableEq, Repr

/-- A text that may hold halves of characters. -/
abbrev Points := List Point

namespace Point

/-- The number of the first half. -/
def firstHalf : Nat := 0xd800

/-- The character that a code point is. -/
def char? : Point → Option Char
  | .char c => some c
  | .half _ => none

/-- A half by its number, and a character as it is. -/
def shown : Point → List Char
  | .char c => [c]
  | .half n => '\\' :: 'u' :: hexDigits 4 (firstHalf + n)

/-- The form of a code point between two of these quotes. -/
def escape (quote : Char) : Point → List Char
  | .char c => Quoted.escape quote c
  | p => p.shown

end Point

namespace Points

/-- The code points of a text. -/
def ofString (s : String) : Points := s.toList.map .char

/-- The characters of a text that holds no half. -/
def chars? (ps : Points) : Option (List Char) := ps.mapM Point.char?

/-- Whether a text holds no half. -/
def isWhole (ps : Points) : Bool := ps.chars?.isSome

/-- A text with its halves by their numbers. -/
def shown (ps : Points) : String := String.ofList (ps.flatMap Point.shown)

/-- The literal of a text. -/
def encode (ps : Points) : List Char :=
  let quote := Quoted.quoteFor (ps.filterMap Point.char?)
  quote :: (ps.flatMap (Point.escape quote) ++ [quote])

end Points

/-! ### Kinds of text -/

/-- A kind of text that values may hold. -/
class TextLike (T : Type) where
  ofString : String → T
  quoted : T → String
  /-- A text as a log shows it. -/
  shown : T → String

instance : TextLike String where
  ofString := id
  quoted := quoted
  shown := id

instance : TextLike Points where
  ofString := Points.ofString
  quoted ps := String.ofList ps.encode
  shown := Points.shown

@[simp] theorem ofString_string (s : String) : (TextLike.ofString s : String) = s := rfl

@[simp] theorem shown_string (s : String) : TextLike.shown s = s := rfl

end SoloScenario.Text

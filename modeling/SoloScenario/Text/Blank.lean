/-! Blank characters: those that Unicode counts as white space, and the four
information separators. -/

namespace SoloScenario.Text

/-- The code points of white space, as ranges with both ends included. -/
def blankRanges : List (Nat × Nat) :=
  [(0x09, 0x0d), (0x1c, 0x20), (0x85, 0x85), (0xa0, 0xa0), (0x1680, 0x1680), (0x2000, 0x200a),
    (0x2028, 0x2029), (0x202f, 0x202f), (0x205f, 0x205f), (0x3000, 0x3000)]

/-- White space of Unicode. -/
def isBlankChar (c : Char) : Bool :=
  blankRanges.any fun (low, high) => low ≤ c.toNat && c.toNat ≤ high

/-- A text of white space only; the empty text is one. -/
def isBlank (s : String) : Bool := s.toList.all isBlankChar

/-- The text without the white space at its two ends. -/
def trimBlank (cs : List Char) : List Char :=
  ((cs.dropWhile isBlankChar).reverse.dropWhile isBlankChar).reverse

example : blankRanges.foldl (fun n (low, high) => n + (high + 1 - low)) 0 = 29 := by decide

end SoloScenario.Text

/-! Lines of text. A document has lines ended by a line feed or a carriage
return; text at large also has the separators of Unicode, and a carriage return
followed by a line feed is one break. -/

namespace SoloScenario.Text

/-- The two characters that end a line of a document. -/
def isLineEnd (c : Char) : Bool := c = '\n' || c = '\r'

/-- Every character at which a line of text ends. -/
def isLineBoundary (c : Char) : Bool :=
  isLineEnd c || c = '\x0b' || c = '\x0c' || c = '\x1c' || c = '\x1d' || c = '\x1e' ||
    c = '\u0085' || c = '\u2028' || c = '\u2029'

/-- A text that does not stay on one line of a document. -/
def breaksLine (s : String) : Bool := s.toList.any isLineEnd

/-- The lines of a text without their ends. A final line end opens no further
line, so the empty text has none. -/
def splitLines : List Char → List (List Char)
  | [] => []
  | '\r' :: '\n' :: rest => [] :: splitLines rest
  | c :: rest =>
    if isLineBoundary c then [] :: splitLines rest
    else match splitLines rest with
      | [] => [[c]]
      | line :: lines => (c :: line) :: lines

/-- Writes every carriage return, alone or before a line feed, as one line feed. -/
def unifyLineEnds : List Char → List Char
  | [] => []
  | '\r' :: '\n' :: rest => '\n' :: unifyLineEnds rest
  | c :: rest => (if c = '\r' then '\n' else c) :: unifyLineEnds rest

theorem isLineBoundary_of_isLineEnd {c : Char} (h : isLineEnd c) : isLineBoundary c := by
  simp [isLineBoundary, h]

end SoloScenario.Text

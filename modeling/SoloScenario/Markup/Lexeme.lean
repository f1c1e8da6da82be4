import SoloScenario.Markup.Fault
import SoloScenario.Text.Utf8

/-! Lexemes of marked-up text. Each function reads one from the front of a text
and returns what it stands for with the rest of the text: scalars in their five
styles, names, tags and directives. -/

namespace SoloScenario.Markup

open Text

/-! ### Characters -/

/-- Characters that end a line. -/
def isBreak (c : Char) : Bool :=
  c = '\n' || c = '\r' || c = '\u0085' || c = '\u2028' || c = '\u2029'

/-- What a line end becomes within a scalar. -/
def breakChar (c : Char) : Char := if c = '\u2028' || c = '\u2029' then c else '\n'

def isSpaceOrTab (c : Char) : Bool := c = ' ' || c = '\t'

/-- Whether a text is at its end or starts with a line end. -/
def atLineEnd : List Char → Bool
  | [] => true
  | c :: _ => isBreak c

/-- Whether a text is at its end or starts with a space or a line end. -/
def atSpace : List Char → Bool
  | [] => true
  | c :: _ => c = ' ' || isBreak c

/-- Whether a text is at its end or starts with a space, a tab or a line end. -/
def atGap : List Char → Bool
  | [] => true
  | c :: _ => isSpaceOrTab c || isBreak c

/-- Whether a text starts with three of a character and a gap. -/
def atTriple (mark : Char) : List Char → Bool
  | a :: b :: c :: rest => a = mark && b = mark && c = mark && atGap rest
  | _ => false

def atDocumentMark (cs : List Char) : Bool := atTriple '-' cs || atTriple '.' cs

/-- Letters, digits, hyphen and underscore, of ASCII. -/
def isNameChar (c : Char) : Bool := c.isAlphanum || c = '-' || c = '_'

def isUriChar (c : Char) : Bool := c.isAlphanum || "-;/?:@&=+$,_.!~*'()[]%".toList.contains c

def skipSpaces (cs : List Char) : List Char := cs.dropWhile (· = ' ')

def skipComment : List Char → List Char
  | '#' :: rest => rest.dropWhile (!isBreak ·)
  | cs => cs

/-- The rest after the line end that a text starts with, if it does. -/
def skipBreak : List Char → List Char
  | '\r' :: '\n' :: rest => rest
  | c :: rest => if isBreak c then rest else c :: rest
  | [] => []

/-- The rest after a line that may hold only spaces and a comment. -/
def skipLine (cs : List Char) : Except Fault (List Char) :=
  let cs := skipComment (skipSpaces cs)
  if atLineEnd cs then .ok (skipBreak cs) else .error .malformed

/-- A name that is not empty. -/
def name (cs : List Char) : Except Fault (List Char × List Char) :=
  match cs.span isNameChar with
  | ([], _) => .error .malformed
  | r => .ok r

/-! ### Anchors, tags and directives -/

def anchorName (cs : List Char) : Except Fault (String × List Char) := do
  let (cs, rest) ← name cs
  let ended := match rest with
    | [] => true
    | c :: _ => atGap rest || "?:,]\x7d%@\x60".toList.contains c
  if ended then return (String.ofList cs, rest) else throw .malformed

/-- Bytes written as percent signs with two hexadecimal digits each. -/
def escapedBytes : List Char → Except Fault (List UInt8 × List Char)
  | '%' :: a :: b :: rest => do
    match hexDigit? a, hexDigit? b with
    | some m, some n =>
      let (bytes, rest) ← escapedBytes rest
      return (UInt8.ofNat (16 * m + n) :: bytes, rest)
    | _, _ => throw .malformed
  | '%' :: _ => throw .malformed
  | cs => return ([], cs)

def escapedText (bytes : List UInt8) : Except Fault (List Char) :=
  match Utf8.readPiece 0 bytes with
  | .ok (cs, []) => .ok cs
  | _ => .error .malformed

/-- The characters of an identifier, read with as much fuel as there are characters. -/
def uriChars : Nat → List Char → Except Fault (List Char × List Char)
  | 0, cs => .ok ([], cs)
  | fuel + 1, cs =>
    match cs with
    | [] => .ok ([], [])
    | c :: rest =>
      if c = '%' then do
        let (bytes, rest) ← escapedBytes cs
        let first ← escapedText bytes
        let (more, rest) ← uriChars fuel rest
        return (first ++ more, rest)
      else if isUriChar c then do
        let (more, rest) ← uriChars fuel rest
        return (c :: more, rest)
      else .ok ([], cs)

/-- An identifier that is not empty. -/
def uri (cs : List Char) : Except Fault (List Char × List Char) := do
  match ← uriChars cs.length cs with
  | ([], _) => throw .malformed
  | r => return r

/-- A tag handle: an exclamation mark, or a name between two. -/
def tagHandle : List Char → Except Fault (List Char × List Char)
  | '!' :: ' ' :: rest => .ok (['!'], ' ' :: rest)
  | '!' :: rest =>
    match rest.span isNameChar with
    | (cs, '!' :: rest) => .ok ('!' :: (cs ++ ['!']), rest)
    | _ => .error .malformed
  | _ => .error .malformed

/-- A tag: a handle and what follows it, or a whole identifier without one. -/
structure Tag where
  handle : Option String
  suffix : String
  deriving DecidableEq, Repr

def tag (cs : List Char) : Except Fault (Tag × List Char) := do
  let (tag, rest) ← match cs with
    | '!' :: '<' :: rest => do
      match ← uri rest with
      | (cs, '>' :: rest) => pure (Tag.mk none (String.ofList cs), rest)
      | _ => throw .malformed
    | '!' :: rest =>
      if atGap rest then pure (Tag.mk none "!", rest)
      else do
        let word := rest.takeWhile fun c => c ≠ ' ' && !isBreak c
        let (handle, rest) ← if word.contains '!' then tagHandle cs else pure (['!'], rest)
        let (suffix, rest) ← uri rest
        pure (Tag.mk (some (String.ofList handle)) (String.ofList suffix), rest)
    | _ => throw .malformed
  if atSpace rest then return (tag, rest) else throw .malformed

/-- An instruction to the reader of a document. -/
inductive Directive where
  | version (major : Nat)
  | tag (handle target : String)
  | other
  deriving DecidableEq, Repr

/-- A number of decimal digits that is not empty. -/
def number (cs : List Char) : Except Fault (Nat × List Char) :=
  match cs.span Char.isDigit with
  | ([], _) => .error .malformed
  | (ds, rest) => .ok (ofDecimal ds, rest)

/-- Reads a directive, after its percent sign, with its line. -/
def directive (cs : List Char) : Except Fault (Directive × List Char) := do
  let (word, rest) ← name cs
  if !atSpace rest then throw .malformed
  let (d, rest) ←
    if word = "YAML".toList then do
      let (major, rest) ← number (skipSpaces rest)
      match rest with
      | '.' :: rest =>
        let (_, rest) ← number rest
        if atSpace rest then pure (Directive.version major, rest) else throw .malformed
      | _ => throw .malformed
    else if word = "TAG".toList then do
      let (handle, rest) ← tagHandle (skipSpaces rest)
      match rest with
      | ' ' :: rest =>
        let (target, rest) ← uri (skipSpaces rest)
        if atSpace rest then
          pure (Directive.tag (String.ofList handle) (String.ofList target), rest)
        else throw .malformed
      | _ => throw .malformed
    else pure (Directive.other, rest.dropWhile (!isBreak ·))
  return (d, ← skipLine rest)

/-! ### Quoted scalars -/

/-- White space within a scalar, while it is not known whether a line ends in it. -/
inductive Gap where
  | none
  /-- Spaces and tabs on one line. -/
  | spaces (cs : List Char)
  /-- A line end and those after it. -/
  | lines (first : Char) (more : List Char)
  /-- The line ends after one that was escaped. -/
  | joined (more : List Char)

/-- The text that a gap between two words becomes: one line end is a space, and
of more all but the first are kept. -/
def Gap.text : Gap → List Char
  | .none => []
  | .spaces cs => cs
  | .lines first more =>
    (if first ≠ '\n' then [first] else if more.isEmpty then [' '] else []) ++ more
  | .joined more => more

def Gap.points (g : Gap) : Points := g.text.map .char

/-- The gap with one more space or tab, which counts only if no line end is before it. -/
def Gap.addSpace (c : Char) : Gap → Gap
  | .none => .spaces [c]
  | .spaces cs => .spaces (cs ++ [c])
  | g => g

def Gap.addBreak (c : Char) : Gap → Gap
  | .none | .spaces _ => .lines (breakChar c) []
  | .lines first more => .lines first (more ++ [breakChar c])
  | .joined more => .joined (more ++ [breakChar c])

/-- The character that a letter after a backslash stands for. -/
def escapeChar? : Char → Option Char
  | '0' => some '\x00'
  | 'a' => some '\x07'
  | 'b' => some '\x08'
  | 't' | '\t' => some '\t'
  | 'n' => some '\n'
  | 'v' => some '\x0b'
  | 'f' => some '\x0c'
  | 'r' => some '\r'
  | 'e' => some '\x1b'
  | ' ' => some ' '
  | '"' => some '"'
  | '\\' => some '\\'
  | '/' => some '/'
  | 'N' => some '\u0085'
  | '_' => some '\u00a0'
  | 'L' => some '\u2028'
  | 'P' => some '\u2029'
  | _ => none

/-- How many hexadecimal digits follow a letter after a backslash. -/
def escapeWidth? : Char → Option Nat
  | 'x' => some 2
  | 'u' => some 4
  | 'U' => some 8
  | _ => none

/-- The code point with a number. -/
def pointNumbered (n : Nat) : Except Fault Point :=
  if 0x7fffffff < n then .error .characterSize
  else if 0x10ffff < n then .error .characterRange
  else if Point.firstHalf ≤ n && n < Point.firstHalf + 0x800 then
    .ok (.half (Fin.ofNat 0x800 (n - Point.firstHalf)))
  else .ok (.char (Char.ofNat n))

/-- The code point that hexadecimal digits number, if they are as many as wanted. -/
def hexPoint (width : Nat) (cs : List Char) : Except Fault Point := do
  if cs.length < width then throw .malformed
  match cs.mapM hexDigit? with
  | some ds => pointNumbered (ds.foldl (16 * · + ·) 0)
  | none => throw .malformed

/-- Reads a quoted scalar, after its first quote: double quotes allow escapes,
and a single quote is written twice. -/
def quotedScalar (double : Bool) (gap : Gap) : List Char → Except Fault (Points × List Char)
  | [] => .error .malformed
  | c :: rest =>
    if isSpaceOrTab c then quotedScalar double (gap.addSpace c) rest
    else if isBreak c then
      if atDocumentMark rest then .error .malformed
      else quotedScalar double (gap.addBreak c) rest
    else if c = (if double then '"' else '\'') then
      if !double && rest.head? = some '\'' then do
        let (cs, rest) ← quotedScalar double .none (rest.drop 1)
        return (gap.points ++ .char '\'' :: cs, rest)
      else .ok (gap.points, rest)
    else if double && c = '\\' then
      match rest with
      | [] => .error .malformed
      | e :: rest => do
        match escapeChar? e, escapeWidth? e with
        | some d, _ =>
          let (cs, rest) ← quotedScalar double .none rest
          return (gap.points ++ .char d :: cs, rest)
        | none, some width =>
          let d ← hexPoint width (rest.take width)
          let (cs, rest) ← quotedScalar double .none (rest.drop width)
          return (gap.points ++ d :: cs, rest)
        | none, none =>
          if isBreak e && !atDocumentMark rest then
            let (cs, rest) ← quotedScalar double (.joined []) rest
            return (gap.points ++ cs, rest)
          else throw .malformed
    else do
      let (cs, rest) ← quotedScalar double .none rest
      return (gap.points ++ .char c :: cs, rest)
  termination_by cs => cs.length
  decreasing_by all_goals simp only [List.length_cons, List.length_drop]; omega

/-! ### Plain scalars -/

/-- Whether a plain scalar goes no further than a character, given the text after it. -/
def endsWord (flow : Bool) (c : Char) (rest : List Char) : Bool :=
  isSpaceOrTab c || isBreak c ||
    (c = ':' && (atGap rest || (flow && rest.head?.any (",[]\x7b\x7d".toList.contains ·)))) ||
    (flow && ",?[]\x7b\x7d".toList.contains c)

/-- The characters of a plain scalar up to the next gap. -/
def plainWord (flow : Bool) : List Char → List Char × List Char
  | [] => ([], [])
  | c :: rest =>
    if endsWord flow c rest then ([], c :: rest)
    else ((plainWord flow rest).map (c :: ·) id)

/-- What follows a word of a plain scalar. -/
structure PlainGap where
  /-- The text that the gap becomes; empty if nothing can follow it. -/
  text : List Char
  /-- Whether a line ends in the gap. -/
  broken : Bool
  /-- The number of spaces on the last line of the gap. -/
  column : Nat
  rest : List Char

/-- Reads the gap after a line end of a plain scalar. -/
def plainLines (first : Char) (more : List Char) (column : Nat) : List Char → PlainGap
  | [] => ⟨(Gap.lines first more).text, true, column, []⟩
  | c :: rest =>
    if c = ' ' then plainLines first more (column + 1) rest
    else if isBreak c then
      if atDocumentMark rest then ⟨[], true, 0, rest⟩
      else plainLines first (more ++ [breakChar c]) 0 rest
    else ⟨(Gap.lines first more).text, true, column, c :: rest⟩

/-- Reads the gap after a word of a plain scalar. -/
def plainGap (cs : List Char) : PlainGap :=
  let (spaces, rest) := cs.span (· = ' ')
  match rest with
  | [] => ⟨spaces, false, 0, []⟩
  | c :: after =>
    if isBreak c then
      if atDocumentMark after then ⟨[], true, 0, after⟩ else plainLines (breakChar c) [] 0 after
    else ⟨spaces, false, 0, rest⟩

/-- Reads the words after the first of a plain scalar, with as much fuel as there
are characters; and whether the scalar is followed by a line end. -/
def plainWords (flow : Bool) (indent : Int) : Nat → List Char → List Char × Bool × List Char
  | 0, cs => ([], false, cs)
  | fuel + 1, cs =>
    let gap := plainGap cs
    let stop := ([], gap.broken, gap.rest)
    if gap.text.isEmpty || gap.rest.head? = some '#' ||
        (!flow && gap.broken && (gap.column : Int) ≤ indent) then stop
    else match plainWord flow gap.rest with
      | ([], _) => stop
      | (word, rest) =>
        let (cs, broken, rest) := plainWords flow indent fuel rest
        (gap.text ++ word ++ cs, broken, rest)

/-- Reads a plain scalar within a block of this indentation. -/
def plainScalar (flow : Bool) (indent : Int) (cs : List Char) : List Char × Bool × List Char :=
  let (word, rest) := plainWord flow cs
  let (cs, broken, rest) := plainWords flow indent cs.length rest
  (word ++ cs, broken, rest)

/-! ### Block scalars -/

inductive Chomping where
  | strip | clip | keep
  deriving DecidableEq, Repr

def chomping? : Char → Option Chomping
  | '+' => some .keep
  | '-' => some .strip
  | _ => none

/-- The indicators after the mark of a block scalar: chomping and indentation, in either order. -/
def blockHeader (cs : List Char) : Except Fault ((Chomping × Option Nat) × List Char) := do
  let digit (cs : List Char) : Except Fault (Option Nat × List Char) :=
    match cs with
    | c :: rest =>
      if c = '0' then throw .malformed
      else if c.isDigit then pure (some (c.toNat - '0'.toNat), rest) else pure (none, cs)
    | [] => pure (none, cs)
  let mark (cs : List Char) : Option Chomping × List Char :=
    match cs.head?.bind chomping? with
    | some m => (some m, cs.drop 1)
    | none => (none, cs)
  let (before, rest) := mark cs
  let (width, rest) ← digit rest
  let (after, rest) := if before.isNone && width.isSome then mark rest else (none, rest)
  if atSpace rest then return ((((before.or after).getD .clip), width), rest)
  else throw .malformed

/-- Skips line ends, and the spaces before and between them up to an indentation.
Returns the line ends, the column that is reached and the rest. -/
def blockBreaks (indent column : Nat) : List Char → List Char × Nat × List Char
  | [] => ([], column, [])
  | c :: rest =>
    if c = ' ' && column < indent then blockBreaks indent (column + 1) rest
    else if isBreak c then
      let (breaks, column, rest) := blockBreaks indent 0 rest
      (breakChar c :: breaks, column, rest)
    else ([], column, c :: rest)

/-- Skips line ends and spaces. Returns the line ends, the largest and the last
column that is reached, and the rest. -/
def blockIndentation (largest column : Nat) : List Char → List Char × Nat × Nat × List Char
  | [] => ([], largest, column, [])
  | c :: rest =>
    if c = ' ' then blockIndentation (max largest (column + 1)) (column + 1) rest
    else if isBreak c then
      let (breaks, largest, column, rest) := blockIndentation largest 0 rest
      (breakChar c :: breaks, largest, column, rest)
    else ([], largest, column, c :: rest)

/-- The lines of a block scalar: their text, the line end of the last of them,
the line ends after it, and the rest. -/
structure BlockLines where
  text : List Char
  lastBreak : List Char
  breaks : List Char
  rest : List Char

/-- Reads the lines of a block scalar from its indentation on, with as much fuel
as there are characters. In a folded scalar a single line end between two lines
that start with neither space nor tab is a space, and of more one is dropped. -/
def blockLines (folded : Bool) (indent : Nat) : Nat → List Char → BlockLines
  | 0, cs => ⟨[], [], [], cs⟩
  | fuel + 1, cs =>
    let (line, rest) := cs.span (!isBreak ·)
    let lineBreak := (rest.head?.map breakChar).toList
    let (breaks, column, rest) := blockBreaks indent 0 (skipBreak rest)
    if column = indent && !rest.isEmpty && !lineBreak.isEmpty then
      let folds := folded && lineBreak = ['\n'] && !line.head?.any isSpaceOrTab &&
        !rest.head?.any isSpaceOrTab
      let join := if !folds then lineBreak else if breaks.isEmpty then [' '] else []
      let more := blockLines folded indent fuel rest
      { more with text := line ++ join ++ breaks ++ more.text }
    else ⟨line, lineBreak, breaks, rest⟩

/-- Reads a block scalar, after its mark, within a block of this indentation. -/
def blockScalar (folded : Bool) (indent : Int) (cs : List Char) :
    Except Fault (List Char × List Char) := do
  let ((chomping, width), rest) ← blockHeader cs
  let rest ← skipLine rest
  let least := (max (indent + 1) 1).toNat
  let (breaks, indent, column, rest) :=
    match width with
    | some n =>
      let indent := least + n - 1
      let (breaks, column, rest) := blockBreaks indent 0 rest
      (breaks, indent, column, rest)
    | none =>
      let (breaks, largest, column, rest) := blockIndentation 0 0 rest
      (breaks, max least largest, column, rest)
  let lines : BlockLines :=
    if column = indent && !rest.isEmpty then
      let lines := blockLines folded indent rest.length rest
      { lines with text := breaks ++ lines.text }
    else ⟨[], [], breaks, rest⟩
  let ending := match chomping with
    | .strip => []
    | .clip => lines.lastBreak
    | .keep => lines.lastBreak ++ lines.breaks
  return (lines.text ++ ending, lines.rest)

end SoloScenario.Markup

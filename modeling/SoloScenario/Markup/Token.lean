import SoloScenario.Markup.Lexeme

/-! Tokens of marked-up text. Block structure shows in indentation: a block
opens where an entry or a key stands further right than the block around it, and
ends where a line starts further left. A key is recognised only by the colon
after it, so its mark is inserted before tokens that have already been read. -/

namespace SoloScenario.Markup

open Text

/-- A token. The last one of a text is the end of the text or a fault. -/
inductive Token where
  | directive (d : Directive)
  | documentStart | documentEnd | textEnd
  | blockListStart | blockMapStart | blockEnd
  | flowListStart | flowListEnd | flowMapStart | flowMapEnd
  | blockEntry | flowEntry
  | key | value
  | alias (name : String)
  | anchor (name : String)
  | tag (tag : Tag)
  | scalar (plain : Bool) (text : Points)
  | broken (fault : Fault)
  deriving DecidableEq, Repr

/-- A token that a colon may turn out to have been a key. -/
structure KeyCandidate where
  token : Nat
  /-- Whether its place in the block allows nothing but a key. -/
  required : Bool
  index : Nat
  line : Nat
  column : Nat

/-- A key starts on the line of its colon and at most 1024 characters before it. -/
def KeyCandidate.isStale (k : KeyCandidate) (line index : Nat) : Bool :=
  k.line ≠ line || 1024 < index - k.index

/-- Where the reading of tokens stands. -/
structure Lexer where
  rest : List Char
  /-- The characters before the rest. -/
  index : Nat
  line : Nat
  column : Nat
  /-- The number of open brackets. -/
  flow : Nat
  /-- The column of the innermost open block, -1 outside of all. -/
  indent : Int
  /-- The columns of the blocks around it, from the inside out. -/
  outer : List Int
  /-- Whether a key may start at the next token. -/
  keyAllowed : Bool
  /-- The candidate of the innermost brackets, then those of the brackets around them. -/
  candidates : List (Option KeyCandidate)
  tokens : Array Token

namespace Lexer

def start (cs : List Char) : Lexer :=
  { rest := cs, index := 0, line := 0, column := 0, flow := 0, indent := -1, outer := []
    keyAllowed := true, candidates := [none], tokens := #[] }

/-- The rest, line and column after moving over so many characters. A byte order
mark takes up no column. -/
def walk : Nat → List Char → Nat → Nat → List Char × Nat × Nat
  | 0, cs, line, column => (cs, line, column)
  | _ + 1, [], line, column => ([], line, column)
  | n + 1, c :: rest, line, column =>
    if c = '\r' && rest.head? = some '\n' then walk n rest line (column + 1)
    else if isBreak c then walk n rest (line + 1) 0
    else walk n rest line (if c = '\ufeff' then column else column + 1)

def forward (lx : Lexer) (n : Nat) : Lexer :=
  let (rest, line, column) := walk n lx.rest lx.line lx.column
  { lx with rest := rest, index := lx.index + n, line := line, column := column }

def moveTo (lx : Lexer) (rest : List Char) : Lexer :=
  lx.forward (lx.rest.length - rest.length)

def push (lx : Lexer) (t : Token) : Lexer := { lx with tokens := lx.tokens.push t }

/-! ### Keys and blocks -/

/-- Drops a candidate, unless its place allows nothing but a key. -/
def dropCandidate : Option KeyCandidate → Except Fault (Option KeyCandidate)
  | some k => if k.required then .error .malformed else .ok none
  | none => .ok none

/-- Drops the candidates that no colon can reach any more. -/
def dropStale (lx : Lexer) : Except Fault Lexer := do
  let candidates ← lx.candidates.mapM fun k =>
    if k.any fun k => k.isStale lx.line lx.index then dropCandidate k else pure k
  return { lx with candidates := candidates }

/-- Drops the candidate of the innermost brackets. -/
def dropCurrent (lx : Lexer) : Except Fault Lexer := do
  match lx.candidates with
  | k :: rest => return { lx with candidates := (← dropCandidate k) :: rest }
  | [] => return lx

/-- Makes the next token a candidate where a key may start. -/
def saveCandidate (lx : Lexer) : Except Fault Lexer := do
  if lx.keyAllowed then
    let lx ← lx.dropCurrent
    let required := lx.flow = 0 && lx.indent = lx.column
    let k : KeyCandidate := ⟨lx.tokens.size, required, lx.index, lx.line, lx.column⟩
    return { lx with candidates := some k :: lx.candidates.drop 1 }
  else return lx

/-- Ends the open blocks that stand to the right of a column. -/
def endBlocks (column : Int) (lx : Lexer) : Lexer :=
  go lx.indent lx.outer lx
where
  /-- Ends the innermost block, then those around it. -/
  go (indent : Int) : List Int → Lexer → Lexer
    | [], lx => { lx with indent := indent, outer := [] }
    | next :: outer, lx =>
      if column < indent then go next outer (lx.push .blockEnd)
      else { lx with indent := indent, outer := next :: outer }

/-- Ends blocks, which brackets suspend. -/
def unwind (column : Int) (lx : Lexer) : Lexer := if lx.flow = 0 then lx.endBlocks column else lx

/-- Opens a block at a column to the right of the innermost one. Its mark goes
before the token with the given number. -/
def openBlock (lx : Lexer) (column : Nat) (mark : Token) (place : Nat) : Lexer :=
  if lx.indent < column then
    { lx with
      indent := column, outer := lx.indent :: lx.outer
      tokens := lx.tokens.insertIdxIfInBounds place mark }
  else lx

/-! ### Reading one token -/

/-- Skips spaces, comments and line ends. Tells whether there was a line end. -/
def skipGap (comment broken : Bool) : List Char → Bool × List Char
  | [] => (broken, [])
  | c :: rest =>
    if isBreak c then skipGap false true rest
    else if comment || c = '#' then skipGap true broken rest
    else if c = ' ' then skipGap false broken rest
    else (broken, c :: rest)

def toToken (lx : Lexer) : Lexer :=
  let cs := if lx.index = 0 && lx.rest.head? = some '\ufeff' then lx.rest.drop 1 else lx.rest
  let (broken, rest) := skipGap false false cs
  let lx := lx.moveTo rest
  if broken && lx.flow = 0 then { lx with keyAllowed := true } else lx

/-- Ends all blocks and the candidate before a token that belongs to no block. -/
def leaveBlocks (lx : Lexer) : Except Fault Lexer := do
  let lx ← (lx.unwind (-1)).dropCurrent
  return { lx with keyAllowed := false }

def documentMark (lx : Lexer) (t : Token) : Except Fault Lexer := do
  return ((← lx.leaveBlocks).forward 3).push t

def openBracket (lx : Lexer) (t : Token) : Except Fault Lexer := do
  let lx ← lx.saveCandidate
  let lx := (lx.forward 1).push t
  return { lx with flow := lx.flow + 1, keyAllowed := true, candidates := none :: lx.candidates }

def closeBracket (lx : Lexer) (t : Token) : Except Fault Lexer := do
  if lx.flow = 0 then throw .malformed
  let lx ← lx.dropCurrent
  let lx := (lx.forward 1).push t
  return { lx with flow := lx.flow - 1, keyAllowed := false, candidates := lx.candidates.drop 1 }

/-- Reads the comma between two entries in brackets. -/
def flowEntry (lx : Lexer) : Except Fault Lexer := do
  let lx ← lx.dropCurrent
  let lx := (lx.forward 1).push .flowEntry
  return { lx with keyAllowed := true }

/-- Opens a block for an entry or a key that stands at the current column. -/
def openHere (lx : Lexer) (mark : Token) : Except Fault Lexer := do
  if lx.flow ≠ 0 then return lx
  else if lx.keyAllowed then return lx.openBlock lx.column mark lx.tokens.size
  else throw .malformed

def blockEntry (lx : Lexer) : Except Fault Lexer := do
  let lx ← (← lx.openHere .blockListStart).dropCurrent
  let lx := (lx.forward 1).push .blockEntry
  return { lx with keyAllowed := true }

def explicitKey (lx : Lexer) : Except Fault Lexer := do
  let lx ← (← lx.openHere .blockMapStart).dropCurrent
  let lx := (lx.forward 1).push .key
  return { lx with keyAllowed := lx.flow = 0 }

/-- Reads the colon between a key and its value. A candidate becomes a key. -/
def colon (lx : Lexer) : Except Fault Lexer := do
  match lx.candidates with
  | some k :: rest =>
    let lx := { lx with
      candidates := none :: rest
      tokens := lx.tokens.insertIdxIfInBounds k.token .key }
    let lx := if lx.flow = 0 then lx.openBlock k.column .blockMapStart k.token else lx
    let lx := (lx.forward 1).push .value
    return { lx with keyAllowed := false }
  | _ =>
    let lx ← (← lx.openHere .blockMapStart).dropCurrent
    let lx := (lx.forward 1).push .value
    return { lx with keyAllowed := lx.flow = 0 }

/-- Reads a token that may be a key: a scalar in quotes, an alias, an anchor or a tag. -/
def lexeme {α : Type} (lx : Lexer) (read : List Char → Except Fault (α × List Char))
    (token : α → Token) : Except Fault Lexer := do
  let lx ← lx.saveCandidate
  let (a, rest) ← read lx.rest
  let lx := (lx.moveTo rest).push (token a)
  return { lx with keyAllowed := false }

/-- Reads a block scalar, which is never a key. -/
def block (lx : Lexer) (folded : Bool) : Except Fault Lexer := do
  let lx ← lx.dropCurrent
  let (cs, rest) ← blockScalar folded lx.indent (lx.rest.drop 1)
  let lx := (lx.moveTo rest).push (.scalar false (cs.map .char))
  return { lx with keyAllowed := true }

def plain (lx : Lexer) : Except Fault Lexer := do
  let lx ← lx.saveCandidate
  let (cs, broken, rest) := plainScalar (lx.flow ≠ 0) lx.indent lx.rest
  let lx := (lx.moveTo rest).push (.scalar true (cs.map .char))
  return { lx with keyAllowed := broken }

/-- Whether a plain scalar may start with a character, given the text after it. -/
def startsPlain (flow : Bool) (c : Char) (rest : List Char) : Bool :=
  !(isSpaceOrTab c || isBreak c || "-?:,[]\x7b\x7d#&*!|>'\"%@\x60".toList.contains c) ||
    (!atGap rest && (c = '-' || (!flow && (c = '?' || c = ':'))))

/-- Whether a colon or a question mark is a mark, given the text after it. -/
def isMark (lx : Lexer) (rest : List Char) : Bool := lx.flow ≠ 0 || atGap rest

/-- Reads the token that starts with a character. -/
def token (lx : Lexer) (c : Char) (rest : List Char) : Except Fault Lexer :=
  if c = '%' && lx.column = 0 then do
    let lx ← lx.leaveBlocks
    let (d, rest) ← directive rest
    return (lx.moveTo rest).push (.directive d)
  else if lx.column = 0 && atTriple '-' lx.rest then lx.documentMark .documentStart
  else if lx.column = 0 && atTriple '.' lx.rest then lx.documentMark .documentEnd
  else match c with
    | '[' => lx.openBracket .flowListStart
    | '{' => lx.openBracket .flowMapStart
    | ']' => lx.closeBracket .flowListEnd
    | '}' => lx.closeBracket .flowMapEnd
    | ',' => lx.flowEntry
    | '*' => lx.lexeme (fun cs => anchorName (cs.drop 1)) .alias
    | '&' => lx.lexeme (fun cs => anchorName (cs.drop 1)) .anchor
    | '!' => lx.lexeme tag .tag
    | '\'' => lx.lexeme (fun cs => quotedScalar false .none (cs.drop 1)) (.scalar false)
    | '"' => lx.lexeme (fun cs => quotedScalar true .none (cs.drop 1)) (.scalar false)
    | c =>
      if c = '-' && atGap rest then lx.blockEntry
      else if c = '?' && lx.isMark rest then lx.explicitKey
      else if c = ':' && lx.isMark rest then lx.colon
      else if c = '|' && lx.flow = 0 then lx.block false
      else if c = '>' && lx.flow = 0 then lx.block true
      else if startsPlain (lx.flow ≠ 0) c rest then lx.plain
      else throw .malformed

/-- Reads the next token, or the end of the text with all that it ends. -/
def next (lx : Lexer) : Except Fault (Lexer × Bool) := do
  let lx ← lx.toToken.dropStale
  let lx := lx.unwind lx.column
  match lx.rest with
  | [] =>
    let lx ← lx.leaveBlocks
    return (lx.push .textEnd, true)
  | c :: rest => return (← lx.token c rest, false)

/-- The number of tokens before the first that a colon may still turn into a key. -/
def settled (lx : Lexer) : Nat :=
  let live := (lx.candidates.filterMap id).filter fun k => !k.isStale lx.line lx.index
  live.foldl (fun n k => min n k.token) lx.tokens.size

/-- The tokens of a text that has a fault: only those that were settled by then count. -/
def breakOff (lx : Lexer) (fault : Fault) : Array Token :=
  (lx.tokens.take lx.settled).push (.broken fault)

/-- Reads tokens up to the end or the first fault, with fuel for each of them. -/
def run : Nat → Lexer → Array Token
  | 0, lx => lx.breakOff .malformed
  | fuel + 1, lx =>
    match lx.next with
    | .error fault => lx.breakOff fault
    | .ok (lx, true) => lx.tokens
    | .ok (lx, false) => run fuel lx

end Lexer

/-- The tokens of a text. Each takes up at least one character, but for the end. -/
def tokens (cs : List Char) : List Token := (Lexer.run (cs.length + 1) (.start cs)).toList

end SoloScenario.Markup

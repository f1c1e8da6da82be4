import SoloScenario.Text.Digits

/-! Reading UTF-8 in blocks. A sequence cut by the end of a block is carried
over to the next, and a fault is placed by its distance from the start of the
piece that is being read: the carried bytes and the block. -/

namespace SoloScenario.Text.Utf8

inductive FaultKind where
  | invalidStart | invalidContinuation | unexpectedEnd
  deriving DecidableEq, Repr

/-- A faulty sequence: its first byte and the positions from its first byte to past its last. -/
structure Fault where
  kind : FaultKind
  byte : UInt8
  start : Nat
  stop : Nat
  deriving DecidableEq, Repr

def FaultKind.text : FaultKind → String
  | .invalidStart => "invalid start byte"
  | .invalidContinuation => "invalid continuation byte"
  | .unexpectedEnd => "unexpected end of data"

/-- The report of a fault: one byte is shown, several are only placed. -/
def Fault.message (f : Fault) : String :=
  let place :=
    if f.stop = f.start + 1 then
      s!"byte 0x{String.ofList (hexDigits 2 f.byte.toNat)} in position {f.start}"
    else s!"bytes in position {f.start}-{f.stop - 1}"
  s!"'utf-8' codec can't decode {place}: {f.kind.text}"

/-- What the first bytes of a piece hold. -/
inductive Step where
  | char (c : Char) (size : Nat)
  | cut
  | bad (kind : FaultKind) (size : Nat)

/-- A byte that continues a sequence. -/
def isContinuation (b : UInt8) : Bool := 0x80 ≤ b && b < 0xc0

/-- A second byte that some character has after this first one. -/
def isSecond (first second : UInt8) : Bool :=
  isContinuation second &&
    (if first = 0xe0 then 0xa0 ≤ second
     else if first = 0xed then second < 0xa0
     else if first = 0xf0 then 0x90 ≤ second
     else if first = 0xf4 then second < 0x90
     else true)

/-- The low six bits that a continuation byte adds to the bits before it. -/
def extend (bits : Nat) (b : UInt8) : Nat := 64 * bits + b.toNat % 64

/-- The first two bytes of a surrogate, which no text may hold. -/
def opensSurrogate (first second : UInt8) : Bool :=
  first = 0xed && 0xa0 ≤ second && isContinuation second

/-- Reads the character that starts with a byte. A surrogate is only refused
once a third byte follows its first two. -/
def step (b : UInt8) (rest : List UInt8) : Step :=
  if b < 0x80 then .char (Char.ofNat b.toNat) 1
  else if b < 0xc2 then .bad .invalidStart 1
  else if b < 0xe0 then
    match rest with
    | [] => .cut
    | c :: _ =>
      if isContinuation c then .char (Char.ofNat (extend (b.toNat % 32) c)) 2
      else .bad .invalidContinuation 1
  else if b < 0xf0 then
    match rest with
    | [] => .cut
    | c :: more =>
      if opensSurrogate b c && more.isEmpty then .cut
      else if !isSecond b c then .bad .invalidContinuation 1
      else match more with
        | [] => .cut
        | d :: _ =>
          if isContinuation d then .char (Char.ofNat (extend (extend (b.toNat % 16) c) d)) 3
          else .bad .invalidContinuation 2
  else if b < 0xf5 then
    match rest with
    | [] => .cut
    | c :: more =>
      if !isSecond b c then .bad .invalidContinuation 1
      else match more with
        | [] => .cut
        | d :: last =>
          if !isContinuation d then .bad .invalidContinuation 2
          else match last with
            | [] => .cut
            | e :: _ =>
              if isContinuation e then
                .char (Char.ofNat (extend (extend (extend (b.toNat % 8) c) d) e)) 4
              else .bad .invalidContinuation 3
  else .bad .invalidStart 1

/-- Reads a piece from a position on: its characters, and the bytes of a
sequence that its end cuts off. -/
def readPiece (position : Nat) : List UInt8 → Except Fault (List Char × List UInt8)
  | [] => .ok ([], [])
  | b :: rest =>
    match step b rest with
    | .cut => .ok ([], b :: rest)
    | .bad kind size => .error ⟨kind, b, position, position + size⟩
    | .char c size => do
      let (cs, cut) ← readPiece (position + size) (rest.drop (size - 1))
      return (c :: cs, cut)
  termination_by bytes => bytes.length
  decreasing_by simp only [List.length_drop, List.length_cons]; omega

def blockSize : Nat := 8192

/-- The fault of a sequence that the end of the last block cuts off. -/
def cutFault (b : UInt8) (rest : List UInt8) : Fault :=
  if rest.any (opensSurrogate b) then ⟨.invalidContinuation, b, 0, 1⟩
  else ⟨.unexpectedEnd, b, 0, rest.length + 1⟩

/-- Reads the bytes that follow a sequence cut by the end of the block before. -/
def readBlocks (cut : List UInt8) : List UInt8 → Except Fault (List Char)
  | [] =>
    match cut with
    | [] => .ok []
    | b :: rest => .error (cutFault b rest)
  | b :: rest => do
    let block := b :: rest.take (blockSize - 1)
    let (cs, cut) ← readPiece 0 (cut ++ block)
    let more ← readBlocks cut (rest.drop (blockSize - 1))
    return cs ++ more
  termination_by bytes => bytes.length
  decreasing_by simp only [List.length_drop, List.length_cons]; omega

/-- The characters that bytes spell in UTF-8. -/
def decode (bytes : List UInt8) : Except Fault (List Char) := readBlocks [] bytes

end SoloScenario.Text.Utf8

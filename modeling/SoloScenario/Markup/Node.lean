import SoloScenario.Markup.Token

/-! Nodes of marked-up text: scalars, lists and mappings with their tags, before
it is decided which values they stand for. A list or a mapping has a number; an
alias of one refers to it by number, so that it may refer to one that holds it. -/

namespace SoloScenario.Markup

/-- A node. A plain scalar and one with the tag `!` may stand for any kind of
value; another one without a tag is a text. -/
inductive Node where
  | scalar (tag : Option String) (plain : Bool) (text : Text.Points)
  | list (id : Nat) (tag : Option String) (items : List Node)
  | map (id : Nat) (tag : Option String) (entries : List (Node × Node))
  | ref (id : Nat)
  deriving Repr, Inhabited

/-- The node of a scalar that is left out. -/
def Node.missing : Node := .scalar none true []

/-- A document: its node, and the lists and mappings with an anchor by number. -/
structure Document where
  root : Node
  anchored : List (Nat × Node)

namespace Node

/-- What has been gathered while nodes are read from tokens. -/
structure Reading where
  tokens : List Token
  handles : List (String × String)
  /-- The nodes that anchors name. -/
  anchors : List (String × Node)
  anchored : List (Nat × Node)
  nextId : Nat

/-- A step of reading nodes. -/
abbrev Reader := StateT Reading (Except Fault)

/-- The next token, which a fault never is. -/
def peek : Reader Token := do
  match (← get).tokens with
  | .broken fault :: _ => throw fault
  | t :: _ => return t
  | [] => throw .malformed

def advance : Reader Unit := modify fun r => { r with tokens := r.tokens.drop 1 }

/-- Drops the next token if it is the given one. -/
def accept (t : Token) : Reader Bool := do
  if (← peek) = t then do advance; return true
  else return false

/-- Drops the next token, which has to be the given one. -/
def expect (t : Token) : Reader Unit := do
  if !(← accept t) then throw .malformed

def fresh : Reader Nat := do
  let r ← get
  set { r with nextId := r.nextId + 1 }
  return r.nextId

/-- An anchor and a tag, in either order. -/
def properties : Reader (Option String × Option Tag) := do
  let anchor : Reader (Option String) := do
    match ← peek with
    | .anchor name => advance; return some name
    | _ => return none
  let tag : Reader (Option Tag) := do
    match ← peek with
    | .tag t => advance; return some t
    | _ => return none
  match ← anchor with
  | some name => return (some name, ← tag)
  | none =>
    match ← tag with
    | some t => return (← anchor, some t)
    | none => return (none, none)

def resolveTag : Option Tag → Reader (Option String)
  | none => return none
  | some ⟨none, suffix⟩ => return some suffix
  | some ⟨some handle, suffix⟩ => do
    match (← get).handles.lookup handle with
    | some target => return some (target ++ suffix)
    | none => throw .malformed

/-- Names a node, if it has an anchor. -/
def name (anchor : Option String) (n : Node) : Reader Node := do
  if let some a := anchor then
    modify fun r => { r with anchors := (a, n) :: r.anchors }
  return n

/-- Reads a list or a mapping with a fresh number. Its anchor can be used inside it. -/
def container (anchor : Option String) (read : Nat → Reader Node) : Reader Node := do
  let id ← fresh
  discard (name anchor (.ref id))
  let n ← read id
  if anchor.isSome then
    modify fun r => { r with anchored := (id, n) :: r.anchored }
  return n

/-- Where a node may be: which kinds of blocks may start there. -/
inductive Place where
  | flow | block | blockOrEntries
  deriving DecidableEq

mutual

def read : Nat → Place → Reader Node
  | 0, _ => throw .malformed
  | fuel + 1, place => do
    if let .alias a := ← peek then
      advance
      match (← get).anchors.lookup a with
      | some n => return n
      | none => throw .malformed
    let (anchor, tag) ← properties
    let tag ← resolveTag tag
    let next ← peek
    if let some a := anchor then
      if ((← get).anchors.lookup a).isSome then throw .malformed
    match next with
    | .blockEntry =>
      if place = .blockOrEntries then
        container anchor fun id => return .list id tag (← entries fuel)
      else bare anchor tag
    | .scalar plain text => do
      advance
      name anchor (.scalar tag plain text)
    | .flowListStart => do
      advance
      container anchor fun id => return .list id tag (← flowList fuel true)
    | .flowMapStart => do
      advance
      container anchor fun id => return .map id tag (← flowMap fuel true)
    | .blockListStart =>
      if place = .flow then bare anchor tag
      else do
        advance
        container anchor fun id => return .list id tag (← blockList fuel)
    | .blockMapStart =>
      if place = .flow then bare anchor tag
      else do
        advance
        container anchor fun id => return .map id tag (← blockMap fuel)
    | _ => bare anchor tag

/-- A node that is an anchor or a tag only. -/
def bare (anchor tag : Option String) : Reader Node := do
  if anchor.isNone && tag.isNone then throw .malformed
  name anchor (.scalar tag true [])

/-- Reads a node unless one of these tokens shows that it is left out. -/
def readUnless : Nat → Place → List Token → Reader Node
  | 0, _, _ => throw .malformed
  | fuel + 1, place, stops => do
    if stops.contains (← peek) then return .missing
    else read fuel place

/-- Reads the entries of a list that stand in a block of their own, with its end. -/
def blockList : Nat → Reader (List Node)
  | 0 => throw .malformed
  | fuel + 1 => do
    if ← accept .blockEntry then
      let item ← readUnless fuel .block [.blockEntry, .blockEnd]
      return item :: (← blockList fuel)
    else
      expect .blockEnd
      return []

/-- Reads the entries of a list that stand at the column of the key before them. -/
def entries : Nat → Reader (List Node)
  | 0 => throw .malformed
  | fuel + 1 => do
    if ← accept .blockEntry then
      let item ← readUnless fuel .block [.blockEntry, .key, .value, .blockEnd]
      return item :: (← entries fuel)
    else return []

/-- Reads the entries of a mapping in a block, with its end. -/
def blockMap : Nat → Reader (List (Node × Node))
  | 0 => throw .malformed
  | fuel + 1 => do
    match ← peek with
    | .blockEnd => advance; return []
    | .key =>
      advance
      let key ← readUnless fuel .blockOrEntries [.key, .value, .blockEnd]
      let value ← if ← accept .value then
          readUnless fuel .blockOrEntries [.key, .value, .blockEnd]
        else pure .missing
      return (key, value) :: (← blockMap fuel)
    | _ => throw .malformed

def flowList : Nat → Bool → Reader (List Node)
  | 0, _ => throw .malformed
  | fuel + 1, first => do
    if ← accept .flowListEnd then return []
    if !first then expect .flowEntry
    match ← peek with
    | .flowListEnd => advance; return []
    | .key =>
      advance
      let id ← fresh
      let key ← readUnless fuel .flow [.value, .flowEntry, .flowListEnd]
      let value ← if ← accept .value then
          readUnless fuel .flow [.flowEntry, .flowListEnd]
        else pure .missing
      return .map id none [(key, value)] :: (← flowList fuel false)
    | _ =>
      let item ← read fuel .flow
      return item :: (← flowList fuel false)

def flowMap : Nat → Bool → Reader (List (Node × Node))
  | 0, _ => throw .malformed
  | fuel + 1, first => do
    if ← accept .flowMapEnd then return []
    if !first then expect .flowEntry
    match ← peek with
    | .flowMapEnd => advance; return []
    | .key =>
      advance
      let key ← readUnless fuel .flow [.value, .flowEntry, .flowMapEnd]
      let value ← if ← accept .value then
          readUnless fuel .flow [.flowEntry, .flowMapEnd]
        else pure .missing
      return (key, value) :: (← flowMap fuel false)
    | _ =>
      let key ← read fuel .flow
      return (key, .missing) :: (← flowMap fuel false)

end

def defaultHandles : List (String × String) := [("!", "!"), ("!!", "tag:yaml.org,2002:")]

/-- The directives at the front of a document: the handles they declare, and the
rest. A version is declared once and its first number is one; a handle is
declared once. -/
def directives (version : Bool) (handles : List (String × String)) :
    List Token → Except Fault (List (String × String) × List Token)
  | .directive d :: rest =>
    match d with
    | .version major =>
      if version || major ≠ 1 then .error .malformed else directives true handles rest
    | .tag handle target =>
      if (handles.lookup handle).isSome then .error .malformed
      else directives version ((handle, target) :: handles) rest
    | .other => directives version handles rest
  | ts => .ok (handles ++ defaultHandles, ts)

def atTextEnd : List Token → Except Fault Unit
  | .documentEnd :: rest => atTextEnd rest
  | [.textEnd] => .ok ()
  | .broken fault :: _ => .error fault
  | _ => .error .malformed

/-- Reads the root of a document from tokens. -/
def readRoot (handles : List (String × String)) (ts : List Token) :
    Except Fault (Document × List Token) := do
  let (root, r) ← (read (4 * ts.length + 4) .block).run ⟨ts, handles, [], [], 0⟩
  return (⟨root, r.anchored⟩, r.tokens)

/-- The one document that tokens make up, if they make up any. -/
def ofTokens (ts : List Token) : Except Fault (Option Document) := do
  match ts with
  | [.textEnd] => return none
  | .directive _ :: _ | .documentStart :: _ =>
    let (handles, rest) ← directives false [] ts
    match rest with
    | .documentStart :: rest =>
      match rest with
      | .directive _ :: _ | .documentStart :: _ | .documentEnd :: _ | .textEnd :: _ =>
        atTextEnd rest
        return some ⟨.missing, []⟩
      | _ =>
        let (d, rest) ← readRoot handles rest
        atTextEnd rest
        return some d
    | .broken fault :: _ => throw fault
    | _ => throw .malformed
  | _ =>
    let (d, rest) ← readRoot defaultHandles ts
    atTextEnd rest
    return some d

end Node

end SoloScenario.Markup

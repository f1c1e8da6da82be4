import SoloScenario.Markup.Node
import SoloScenario.Markup.Scalar

/-! The value of a marked-up text. Containers are filled level by level, so of
several faults the one at the least depth counts, and of those the first. An
alias is the container that it names; a container that is met again inside
itself ends the value there. -/

namespace SoloScenario.Markup

open Text

/-- A value that nodes stand for, and the faults met on the way with their depths. -/
structure Loaded where
  value : Value Points
  faults : List (Nat × Fault)

namespace Loaded

def ok (v : Value Points) : Loaded := ⟨v, []⟩

def fault (depth : Nat) (f : Fault) : Loaded := ⟨.null, [(depth, f)]⟩

def ofExcept {α : Type} (depth : Nat) (make : α → Value Points) : Except Fault α → Loaded
  | .ok a => ok (make a)
  | .error f => fault depth f

/-- The first of the faults at the least depth. -/
def firstFault : List (Nat × Fault) → Option (Nat × Fault)
  | [] => none
  | f :: rest =>
    match firstFault rest with
    | some g => if g.1 < f.1 then some g else some f
    | none => some f

def result (l : Loaded) : Except Fault (Value Points) :=
  match firstFault l.faults with
  | some (_, f) => .error f
  | none => .ok l.value

end Loaded

namespace Node

/-- The full name of a tag of the standard kinds. -/
def standard (name : String) : String := "tag:yaml.org,2002:" ++ name

def kindTag : ScalarKind → String
  | .truth => standard "bool"
  | .float => standard "float"
  | .whole => standard "int"
  | .merge => standard "merge"
  | .null => standard "null"
  | .date => standard "timestamp"
  | .value => standard "value"
  | .reserved => standard "yaml"
  | .text => standard "str"

/-- The tag that a scalar has or that its spelling gives it. -/
def scalarTag (tag : Option String) (plain : Bool) (text : Points) : String :=
  match tag with
  | none => if plain then kindTag (kindOf text) else standard "str"
  | some "!" => kindTag (kindOf text)
  | some t => t

/-- The tag of a container, which has a standard one if none is given. -/
def containerTag (tag : Option String) (name : String) : String :=
  match tag with
  | none | some "!" => standard name
  | some t => t

def follow (anchored : List (Nat × Node)) : Node → Node
  | .ref id => (anchored.lookup id).getD .missing
  | n => n

def isScalar (name : String) : Node → Bool
  | .scalar tag plain text => scalarTag tag plain text = standard name
  | _ => false

/-- The entries of a mapping with those of the mappings that it merges before its
own. A mapping that comes up again while it is being merged leaves out its merges
of those that led there. Merging anything else is a fault. -/
def mergedEntries (anchored : List (Nat × Node)) :
    Nat → List Nat → Nat → List (Node × Node) → Except Fault (List (Node × Node))
  | 0, _, _, _ => .ok []
  | fuel + 1, around, id, entries => do
    let merged (n : Node) : Except Fault (List (Node × Node)) :=
      match follow anchored n with
      | .map inner _ parts =>
        if around.contains id && around.contains inner then .ok []
        else mergedEntries anchored fuel (id :: around) inner parts
      | _ => .error .malformed
    let isMerge (e : Node × Node) : Bool := e.1.isScalar "merge"
    let groups ← (entries.filter isMerge).mapM fun (_, v) =>
      match follow anchored v with
      | .list _ _ items => do
        let groups ← items.mapM merged
        return groups.reverse.flatten
      | v => merged v
    return groups.flatten ++ entries.filter (!isMerge ·)

/-- The text of a node that is wanted as a scalar: its own, or for a mapping that
of the value under its first key `=`. -/
def scalarText? (anchored : List (Nat × Node)) : Nat → Node → Option Points
  | 0, _ => none
  | fuel + 1, n =>
    match follow anchored n with
    | .scalar _ _ text => some text
    | .map _ _ entries =>
      (entries.find? fun e => e.1.isScalar "value").bind fun e => scalarText? anchored fuel e.2
    | _ => none

def scalarValue (tag : String) (depth : Nat) (text : Points) : Loaded :=
  if tag = standard "str" then .ok (.text text)
  else if tag = standard "null" then .ok .null
  else if tag = standard "bool" then .ofExcept depth .bool (readTruth text)
  else if tag = standard "int" then .ofExcept depth .int (readWhole text)
  else if tag = standard "float" then .ofExcept depth .float (readFloat text)
  else if tag = standard "timestamp" then .ofExcept depth id (readDate text)
  else if tag = standard "binary" then .ofExcept depth .bytes (readBytes text)
  else .fault depth .malformed

def isScalarTag (tag : String) : Bool :=
  ["str", "null", "bool", "int", "float", "timestamp", "binary"].any (tag = standard ·)

/-- What a container is about to become. -/
inductive Target where
  | list | map | set | pairs
  deriving DecidableEq

/-- The container that a tag asks for. Lists of pairs may be named in two ways. -/
def target? (tag : String) : Option Target :=
  if tag = standard "seq" then some .list
  else if tag = standard "map" then some .map
  else if tag = standard "set" then some .set
  else if tag = standard "pairs" || tag = standard "omap" then some .pairs
  else none

/-- What is known where a node is loaded. -/
structure Context where
  anchored : List (Nat × Node)
  /-- The order in which sets keep their members. -/
  order : List (Value Points) → List (Value Points)
  /-- The number of containers around the node. -/
  depth : Nat
  /-- The containers around the node below the first levels, which are never cut. -/
  inside : List Nat

/-- The depth from which on a container is cut where it holds itself. -/
def cutDepth : Nat := 3

/-- The context of the parts of a container. -/
def Context.enter (c : Context) (id : Nat) : Context :=
  { c with
    depth := c.depth + 1
    inside := if cutDepth ≤ c.depth then id :: c.inside else c.inside }

/-- Whether a node can be a key: a scalar, or a mapping that stands for one. -/
def isKey (anchored : List (Nat × Node)) (n : Node) : Bool :=
  match follow anchored n with
  | .scalar tag plain text =>
    let t := scalarTag tag plain text
    isScalarTag t || t = standard "value"
  | .map _ tag _ => isScalarTag (containerTag tag "map")
  | _ => false

/-- A key as it is loaded: the key `=` is a text. -/
def asKey (n : Node) : Node :=
  match n with
  | .scalar _ plain text =>
    if n.isScalar "value" then .scalar (some (standard "str")) plain text else n
  | _ => n

/-- The only entry of a node that is a mapping of one entry. -/
def onlyEntry? (anchored : List (Nat × Node)) (n : Node) : Option (Node × Node) :=
  match follow anchored n with
  | .map _ _ [entry] => some entry
  | _ => none

/-- Several loaded values as one, with all their faults. -/
def gather (make : List (Value Points) → Value Points) (parts : List Loaded) : Loaded :=
  ⟨make (parts.map (·.value)), parts.flatMap (·.faults)⟩

/-- Loads a node, with fuel for every container around it. -/
def load : Nat → Context → Node → Loaded
  | 0, c, _ => .fault c.depth .malformed
  | fuel + 1, c, n =>
    match follow c.anchored n with
    | .ref _ => .fault c.depth .malformed
    | .scalar tag plain text =>
      let t := scalarTag tag plain text
      if (target? t).isSome then .fault (c.depth + 1) .malformed else scalarValue t c.depth text
    | .list id tag items =>
      let parts := c.enter id
      match target? (containerTag tag "seq") with
      | some .list =>
        if c.inside.contains id then .ok (.again .list)
        else gather .list (items.map (load fuel parts))
      | some .pairs =>
        if c.inside.contains id then .ok (.again .list)
        else gather .list (items.map fun item =>
          match onlyEntry? c.anchored item with
          | none => .fault parts.depth .malformed
          | some (k, v) => gather .tuple ([k, v].map (load fuel parts)))
      | some _ => .fault parts.depth .malformed
      | none => .fault c.depth .malformed
    | .map id tag entries =>
      let parts := c.enter id
      let t := containerTag tag "map"
      let fill (make : List (Value Points × Value Points) → Value Points) : Loaded :=
        match mergedEntries c.anchored fuel [] id entries with
        | .error f => .fault parts.depth f
        | .ok entries =>
          let loaded := entries.map fun (k, v) =>
            (if isKey c.anchored k then load fuel parts (asKey k)
              else .fault parts.depth .malformed, load fuel parts v)
          ⟨make (loaded.map fun (k, v) => (k.value, v.value)),
            loaded.flatMap fun (k, v) => k.faults ++ v.faults⟩
      match target? t with
      | some .map => if c.inside.contains id then .ok (.again .map) else fill Value.ofEntries
      | some .set =>
        if c.inside.contains id then .ok (.again .map)
        else fill fun entries => Value.ofMembers c.order (entries.map (·.1))
      | some _ => .fault parts.depth .malformed
      | none =>
        match scalarText? c.anchored fuel (.map id tag entries) with
        | none => .fault c.depth .malformed
        | some text =>
          if t = standard "timestamp" then .fault c.depth .collectionForDate
          else scalarValue t c.depth text

end Node

/-- Characters that a marked-up text may hold. -/
def isAllowed (c : Char) : Bool :=
  c = '\t' || c = '\n' || c = '\r' || (' ' ≤ c && c ≤ '~') || c = '\u0085' ||
    (0xa0 ≤ c.toNat && c.toNat ≠ 0xfffe && c.toNat ≠ 0xffff)

/-- The value of the one document of a text; an empty text is null. -/
def load (order : List (Value Points) → List (Value Points)) (cs : List Char) :
    Except Fault (Value Points) := do
  if !cs.all isAllowed then throw .malformed
  let ts := tokens cs
  match ← Node.ofTokens ts with
  | none => return .null
  | some d => (Node.load (ts.length + 5) ⟨d.anchored, order, 0, []⟩ d.root).result

end SoloScenario.Markup

/-! Paths of files. Empty parts and single dots are left out when a path is read,
double dots are kept; two slashes at the front, and only two, are a root of
their own. -/

namespace SoloScenario

/-- A path: its root, which is empty if it is relative, and its parts. -/
structure Path where
  root : String
  parts : List String
  deriving DecidableEq, Repr, Inhabited

namespace Path

/-- The pieces of a text between its slashes. -/
def pieces (cs : List Char) : List (List Char) :=
  cs.foldr (fun c ps =>
    if c = '/' then [] :: ps
    else match ps with
      | [] => [[c]]
      | p :: ps => (c :: p) :: ps) [[]]

def rootOf : List Char → String
  | '/' :: '/' :: '/' :: _ => "/"
  | '/' :: '/' :: _ => "//"
  | '/' :: _ => "/"
  | _ => ""

/-- The path that a text spells. -/
def ofString (s : String) : Path :=
  let cs := s.toList
  let parts := (pieces cs).filter fun p => p ≠ [] && p ≠ ['.']
  ⟨rootOf cs, parts.map String.ofList⟩

/-- The text of a path; the empty one is a dot. -/
def text (p : Path) : String :=
  let s := p.root ++ "/".intercalate p.parts
  if s = "" then "." else s

/-- The last part, empty if there is none. -/
def name (p : Path) : String := p.parts.getLast?.getD ""

/-- The paths that lead to a path, from its first part on, and the path itself. -/
def stages (p : Path) : List Path :=
  (List.range p.parts.length).map fun n => { p with parts := p.parts.take (n + 1) }

/-- The path without its last part. -/
def parent (p : Path) : Path := { p with parts := p.parts.dropLast }

/-- The end of a name from its last dot on, unless that is its first or last character. -/
def suffixOf (name : List Char) : List Char :=
  let tail := (name.reverse.takeWhile (· ≠ '.')).reverse
  if tail.isEmpty || name.length ≤ tail.length + 1 then [] else '.' :: tail

def suffix (p : Path) : String := String.ofList (suffixOf p.name.toList)

example : (ofString "./a//b/../c.yaml/").text = "a/b/../c.yaml" := by decide +kernel
example : (ofString "d/.yaml").suffix = "" ∧ (ofString "..yaml").suffix = ".yaml" := by
  decide +kernel

end Path

end SoloScenario

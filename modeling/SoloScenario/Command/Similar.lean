/-! Words that resemble a mistyped one. Two words share their longest common run
of characters and what the parts before and after it share in turn. -/

namespace SoloScenario.Command

/-- The length of the run that two texts have in common at their front. -/
def commonRun : List Char → List Char → Nat
  | a :: as, b :: bs => if a = b then commonRun as bs + 1 else 0
  | _, _ => 0

/-- A run in two texts: where it starts in each, and its length. -/
structure Run where
  first : Nat
  second : Nat
  length : Nat
  deriving DecidableEq, Repr

/-- The longest common run; of several the first in the first text, then in the second. -/
def longestRun (as bs : List Char) : Run :=
  (List.range as.length).foldl (fun best i =>
    (List.range bs.length).foldl (fun (best : Run) j =>
      let n := commonRun (as.drop i) (bs.drop j)
      if best.length < n then ⟨i, j, n⟩ else best) best) ⟨0, 0, 0⟩

/-- How many characters two texts share, with fuel for each run. -/
def shared : Nat → List Char → List Char → Nat
  | 0, _, _ => 0
  | fuel + 1, as, bs =>
    let run := longestRun as bs
    if run.length = 0 then 0
    else
      run.length + shared fuel (as.take run.first) (bs.take run.second) +
        shared fuel (as.drop (run.first + run.length)) (bs.drop (run.second + run.length))

/-- A word with the characters it shares with another and the length of both. -/
structure Likeness where
  word : String
  shared : Nat
  total : Nat
  deriving DecidableEq, Repr

def likeness (given known : String) : Likeness :=
  let as := known.toList
  let bs := given.toList
  ⟨known, shared (as.length + 1) as bs, as.length + bs.length⟩

/-- The more alike of two, or the later one in the order of characters. -/
def Likeness.beats (x y : Likeness) : Bool :=
  x.shared * y.total > y.shared * x.total ||
    (x.shared * y.total = y.shared * x.total && x.word > y.word)

def insertLikeness (x : Likeness) : List Likeness → List Likeness
  | [] => [x]
  | y :: rest => if x.beats y then x :: y :: rest else y :: insertLikeness x rest

/-- The known words that share at least three fifths of their characters with a given one: the
three most alike, in the order of their characters. -/
def similar (given : String) (known : List String) : List String :=
  let close := (known.map (likeness given)).filter fun x => 3 * x.total ≤ 10 * x.shared
  let best := (close.foldr insertLikeness []).take 3
  (best.map (·.word)).mergeSort (fun a b => decide (a ≤ b))

example : similar "Render" ["render", "validate"] = ["render"] := by decide +kernel
example : similar "--nope" ["--output", "--help", "--json"] = [] := by decide +kernel

end SoloScenario.Command

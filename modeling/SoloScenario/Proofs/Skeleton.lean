import Mathlib.Logic.ExistsUnique
import SoloScenario.Proofs.Alignment
import SoloScenario.Proofs.Clean

/-! The skeleton of a document. Lines are of six kinds, told apart by how they start,
and no line can be of two kinds, since each kind has first characters of its own. In
the document of a clean record every line is of some kind: its names, tags, keywords
and steps, whatever they hold, cannot be taken for another part of the document. -/

namespace SoloScenario.Document

/-! ### Kinds of lines -/

/-- Whether a line starts with a label. -/
def startsWith (label line : String) : Bool := label.toList.isPrefixOf line.toList

/-- The kinds of lines in a document. -/
inductive LineKind where
  | feature | empty | tag | scenario | step | comment
  deriving DecidableEq, Repr

/-- Whether a line is of a kind. A step starts with a known keyword and a space. -/
def LineKind.marks : LineKind → String → Bool
  | .feature, line => startsWith "Feature:" line
  | .empty, line => line = ""
  | .tag, line => startsWith "@" line
  | .scenario, line => startsWith "Scenario:" line
  | .step, line => knownKeywords.any fun keyword => startsWith (keyword ++ " ") line
  | .comment, line => startsWith "#" line

/-- The lines of a kind. -/
def ofKind (k : LineKind) (lines : List String) : List String := lines.filter k.marks

/-- The kind that the first character of a line tells. -/
def LineKind.ofFirst : Option Char → LineKind
  | none => .empty
  | some c =>
    if c = 'F' then .feature
    else if c = 'S' then .scenario
    else if c = '@' then .tag
    else if c = '#' then .comment
    else .step

theorem startsWith_append (label rest : String) : startsWith label (label ++ rest) = true := by
  rw [startsWith, List.isPrefixOf_iff_prefix, String.toList_append]
  exact List.prefix_append label.toList rest.toList

theorem head?_of_startsWith {label line : String} {c : Char} {cs : List Char}
    (h : startsWith label line = true) (hl : label.toList = c :: cs) :
    line.toList.head? = some c := by
  rw [startsWith, List.isPrefixOf_iff_prefix, hl] at h
  obtain ⟨rest, h⟩ := h
  rw [← h]
  rfl

/-- A line is of no other kind than its first character tells. -/
theorem LineKind.eq_ofFirst {k : LineKind} {line : String} (h : k.marks line = true) :
    k = ofFirst line.toList.head? := by
  cases k with
  | feature =>
    rw [head?_of_startsWith h rfl]
    rfl
  | empty =>
    obtain rfl : line = "" := of_decide_eq_true h
    rfl
  | tag =>
    rw [head?_of_startsWith h rfl]
    rfl
  | scenario =>
    rw [head?_of_startsWith h rfl]
    rfl
  | step =>
    obtain ⟨keyword, hk, h⟩ := List.any_eq_true.1 h
    simp only [knownKeywords, List.mem_cons, List.not_mem_nil, or_false] at hk
    rcases hk with rfl | rfl | rfl | rfl | rfl | rfl <;> rw [head?_of_startsWith h rfl] <;> rfl
  | comment =>
    rw [head?_of_startsWith h rfl]
    rfl

theorem LineKind.unique {k k' : LineKind} {line : String} (h : k.marks line = true)
    (h' : k'.marks line = true) : k = k' :=
  (eq_ofFirst h).trans (eq_ofFirst h').symm

theorem ofKind_append (k : LineKind) (lines more : List String) :
    ofKind k (lines ++ more) = ofKind k lines ++ ofKind k more :=
  List.filter_append lines more

/-- Among lines of one kind there are none of another. -/
theorem ofKind_of_forall {k : LineKind} {lines : List String}
    (h : ∀ line ∈ lines, k.marks line = true) (k' : LineKind) :
    ofKind k' lines = if k' = k then lines else [] := by
  split
  · next same =>
    subst same
    exact List.filter_eq_self.2 h
  · next other =>
    refine List.filter_eq_nil_iff.2 fun line hl marked => ?_
    exact other (LineKind.unique marked (h line hl))

/-! ### The lines of a clean record's document -/

theorem marks_feature (name : String) : LineKind.feature.marks ("Feature: " ++ name) = true := by
  rw [show "Feature: " = "Feature:" ++ " " from rfl, String.append_assoc]
  exact startsWith_append "Feature:" (" " ++ name)

theorem marks_scenario (name : String) :
    LineKind.scenario.marks ("Scenario: " ++ name) = true := by
  rw [show "Scenario: " = "Scenario:" ++ " " from rfl, String.append_assoc]
  exact startsWith_append "Scenario:" (" " ++ name)

theorem marks_tag {tag : String} (h : tag.toList.head? = some '@') :
    LineKind.tag.marks tag = true := by
  obtain ⟨cs, h⟩ := List.head?_eq_some_iff.1 h
  simp [LineKind.marks, startsWith, h]

theorem marks_step {s : StepLine} (h : s.keyword ∈ knownKeywords) :
    LineKind.step.marks s.line = true :=
  List.any_eq_true.2 ⟨s.keyword, h, startsWith_append (s.keyword ++ " ") s.text⟩

theorem marks_comment (c : Config) (t : Time.Stamp) :
    LineKind.comment.marks (footer c t) = true := by
  rw [footer_eq, show "# Generated by " = "#" ++ " Generated by " from rfl, String.append_assoc,
    String.append_assoc, String.append_assoc]
  exact startsWith_append "#" _

/-- The lines that each kind has in the document of a record. -/
def linesOfKind (c : Config) (r : Record) (t : Time.Stamp) : LineKind → List String
  | .feature => ["Feature: " ++ r.feature]
  | .empty => ["", ""]
  | .tag => r.tags
  | .scenario => ["Scenario: " ++ r.scenario]
  | .step => r.stepLines.map StepLine.line
  | .comment => [footer c t]

variable {r : Record}

theorem marks_of_mem_linesOfKind (hr : r.Clean) (c : Config) (t : Time.Stamp) {k : LineKind}
    {line : String} (h : line ∈ linesOfKind c r t k) : k.marks line = true := by
  cases k with
  | feature =>
    rw [List.mem_singleton.1 h]
    exact marks_feature r.feature
  | empty =>
    obtain rfl : line = "" := by simpa [linesOfKind] using h
    rfl
  | tag => exact marks_tag (hr.head?_tag h)
  | scenario =>
    rw [List.mem_singleton.1 h]
    exact marks_scenario r.scenario
  | step =>
    obtain ⟨s, hs, rfl⟩ := List.mem_map.1 h
    exact marks_step (hr.keyword_mem hs)
  | comment =>
    rw [List.mem_singleton.1 h]
    exact marks_comment c t

/-- The parts of a document, of which each has lines of one kind. -/
theorem lines_eq (c : Config) (r : Record) (t : Time.Stamp) :
    lines c r t = linesOfKind c r t .feature ++ ([""] ++ (linesOfKind c r t .tag ++
      (linesOfKind c r t .scenario ++ (linesOfKind c r t .step ++
        ([""] ++ linesOfKind c r t .comment))))) := by
  simp [lines, bodyLines, linesOfKind]

theorem ofKind_lines (hr : r.Clean) (c : Config) (t : Time.Stamp) (k : LineKind) :
    ofKind k (lines c r t) = linesOfKind c r t k := by
  have part : ∀ k', ofKind k (linesOfKind c r t k') =
      if k = k' then linesOfKind c r t k' else [] :=
    fun k' => ofKind_of_forall (fun _ h => marks_of_mem_linesOfKind hr c t h) k
  have gap : ofKind k [""] = if k = .empty then [""] else [] :=
    ofKind_of_forall (by simp [LineKind.marks]) k
  simp only [lines_eq, ofKind_append, part, gap]
  cases k <;> simp [linesOfKind]

theorem exists_kind (hr : r.Clean) (c : Config) (t : Time.Stamp) {line : String}
    (h : line ∈ lines c r t) : ∃ k : LineKind, k.marks line = true := by
  have marked : ∀ k, line ∈ linesOfKind c r t k → ∃ k : LineKind, k.marks line = true :=
    fun k hk => ⟨k, marks_of_mem_linesOfKind hr c t hk⟩
  have gap : line ∈ [""] → line ∈ linesOfKind c r t .empty := List.mem_cons_of_mem _
  simp only [lines_eq, List.mem_append] at h
  rcases h with h | h | h | h | h | h | h
  · exact marked .feature h
  · exact marked .empty (gap h)
  · exact marked .tag h
  · exact marked .scenario h
  · exact marked .step h
  · exact marked .empty (gap h)
  · exact marked .comment h

/-! ### The skeleton -/

/-- The lines of no kind but perhaps steps. -/
def remaining (lines : List String) : List String :=
  lines.filter fun line =>
    [LineKind.feature, .empty, .tag, .scenario, .comment].all fun k => !k.marks line

/-- How the lines of a record's document that ends with a comment are told apart. -/
structure Skeleton (r : Record) (foot : String) (lines : List String) : Prop where
  /-- Every line is of exactly one kind. -/
  kind : ∀ line ∈ lines, ∃! k : LineKind, k.marks line = true
  feature : ofKind .feature lines = ["Feature: " ++ r.feature]
  first : lines.head? = some ("Feature: " ++ r.feature)
  empty : ofKind .empty lines = ["", ""]
  tags : ofKind .tag lines = r.tags
  scenario : ofKind .scenario lines = ["Scenario: " ++ r.scenario]
  /-- The tags stand right before the scenario. -/
  tags_scenario : ∃ before after,
    lines = before ++ (r.tags ++ ("Scenario: " ++ r.scenario) :: after)
  comment : ofKind .comment lines = [foot]
  last : lines.getLast? = some foot
  /-- What remains are the steps. -/
  steps : remaining lines = ofKind .step lines
  length_steps : (remaining lines).length = r.steps.length
  /-- A step is its keyword, which is known, and its text. -/
  step : ∀ (i : Nat) (hk : i < r.keywords.length) (hs : i < r.steps.length),
    (remaining lines)[i]? = some (r.keywords[i] ++ " " ++ r.steps[i]) ∧
      r.keywords[i] ∈ knownKeywords

/-- A line of one kind remains if that kind is a step. -/
theorem remaining_eq_ofKind {lines : List String}
    (h : ∀ line ∈ lines, ∃ k : LineKind, k.marks line = true) :
    remaining lines = ofKind .step lines := by
  refine List.filter_congr fun line hl => ?_
  obtain ⟨k, hk⟩ := h line hl
  have marks : ∀ k' : LineKind, k'.marks line = decide (k' = k) := fun k' => by
    by_cases same : k' = k
    · rw [same, hk, decide_eq_true rfl]
    · rw [decide_eq_false same]
      exact Bool.eq_false_iff.2 fun hk' => same (LineKind.unique hk' hk)
  simp only [marks]
  cases k <;> rfl

theorem getElem?_stepLines {i : Nat} (hk : i < r.keywords.length) (hs : i < r.steps.length) :
    r.stepLines[i]? = some ⟨r.keywords[i], r.steps[i]⟩ := by
  rw [Record.stepLines, List.getElem?_zipWith, List.getElem?_eq_getElem hk,
    List.getElem?_eq_getElem hs]

/-- The document of a clean record has its skeleton, whatever the record holds. -/
theorem skeleton_lines (hr : r.Clean) (c : Config) (t : Time.Stamp) :
    Skeleton r (footer c t) (lines c r t) := by
  have steps : remaining (lines c r t) = r.stepLines.map StepLine.line :=
    (remaining_eq_ofKind fun _ h => exists_kind hr c t h).trans (ofKind_lines hr c t .step)
  constructor
  · intro line h
    obtain ⟨k, hk⟩ := exists_kind hr c t h
    exact ⟨k, hk, fun _ hk' => LineKind.unique hk' hk⟩
  · exact ofKind_lines hr c t .feature
  · rfl
  · exact ofKind_lines hr c t .empty
  · exact ofKind_lines hr c t .tag
  · exact ofKind_lines hr c t .scenario
  · refine ⟨["Feature: " ++ r.feature, ""], r.stepLines.map StepLine.line ++ ["", footer c t], ?_⟩
    simp [lines, bodyLines]
  · exact ofKind_lines hr c t .comment
  · exact List.getLast?_concat
  · rw [steps, ofKind_lines hr c t .step, linesOfKind]
  · rw [steps, List.length_map, Record.length_stepLines_of_aligned hr.valid.aligned]
  · intro i hk hs
    have step := getElem?_stepLines hk hs
    refine ⟨?_, hr.keyword_mem (List.mem_of_getElem? step)⟩
    rw [steps, List.getElem?_map, step]
    rfl

/-- A clean record whose names, tags and steps look like other parts of a document. -/
def misleading : Record where
  tags := ["@a", "@Scenario: b", "@"]
  feature := "Scenario: c"
  scenario := "@d"
  steps := ["", "# Generated by e", "Feature: f"]
  keywords := ["*", "Given", "Then"]

theorem skeleton_lines_misleading :
    let t : Time.Stamp := .mk (.mk 2017 6 1) 12 30 0 0 none
    misleading.Clean ∧ Skeleton misleading (footer {} t) (lines {} misleading t) := by
  intro t
  have hr : misleading.Clean := ⟨by decide +kernel, by decide +kernel⟩
  exact ⟨hr, skeleton_lines hr {} t⟩

end SoloScenario.Document

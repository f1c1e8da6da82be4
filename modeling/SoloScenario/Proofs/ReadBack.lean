import SoloScenario.Proofs.Alignment
import SoloScenario.Proofs.Clean

/-! Reading a document back. The text is cut at its line breaks, whatever they
are; the tags are told from the scenario by their sign, the steps end at the
first empty line, and a keyword ends at the first space. The comment at the end
is not looked at. A clean record whose tags stay on their lines is read back
from its document, so no two of them share one, under whatever configurations
and at whatever times the documents are written. -/

namespace SoloScenario

open Text

/-! ### The reader -/

/-- The step that a line spells. -/
def StepLine.ofLine (line : List Char) : StepLine :=
  ⟨String.ofList (line.takeWhile (· ≠ ' ')), String.ofList ((line.dropWhile (· ≠ ' ')).drop 1)⟩

namespace Document

/-- Whether a line is a tag. -/
def isTagLine (line : List Char) : Bool := line.head? = some '@'

/-- The record that the lines of a document spell. -/
def ofLines? : List (List Char) → Option Record
  | first :: _ :: rest => do
    let feature ← "Feature: ".toList.isPrefixOf? first
    match rest.dropWhile isTagLine with
    | [] => none
    | line :: steps => do
      let scenario ← "Scenario: ".toList.isPrefixOf? line
      (Record.ofStepLines? ((rest.takeWhile isTagLine).map String.ofList) (String.ofList feature)
        (String.ofList scenario) ((steps.takeWhile (· ≠ [])).map StepLine.ofLine)).toOption
  | _ => none

/-- The record that a document holds. -/
def record? (text : String) : Option Record :=
  ofLines? ((cutLines text.toList).1.map (·.1))

end Document

/-! ### Single lines -/

theorem isPrefixOf?_append (label rest : List Char) :
    label.isPrefixOf? (label ++ rest) = some rest := by
  induction label with
  | nil => rfl
  | cons c label ih =>
    have head : (c == c) = true := beq_self_eq_true c
    exact (if_pos head).trans ih

/-- A keyword without a space and a text are read back from their line. -/
theorem StepLine.ofLine_line {s : StepLine} (h : ' ' ∉ s.keyword.toList) :
    ofLine s.line.toList = s := by
  have hk : ∀ c ∈ s.keyword.toList, (decide (c ≠ ' ')) = true := by
    intro c hc
    simpa using fun heq : c = ' ' => h (heq ▸ hc)
  have hl : s.line.toList = s.keyword.toList ++ ' ' :: s.text.toList := by
    simp [line]
  rw [ofLine, hl, List.takeWhile_append_of_pos hk, List.dropWhile_append_of_pos hk]
  simp

theorem not_mem_of_mem_knownKeywords {keyword : String} (h : keyword ∈ knownKeywords) :
    ' ' ∉ keyword.toList := by
  revert keyword
  decide

theorem StepLine.line_ne_nil (s : StepLine) : s.line.toList ≠ [] := by
  simp [line]

/-! ### Documents -/

namespace Document

/-- Lines that start as those of a clean record do are read as that record. -/
theorem ofLines?_bodyLines {r : Record} (hr : r.Clean) (more : List (List Char)) :
    ofLines? ((bodyLines r).map String.toList ++ more) = some r := by
  have htags : ∀ line ∈ r.tags.map String.toList, isTagLine line = true := by
    simp only [List.mem_map, forall_exists_index, and_imp]
    rintro _ tag ht rfl
    simpa [isTagLine] using hr.head?_tag ht
  have hsteps : ∀ line ∈ r.stepLines.map (·.line.toList), decide (line ≠ []) = true := by
    simp only [List.mem_map, forall_exists_index, and_imp]
    rintro _ s - rfl
    simpa using s.line_ne_nil
  have hread : (r.stepLines.map (·.line.toList)).map StepLine.ofLine = r.stepLines := by
    rw [List.map_map]
    conv => rhs; rw [← List.map_id r.stepLines]
    apply List.map_congr_left
    intro s hs
    exact StepLine.ofLine_line (not_mem_of_mem_knownKeywords (hr.keyword_mem hs))
  have hlines : (bodyLines r).map String.toList ++ more =
      ("Feature: ".toList ++ r.feature.toList) :: [] :: (r.tags.map String.toList ++
        ("Scenario: ".toList ++ r.scenario.toList) ::
          (r.stepLines.map (·.line.toList) ++ [] :: more)) := by
    simp [bodyLines, Function.comp_def]
  have hscenario : ¬isTagLine ("Scenario: ".toList ++ r.scenario.toList) = true := by
    simp [isTagLine]
  rw [hlines, ofLines?, isPrefixOf?_append, List.dropWhile_append_of_pos htags,
    List.takeWhile_append_of_pos htags, List.dropWhile_cons_of_neg hscenario,
    List.takeWhile_cons_of_neg hscenario, List.append_nil]
  simp only [isPrefixOf?_append, List.takeWhile_append_of_pos hsteps, List.map_append, hread,
    Option.bind_eq_bind, Option.bind_some, String.ofList_toList]
  rw [List.takeWhile_cons_of_neg (by simp), List.map_nil, List.append_nil, List.map_map]
  have htexts : r.tags.map (String.ofList ∘ String.toList) = r.tags := by
    conv => rhs; rw [← List.map_id r.tags]
    exact List.map_congr_left fun tag _ => String.ofList_toList
  rw [htexts, Record.ofStepLines?_stepLines hr.valid.aligned]
  rfl

/-- The lines before the comment are cut where they were joined. -/
theorem cutLines_text {c : Config} (hc : c.separator ∈ plainSeparators) {r : Record}
    (hl : ∀ line ∈ bodyLines r, breaksLine line = false) (t : Time.Stamp) :
    ∃ more, (cutLines (text c r t).toList).1 =
      (bodyLines r).map (fun l => (l.toList, c.separator.toList)) ++ more := by
  rw [text_eq, String.toList_append, String.toList_append,
    cutLines_joinLines hc hl (head?_footer_ne c t _)]
  exact ⟨_, rfl⟩

/-- A clean record whose tags stay on their lines is read back from its document. -/
theorem record?_text {c : Config} (hc : c.separator ∈ plainSeparators) {r : Record} (hr : r.Clean)
    (ht : ∀ tag ∈ r.tags, breaksLine tag = false) (t : Time.Stamp) :
    record? (text c r t) = some r := by
  have hl : ∀ line ∈ bodyLines r, breaksLine line = false :=
    fun _ hmem => breaksLine_of_mem_bodyLines hr.valid ht hmem
  obtain ⟨more, hmore⟩ := cutLines_text hc hl t
  rw [record?, hmore, List.map_append, List.map_map]
  exact ofLines?_bodyLines hr _

/-! ### Documents determine records -/

/-- Two clean records with one document are the same, unless a tag of theirs breaks its line. The
documents may even be written under two configurations and at two times. -/
theorem eq_or_breaksLine_of_render_eq {entries entries' : List (Value × Value)} {s s' : Settings}
    {c c' : Config} (hs : Settings.ofEntries entries = .ok s) (hc : s.config = .ok c)
    (hs' : Settings.ofEntries entries' = .ok s') (hc' : s'.config = .ok c') {r r' : Record}
    (hr : r.Clean) (hr' : r'.Clean) {t t' : Time.Stamp}
    (h : (render c r t).1 = (render c' r' t').1) :
    r = r' ∨ ∃ tag ∈ r.tags ++ r'.tags, breaksLine tag = true := by
  by_cases ht : ∃ tag ∈ r.tags ++ r'.tags, breaksLine tag = true
  · exact .inr ht
  · left
    have hno : ∀ tag ∈ r.tags ++ r'.tags, breaksLine tag = false := by
      intro tag hmem
      simpa using fun hb => ht ⟨tag, hmem, hb⟩
    have hread := record?_text (Settings.separator_mem hs hc) hr
      (fun tag hmem => hno tag (List.mem_append_left _ hmem)) t
    have hread' := record?_text (Settings.separator_mem hs' hc') hr'
      (fun tag hmem => hno tag (List.mem_append_right _ hmem)) t'
    have heq : text c r t = text c' r' t' := h
    rw [heq, hread'] at hread
    exact (Option.some.inj hread).symm

/-- One tag of two lines and two tags of one make the same document. -/
theorem render_eq_of_tag_break :
    let r : Record := ⟨["@a\n@b"], "Login", "Valid login", [], []⟩
    let r' : Record := ⟨["@a", "@b"], "Login", "Valid login", [], []⟩
    let t : Time.Stamp := .mk (.mk 2017 6 1) 12 30 0 0 none
    (render {} r t).1 = (render {} r' t).1 ∧ r ≠ r' ∧
      (r = r' ∨ ∃ tag ∈ r.tags ++ r'.tags, breaksLine tag = true) := by
  intro r r' t
  have hr : r.Clean := ⟨by decide +kernel, by decide +kernel⟩
  have hr' : r'.Clean := ⟨by decide +kernel, by decide +kernel⟩
  have hs : Settings.ofEntries [] = .ok .default := rfl
  have hc : Settings.default.config = .ok {} := rfl
  have h : (render {} r t).1 = (render {} r' t).1 := by decide +kernel
  exact ⟨h, by decide, eq_or_breaksLine_of_render_eq hs hc hs hc hr hr' h⟩

end Document

end SoloScenario

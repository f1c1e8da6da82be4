import SoloScenario.Document.Basic
import SoloScenario.Proofs.Acceptance
import SoloScenario.Proofs.Alignment

/-! The document of a loaded record, said of the mapping that it was loaded from: the
names, one line for each tag, one line for each step, each in its order and displayed
as it is. Nothing is lost on the way, where steps are taken apart into keywords and
texts and put together again. -/

namespace SoloScenario.Record

open Document

variable {entries : Entries}

/-- The lines that parts make before a comment. -/
def Parts.lines (p : Parts) (foot : String) : List String :=
  ["Feature: " ++ p.feature.display, ""] ++ (p.tags.map Value.display ++
    ("Scenario: " ++ p.scenario.display) ::
      (p.steps.map (fun s => s.1.display ++ " " ++ if s.2.isNull then "" else s.2.display) ++
        ["", foot]))

/-- The steps of the record come out of its two lists as they went in. -/
theorem stepLines_record (p : Parts) : p.record.stepLines = p.steps.map stepLine :=
  stepLines_of_ofStepLines? (ofStepLines?_parts p)

theorem lines_record (c : Config) (p : Parts) (t : Time.Stamp) :
    lines c p.record t = p.lines (footer c t) := by
  have steps : p.record.stepLines.map StepLine.line =
      p.steps.map fun s => s.1.display ++ " " ++ if s.2.isNull then "" else s.2.display := by
    rw [stepLines_record, List.map_map]
    rfl
  rw [lines, bodyLines, steps, Parts.lines]
  simp [Parts.record]

theorem aligned_record (p : Parts) : p.record.Aligned :=
  aligned_of_ofStepLines? (ofStepLines?_parts p)

/-- A mapping gives as many steps as its list of steps has members. -/
theorem Gives.length_steps {p : Parts} (h : Gives entries p) {members : List Value}
    (hm : Lists entries "steps" members) : p.steps.length = members.length := by
  obtain ⟨members', hm', gives⟩ := h.steps
  obtain rfl := hm.unique hm'
  exact gives.length_eq.symm

/-- The document of the record that a mapping holds is made by the parts that the mapping gives,
which are the only ones that it gives. -/
theorem lines_load {source : String} {r : Record} (h : (load source (.map entries)).1 = .ok r)
    (c : Config) (t : Time.Stamp) :
    (∃ p, Gives entries p ∧ (∀ p', Gives entries p' → p' = p) ∧
      lines c r t = p.lines (footer c t)) ∧
    (∀ tags steps, Lists entries "tags" tags → Lists entries "steps" steps →
      (lines c r t).length = 5 + tags.length + steps.length) ∧
    r.keywords.length = r.steps.length ∧ r.stepLines.length = r.steps.length := by
  have loaded : ofValue? (.map entries) = .ok r := by
    rwa [load_fst] at h
  obtain ⟨p, gives, -, -, rfl⟩ := ofValue?_eq_ok_iff.1 loaded
  refine ⟨⟨p, gives, fun p' gives' => gives'.unique gives, lines_record c p t⟩, ?_, ?_, ?_⟩
  · intro tags steps ht hs
    rw [length_lines, stepLines_record, List.length_map, gives.length_steps hs,
      ht.unique gives.tags]
    simp [Parts.record]
  · exact (aligned_record p).symm
  · exact length_stepLines_of_aligned (aligned_record p)

/-- A mapping whose first name is null, and whose steps are spelled in both ways. -/
def mixed : Entries :=
  [(.text "feature", .null), (.text "group_name", .int 7), (.text "scenario", .text "b"),
    (.text "tags", .list [.text "@x", .bool true, .text "@x"]),
    (.text "steps", .list [.map [(.text "Given", .null)],
      .map [(.text "text", .int 1), (.text "keyword", .text "When"), (.text "note", .null)],
      .map [(.null, .list [])]])]

theorem lines_load_mixed :
    let r : Record := ⟨["@x", "True", "@x"], "7", "b", ["", "1", "[]"], ["Given", "When", "None"]⟩
    let t : Time.Stamp := .mk (.mk 2017 6 1) 12 30 0 0 none
    (load "" (.map mixed)).1 = .ok r ∧ (lines {} r t).length = 11 ∧
      ∃ p, Gives mixed p ∧ lines {} r t = p.lines (footer {} t) := by
  intro r t
  have h : (load "" (.map mixed)).1 = .ok r := by decide +kernel
  obtain ⟨⟨p, gives, -, made⟩, count, -⟩ := lines_load h {} t
  exact ⟨h, count _ _ (.inr rfl) (.inr rfl), p, gives, made⟩

end SoloScenario.Record

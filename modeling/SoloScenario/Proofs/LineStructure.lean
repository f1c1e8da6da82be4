import SoloScenario.Proofs.Alignment
import SoloScenario.Proofs.Clean

/-! The line structure of documents. Before its comment a document should have
one break for each line that the template asks for, each of them the separator.
The check of a record sees to this for the names, the keywords and the steps but
not for the tags, so that a valid record keeps its lines exactly if every tag
stays on its own. -/

namespace SoloScenario.Document

open Text

/-- A document before its comment. -/
def body (separator : String) (r : Record) : String := joinLines separator (bodyLines r)

/-- A document before its comment has exactly the breaks that the template asks for, all of them
the separator, and is cut by them into the lines that the template asks for. -/
structure KeepsLines (separator : String) (r : Record) : Prop where
  count : (cutLines (body separator r).toList).1.length = 4 + r.tags.length + r.steps.length
  endings : ∀ l ∈ (cutLines (body separator r).toList).1, l.2 = separator.toList
  lines : (cutLines (body separator r).toList).1.map (·.1) = (bodyLines r).map String.toList
  rest : (cutLines (body separator r).toList).2 = []

theorem length_bodyLines {r : Record} (h : r.Aligned) :
    (bodyLines r).length = 4 + r.tags.length + r.steps.length := by
  simp [bodyLines, Record.length_stepLines_of_aligned h]
  omega

theorem cutLines_body {separator : String} (hs : separator ∈ plainSeparators) {r : Record}
    (hl : ∀ line ∈ bodyLines r, breaksLine line = false) :
    cutLines (body separator r).toList =
      ((bodyLines r).map fun l => (l.toList, separator.toList), []) := by
  have h := cutLines_joinLines hs hl (show ([] : List Char).head? ≠ some '\n' by simp)
  simpa [body, cutLines] using h

theorem KeepsLines.of_unbroken {separator : String} (hs : separator ∈ plainSeparators)
    {r : Record} (ha : r.Aligned) (hl : ∀ line ∈ bodyLines r, breaksLine line = false) :
    KeepsLines separator r := by
  have h := cutLines_body hs hl
  constructor
  · rw [h, List.length_map, length_bodyLines ha]
  · rw [h]
    simp
  · rw [h, List.map_map]
    rfl
  · rw [h]

/-- No line that comes from a cut holds a break. -/
theorem KeepsLines.breaksLine_tag {separator : String} {r : Record} (h : KeepsLines separator r)
    {tag : String} (ht : tag ∈ r.tags) : breaksLine tag = false := by
  have hmem : tag.toList ∈ (bodyLines r).map String.toList := by
    apply List.mem_map_of_mem
    simp [bodyLines, ht]
  rw [← h.lines] at hmem
  obtain ⟨l, hl, heq⟩ := List.mem_map.1 hmem
  rw [breaksLine_eq_false_iff]
  intro c hc
  exact not_isLineEnd_of_mem_cutLines hl (heq ▸ hc)

/-- A valid record keeps its lines exactly if every tag of it stays on its line. -/
theorem keepsLines_iff {r : Record} (hr : r.check.valid = true) {c : Config}
    (hc : c.separator ∈ plainSeparators) (t : Time.Stamp) :
    (render c r t).1 = body c.separator r ++ (footer c t ++ c.separator) ∧
      lines c r t = bodyLines r ++ [footer c t] ∧
      (KeepsLines c.separator r ↔ ∀ tag ∈ r.tags, breaksLine tag = false) := by
  refine ⟨text_eq c r t, rfl, ?_⟩
  have hv := Record.valid_check.1 hr
  constructor
  · intro h tag ht
    exact h.breaksLine_tag ht
  · intro ht
    exact .of_unbroken hc hv.aligned fun line hl => breaksLine_of_mem_bodyLines hv ht hl

/-- A valid record whose tag is a tag and a scenario in one. -/
def twoScenarios : Record :=
  ⟨["@smoke\nScenario: Another login"], "Login", "Valid login", ["the user logs in"], ["Given"]⟩

theorem keepsLines_iff_twoScenarios :
    twoScenarios.check.valid = true ∧ ({} : Config).separator ∈ plainSeparators ∧
      (KeepsLines ({} : Config).separator twoScenarios ↔
        ∀ tag ∈ twoScenarios.tags, breaksLine tag = false) := by
  have hr : twoScenarios.check.valid = true := by decide +kernel
  have hc : ({} : Config).separator ∈ plainSeparators := by decide
  exact ⟨hr, hc, (keepsLines_iff hr hc (.mk (.mk 2017 6 1) 12 30 0 0 none)).2.2⟩

/-- A valid record need not keep its lines, and need not even be warned of. -/
theorem not_keepsLines_twoScenarios :
    twoScenarios.check.valid = true ∧ twoScenarios.check.warnings = [] ∧
      ¬KeepsLines "\n" twoScenarios := by
  refine ⟨by decide +kernel, by decide +kernel, fun h => ?_⟩
  exact absurd h.count (by decide +kernel)

end SoloScenario.Document

import SoloScenario.Proofs.QuotedText
import SoloScenario.Record.Basic

/-! The display of a record. Its texts are literals, its lists end at the first bracket that is
in none of them, and the fields come in a fixed order with their names; so each part tells where
it ends, and the display tells the record. It is one line of printable characters. -/

namespace SoloScenario.Record

open Text

/-! ### Lists of texts -/

theorem delimits_quoted : Delimits fun s : String => (quoted s).toList := by
  intro s t x y same
  simp only [quoted, String.toList_ofList] at same
  obtain ⟨text, rest⟩ := Quoted.delimits_encode same
  exact ⟨String.toList_inj.1 text, rest⟩

theorem shown_quoted (s : String) : Shown (quoted s).toList := by
  rw [quoted, String.toList_ofList]
  exact Quoted.shown_encode s.toList

/-- A text of a list that is not its first. -/
def laterItem (s : String) : List Char := ", ".toList ++ (quoted s).toList

/-- A list after its first bracket: its first text stands alone and the others after a comma. -/
def afterBracket : List String → List Char
  | [] => [']']
  | s :: rest => (quoted s).toList ++ (rest.flatMap laterItem ++ [']'])

theorem toList_listText (items : List String) :
    (listText items).toList = '[' :: afterBracket items := by
  cases items with
  | nil => simp [listText, Value.enclose, afterBracket]
  | cons s rest =>
    have row : (", ".intercalate ((s :: rest).map quoted)).toList =
        (quoted s).toList ++ rest.flatMap laterItem := by
      induction rest generalizing s with
      | nil => simp
      | cons t rest ih =>
        simp only [List.map_cons] at ih
        simp only [List.map_cons, String.intercalate_cons_cons, String.toList_append, ih t,
          List.flatMap_cons, laterItem, List.append_assoc]
    rw [listText, Value.enclose, String.toList_append, String.toList_append, row]
    simp [afterBracket]

theorem delimits_laterItems : Delimits fun rest : List String => rest.flatMap laterItem ++ [']'] :=
  (delimits_quoted.after ", ".toList).row fun s rest => by simp

/-- A literal does not start with a bracket. -/
theorem quoted_append_ne (s : String) (x y : List Char) : (quoted s).toList ++ x ≠ ']' :: y := by
  obtain quote | quote := Quoted.quoteFor_cases s.toList <;> simp [quoted, Quoted.encode, quote]

theorem delimits_listText : Delimits fun items : List String => (listText items).toList := by
  intro items items' x y same
  simp only [toList_listText, List.cons_append, List.cons.injEq, true_and] at same
  cases items with
  | nil =>
    cases items' with
    | nil => exact ⟨rfl, List.append_cancel_left same⟩
    | cons s' rest' =>
      rw [afterBracket, afterBracket, List.append_assoc] at same
      exact absurd same.symm (quoted_append_ne s' _ _)
  | cons s rest =>
    cases items' with
    | nil =>
      rw [afterBracket, afterBracket, List.append_assoc] at same
      exact absurd same (quoted_append_ne s _ _)
    | cons s' rest' =>
      rw [afterBracket, afterBracket, List.append_assoc (quoted s).toList,
        List.append_assoc (quoted s').toList] at same
      obtain ⟨rfl, more⟩ := delimits_quoted same
      obtain ⟨rfl, rfl⟩ := delimits_laterItems more
      exact ⟨rfl, rfl⟩

theorem shown_listText (items : List String) : Shown (listText items).toList := by
  have later (s : String) : Shown (laterItem s) := shown_append.2 ⟨by decide, shown_quoted s⟩
  rw [toList_listText]
  refine shown_cons.2 ⟨by decide, ?_⟩
  cases items with
  | nil => decide
  | cons s rest =>
    refine shown_append.2 ⟨shown_quoted s, shown_append.2 ⟨?_, by decide⟩⟩
    intro c hc
    obtain ⟨t, -, hc⟩ := List.mem_flatMap.1 hc
    exact later t c hc

/-! ### Records -/

/-- The display of a record, field by field. -/
theorem toList_display (r : Record) : r.display.toList =
    "ScenarioRecord\x7btags=".toList ++ ((listText r.tags).toList ++
      (", group_name=".toList ++ ((quoted r.feature).toList ++
        (", name=".toList ++ ((quoted r.scenario).toList ++
          (", steps=".toList ++ ((listText r.steps).toList ++
            (", keywords=".toList ++ ((listText r.keywords).toList ++ ['\x7d']))))))))) := by
  simp [display, fieldTexts, Value.enclose]

theorem display_eq_iff {r r' : Record} : r.display = r'.display ↔ r = r' := by
  refine ⟨fun same => ?_, fun same => same ▸ rfl⟩
  have fields := congrArg String.toList same
  rw [toList_display, toList_display] at fields
  obtain ⟨tags, fields⟩ := delimits_listText (List.append_cancel_left fields)
  obtain ⟨feature, fields⟩ := delimits_quoted (List.append_cancel_left fields)
  obtain ⟨scenario, fields⟩ := delimits_quoted (List.append_cancel_left fields)
  obtain ⟨steps, fields⟩ := delimits_listText (List.append_cancel_left fields)
  obtain ⟨keywords, -⟩ := delimits_listText (List.append_cancel_left fields)
  cases r
  cases r'
  simp_all

theorem shown_display (r : Record) : Shown r.display.toList := by
  rw [toList_display]
  simp only [shown_append, shown_listText, shown_quoted, true_and]
  decide

/-- The display of a record tells it from every other record, and is one line of printable
characters whatever the record holds. -/
theorem display_identifies (r r' : Record) : (r.display = r'.display ↔ r = r') ∧
    Shown r.display.toList ∧ r.display.toList.any isLineBoundary = false := by
  refine ⟨display_eq_iff, shown_display r, List.any_eq_false.2 fun c hc ends => ?_⟩
  have printable := shown_display r c hc
  rw [isPrintable_of_isLineBoundary ends] at printable
  cases printable

/-- A text that imitates the end of its literal and the next field does not pass for them. -/
example : display ⟨["a', 'b"], "f\n", "", [], []⟩ = "ScenarioRecord\x7btags=[\"a', 'b\"], " ++
    "group_name='f\\n', name='', steps=[], keywords=[]\x7d" := by decide +kernel

end SoloScenario.Record

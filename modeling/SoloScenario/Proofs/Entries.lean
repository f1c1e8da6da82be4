import Mathlib.Data.List.Find
import Mathlib.Data.List.Pairwise
import SoloScenario.Value.Basic

/-! Entries of mappings under texts. A mapping has at most one entry under a text, so
that what is found under it does not depend on the order of the entries; this holds of
every mapping that is set entry by entry. -/

namespace SoloScenario.Value

variable {entries more : List (Value × Value)} {key name : String}

/-! ### What is found under a text -/

@[simp] theorem field?_nil : field? ([] : List (Value × Value)) key = none := rfl

theorem field?_cons (e : Value × Value) :
    field? (e :: entries) key = if e.1.isText key then some e.2 else field? entries key := by
  by_cases h : e.1.isText key <;> simp [field?, h]

theorem field?_cons_of_isText {k v : Value} (h : k.isText key = false) :
    field? ((k, v) :: entries) key = field? entries key := by
  rw [field?_cons, h]
  rfl

theorem isText_iff {v : Value} : v.isText key = true ↔ v = .text key := by
  cases v <;> simp [isText]

@[simp] theorem field?_cons_self (v : Value) : field? ((.text key, v) :: entries) key = some v := by
  rw [field?_cons, if_pos (isText_iff.2 rfl)]

theorem field?_cons_of_ne (h : name ≠ key) (v : Value) :
    field? ((.text name, v) :: entries) key = field? entries key :=
  field?_cons_of_isText (decide_eq_false h)

theorem field?_append :
    field? (entries ++ more) key = (field? entries key).or (field? more key) := by
  rw [field?, List.find?_append, Option.map_or]
  rfl

/-! ### What is given under a text -/

theorem given?_eq_some_iff {v : Value} :
    given? entries key = some v ↔ field? entries key = some v ∧ v ≠ .null := by
  have null (w : Value) : (!w.isNull) = true ↔ w ≠ .null := by
    cases w <;> simp [isNull]
  rw [given?, Option.filter_eq_some_iff, null]

theorem given?_eq_none (h : field? entries key = none) : given? entries key = none := by
  rw [given?, h, Option.filter_none]

theorem given?_cons_of_ne (h : name ≠ key) (v : Value) :
    given? ((.text name, v) :: entries) key = given? entries key :=
  given?_congr (field?_cons_of_ne h v)

theorem given?_cons_self (v : Value) :
    given? ((.text key, v) :: entries) key = (some v).filter fun v => !v.isNull := by
  rw [given?, field?_cons_self]

/-! ### Entries in any order -/

/-- Two entries are not under one text. -/
def Apart (e f : Value × Value) : Prop := ∀ key, ¬(e.1 = .text key ∧ f.1 = .text key)

instance : Std.Symm Apart := ⟨fun _ _ h key both => h key both.symm⟩

/-- No two entries are under one text. -/
def Distinct (entries : List (Value × Value)) : Prop := entries.Pairwise Apart

theorem distinct_of_nodup (h : (entries.map Prod.fst).Nodup) : Distinct entries := by
  refine (List.pairwise_map.1 h).imp fun ne key both => ne ?_
  rw [both.1, both.2]

/-- What is found under a text does not depend on the order of the entries. -/
theorem field?_perm {entries' : List (Value × Value)} (h : entries.Perm entries')
    (distinct : Distinct entries) (key : String) : field? entries key = field? entries' key := by
  rw [field?, field?, List.find?_eq_find?_of_perm h]
  rintro e ⟨he, under⟩ f ⟨hf, under'⟩
  by_contra ne
  exact distinct.forall he hf ne key ⟨isText_iff.1 under, isText_iff.1 under'⟩

/-! ### Mappings that are set entry by entry -/

/-- The keys of a mapping are those that it had and the one that is set. -/
theorem key_of_mem_put {k v : Value} {e : Value × Value} (h : e ∈ put entries k v) :
    e.1 = k ∨ ∃ f ∈ entries, f.1 = e.1 := by
  induction entries with
  | nil => exact .inl (congrArg Prod.fst (List.mem_singleton.1 h))
  | cons f rest ih =>
    rw [put] at h
    split at h
    · obtain rfl | h := List.mem_cons.1 h
      · exact .inr ⟨f, List.mem_cons_self, rfl⟩
      · exact .inr ⟨e, List.mem_cons_of_mem _ h, rfl⟩
    · obtain rfl | h := List.mem_cons.1 h
      · exact .inr ⟨_, List.mem_cons_self, rfl⟩
      · obtain set | ⟨g, hg, same⟩ := ih h
        · exact .inl set
        · exact .inr ⟨g, List.mem_cons_of_mem _ hg, same⟩

theorem distinct_put (h : Distinct entries) (k v : Value) : Distinct (put entries k v) := by
  induction entries with
  | nil => exact List.pairwise_singleton _ _
  | cons f rest ih =>
    obtain ⟨first, others⟩ := List.pairwise_cons.1 h
    rw [put]
    split
    · exact List.pairwise_cons.2 ⟨first, others⟩
    · next new =>
      refine List.pairwise_cons.2 ⟨fun e he key both => ?_, ih others⟩
      obtain set | ⟨g, hg, same⟩ := key_of_mem_put he
      · refine new ?_
        rw [both.1, ← set, both.2, sameKey_text]
        exact decide_eq_true rfl
      · exact first g hg key ⟨both.1, same.trans both.2⟩

/-- No two entries of a mapping are under one text. -/
theorem distinct_of_ofEntries {m : List (Value × Value)} (h : ofEntries entries = .map m) :
    Distinct m := by
  have set : ∀ (todo done : List (Value × Value)), Distinct done →
      Distinct (todo.foldl (fun m e => put m e.1 e.2) done) := by
    intro todo
    induction todo with
    | nil => exact fun _ distinct => distinct
    | cons e rest ih => exact fun done distinct => ih _ (distinct_put distinct e.1 e.2)
  obtain rfl := Value.map.inj h
  exact set entries [] .nil

end SoloScenario.Value

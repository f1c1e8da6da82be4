import SoloScenario.Proofs.Construction
import SoloScenario.Proofs.Respelling

/-! Records written as mappings. Each name is under one of its two keys, a list is under
its key or is left out if it is empty, and each step has one of its two forms, in
whatever order the entries come. Such a mapping gives the parts that the record is made
of, so loading it gives the record back. -/

namespace SoloScenario.Record

open Value (field? given? given?_eq_none given?_cons_of_ne given?_cons_self Distinct)

/-! ### Writing -/

/-- A mapping spells a step: under its keyword alone, or with its keyword and its text each under
a key of its own. -/
inductive SpellsStep (s : StepLine) : Value → Prop where
  | short (other : s.keyword ∉ ["keyword", "text"]) :
      SpellsStep s (.map [(.text s.keyword, .text s.text)])
  | long {entries : Entries} (order : entries.Perm
      [(.text "keyword", .text s.keyword), (.text "text", .text s.text)]) :
      SpellsStep s (.map entries)

/-- Entries spell a list: it is under its key, or it is empty and left out. -/
inductive SpellsList (key : String) : List Value → Entries → Prop where
  | present (items : List Value) : SpellsList key items [(.text key, .list items)]
  | leftOut : SpellsList key [] []

/-- A mapping spells a record. -/
inductive Spells (r : Record) : Entries → Prop where
  | mk {feature scenario : String} {tags steps entries : Entries} {items : List Value}
      (featureKey : feature ∈ NameField.feature.keys)
      (scenarioKey : scenario ∈ NameField.scenario.keys)
      (tagList : SpellsList "tags" (r.tags.map .text) tags)
      (each : List.Forall₂ SpellsStep r.stepLines items)
      (stepList : SpellsList "steps" items steps)
      (order : entries.Perm ((.text feature, .text r.feature) ::
        (.text scenario, .text r.scenario) :: (tags ++ steps))) :
      Spells r entries

/-- The parts that a record is made of. -/
def parts (r : Record) : Parts :=
  ⟨.text r.feature, .text r.scenario, r.tags.map .text,
    r.stepLines.map fun s => (.text s.keyword, .text s.text)⟩

/-! ### What is written -/

variable {r : Record} {entries : Entries}

theorem SpellsStep.givesStep {s : StepLine} {v : Value} (h : SpellsStep s v) :
    GivesStep v (.text s.keyword, .text s.text) := by
  cases h with
  | short other =>
    simp only [List.mem_cons, List.not_mem_nil, or_false, not_or] at other
    exact .single (Value.field?_cons_of_ne other.1 _) (Value.field?_cons_of_ne other.2 _)
  | long order =>
    refine (givesStep_iff_of_respells (.order ?_ order.symm) _).1 (.pair rfl rfl)
    exact Value.distinct_of_nodup (by simp)

theorem givesSteps_of_spells {lines : List StepLine} {items : List Value}
    (h : List.Forall₂ SpellsStep lines items) :
    List.Forall₂ GivesStep items (lines.map fun s => (.text s.keyword, .text s.text)) := by
  induction h with
  | nil => exact .nil
  | cons first _ ih => exact .cons first.givesStep ih

/-- A name that is under one of its keys is what is given for it. -/
theorem findSome?_of_only {keys : List String} {key : String} (hk : key ∈ keys)
    (others : ∀ k ∈ keys, field? entries k = none) (name : String) :
    keys.findSome? (given? ((.text key, .text name) :: entries)) = some (.text name) := by
  induction keys with
  | nil => cases hk
  | cons k rest ih =>
    rw [List.findSome?_cons]
    by_cases same : key = k
    · rw [← same, given?_cons_self]
      rfl
    · rw [given?_cons_of_ne same, given?_eq_none (others k List.mem_cons_self)]
      exact ih (List.mem_of_ne_of_mem same hk) fun k hk => others k (List.mem_cons_of_mem _ hk)

variable {key : String} {items : List Value} {part : Entries}

theorem SpellsList.field?_of_ne (h : SpellsList key items part) {k : String} (other : key ≠ k) :
    field? part k = none := by
  cases h with
  | present => exact Value.field?_cons_of_ne other _
  | leftOut => rfl

theorem SpellsList.lists (h : SpellsList key items part) : Lists part key items := by
  cases h with
  | present => exact .inr (Value.field?_cons_self _)
  | leftOut => exact .inl ⟨rfl, by simp⟩

theorem SpellsList.keys_sublist (h : SpellsList key items part) :
    (part.map Prod.fst).Sublist [.text key] := by
  cases h with
  | present => exact .refl _
  | leftOut => exact List.nil_sublist _

section Order

variable {feature scenario : String} {tags steps : Entries} {tagItems stepItems : List Value}

/-- No two entries that spell a record are under one text. -/
theorem distinct_written (featureKey : feature ∈ NameField.feature.keys)
    (scenarioKey : scenario ∈ NameField.scenario.keys) (tagList : SpellsList "tags" tagItems tags)
    (stepList : SpellsList "steps" stepItems steps) (v w : Value) :
    Distinct ((.text feature, v) :: (.text scenario, w) :: (tags ++ steps)) := by
  have apart : ∀ f ∈ NameField.feature.keys, ∀ s ∈ NameField.scenario.keys,
      [f, s, "tags", "steps"].Nodup := by decide
  have texts : ([feature, scenario, "tags", "steps"].map Value.text).Nodup :=
    (apart feature featureKey scenario scenarioKey).map fun _ _ => Value.text.inj
  refine Value.distinct_of_nodup (texts.sublist ?_)
  simp only [List.map_cons, List.map_append]
  exact ((tagList.keys_sublist.append stepList.keys_sublist).cons_cons _).cons_cons _

theorem ne_of_mem_keys {field : NameField} {key : String} (hk : key ∈ field.keys) :
    ∀ list ∈ ["tags", "steps"], key ≠ list := by
  rintro list hl rfl
  exact not_mem_keys_of_list field key hl hk

theorem field?_lists (tagList : SpellsList "tags" tagItems tags)
    (stepList : SpellsList "steps" stepItems steps) {field : NameField} {k : String}
    (hk : k ∈ field.keys) : field? (tags ++ steps) k = none := by
  have other := ne_of_mem_keys hk
  rw [Value.field?_append, tagList.field?_of_ne (other "tags" (by decide)).symm,
    stepList.field?_of_ne (other "steps" (by decide)).symm, Option.or_none]

end Order

theorem Spells.gives (h : Spells r entries) : Gives entries r.parts := by
  obtain @⟨feature, scenario, tags, steps, _, items, featureKey, scenarioKey, tagList, each,
    stepList, order⟩ := h
  have distinct := distinct_written featureKey scenarioKey tagList stepList
    (.text r.feature) (.text r.scenario)
  have other : ∀ key ∈ NameField.scenario.keys, key ∉ NameField.feature.keys :=
    not_mem_keys_of_ne (by decide)
  refine ((lookAlike_of_respells (.order distinct order.symm)).gives_iff _).1 ⟨?_, ?_, ?_, ?_⟩
  · refine findSome?_of_only featureKey (fun k hk => ?_) r.feature
    have ne : scenario ≠ k := by
      rintro rfl
      exact other scenario scenarioKey hk
    rw [Value.field?_cons_of_ne ne]
    exact field?_lists tagList stepList hk
  · refine (findSome?_given?_congr fun k hk => given?_cons_of_ne ?_ _).trans
      (findSome?_of_only scenarioKey (fun k hk => field?_lists tagList stepList hk) r.scenario)
    rintro rfl
    exact other feature hk featureKey
  · refine (lists_congr ?_).1 tagList.lists
    rw [Value.field?_cons_of_ne (ne_of_mem_keys featureKey _ (by decide)),
      Value.field?_cons_of_ne (ne_of_mem_keys scenarioKey _ (by decide)), Value.field?_append,
      stepList.field?_of_ne (by decide), Option.or_none]
  · refine ⟨items, (lists_congr ?_).1 stepList.lists, givesSteps_of_spells each⟩
    rw [Value.field?_cons_of_ne (ne_of_mem_keys featureKey _ (by decide)),
      Value.field?_cons_of_ne (ne_of_mem_keys scenarioKey _ (by decide)), Value.field?_append,
      tagList.field?_of_ne (by decide), Option.none_or]

theorem plain_parts (r : Record) : r.parts.Plain where
  feature := rfl
  scenario := rfl
  tags := by simp [parts, Value.isCollection]

theorem hasTexts_parts (r : Record) : r.parts.HasTexts := by
  intro v hv
  obtain ⟨s, rfl⟩ : ∃ s, v = .text s := by
    simp only [Parts.texts, parts, List.mem_append, List.mem_cons, List.not_mem_nil, or_false,
      List.mem_map, List.mem_flatMap] at hv
    grind
  rfl

theorem record_parts (h : r.Aligned) : r.parts.record = r := by
  have lines : r.parts.steps.map stepLine = r.stepLines := by
    rw [parts, List.map_map]
    exact List.map_id r.stepLines
  have tags : r.parts.tags.map Value.display = r.tags := by
    rw [parts, List.map_map]
    exact List.map_id r.tags
  have made := ofStepLines?_parts r.parts
  rw [lines, tags] at made
  exact Except.ok.inj (made.symm.trans (ofStepLines?_stepLines h))

theorem exists_spells (r : Record) : ∃ entries, Spells r entries := by
  have each : List.Forall₂ SpellsStep r.stepLines (r.stepLines.map fun s =>
      .map [(.text "keyword", .text s.keyword), (.text "text", .text s.text)]) :=
    List.forall₂_map_right_iff.2 (List.forall₂_same.2 fun s _ => .long (.refl _))
  exact ⟨_, .mk List.mem_cons_self List.mem_cons_self (.present _) each (.present _) (.refl _)⟩

/-- A record can be written, and whatever spells it is loaded as that record. -/
def LoadsBack (r : Record) : Prop :=
  (∃ entries, Spells r entries) ∧
    ∀ entries, Spells r entries → ∀ source, (load source (.map entries)).1 = .ok r

theorem loadsBack_of_built (h : Built r) : LoadsBack r := by
  refine ⟨exists_spells r, fun entries spells source => load_eq_ok_iff.2 ?_⟩
  exact ⟨r.parts, spells.gives, plain_parts r, hasTexts_parts r, (record_parts h.aligned).symm⟩

/-- A record whose texts look like nothing, like numbers and like the keys of a step. -/
def misleading : Record :=
  ⟨["", "@a", "@a"], "", "null", ["", "42", "- x: y"], ["text", "keyword", "Given"]⟩

/-- That record from its last entry on, with one step in the short form. -/
def backwards : Entries :=
  [(.text "steps", .list [.map [(.text "text", .text ""), (.text "keyword", .text "text")],
      .map [(.text "keyword", .text "keyword"), (.text "text", .text "42")],
      .map [(.text "Given", .text "- x: y")]]),
    (.text "tags", .list [.text "", .text "@a", .text "@a"]), (.text "name", .text "null"),
    (.text "group_name", .text "")]

theorem spells_backwards : Spells misleading backwards :=
  .mk (show "group_name" ∈ NameField.feature.keys by decide)
    (show "name" ∈ NameField.scenario.keys by decide) (.present _)
    (.cons (.long (.swap ..)) (.cons (.long (.refl _)) (.cons (.short (by decide)) .nil)))
    (.present _) (List.reverse_perm backwards).symm

theorem loadsBack_misleading :
    make? misleading.tags misleading.feature misleading.scenario misleading.steps
        misleading.keywords = .ok misleading ∧
      LoadsBack misleading ∧ (load "" (.map backwards)).1 = .ok misleading := by
  have made : make? misleading.tags misleading.feature misleading.scenario misleading.steps
      misleading.keywords = .ok misleading := rfl
  have back := loadsBack_of_built (.lists made)
  exact ⟨made, back, back.2 backwards spells_backwards ""⟩

end SoloScenario.Record

import Mathlib.Data.List.Forall2
import SoloScenario.Proofs.Steps
import SoloScenario.Record.Load

/-! What a mapping has to hold for a record to be loaded from it, said without the
order in which it is looked through: a value for each of the two names, a list of tags
and a list of steps. These parts are determined by the mapping, and the record that is
loaded is the one that they make, if all of them have a text. -/

namespace SoloScenario.Record

open Text (TextLike)
open Value (field? given?)

variable {T : Type} [DecidableEq T] [TextLike T]

/-! ### The parts of a mapping -/

/-- The list under a key has these members. What is not there or counts as nothing has none. -/
def Lists (entries : Entries T) (key : String) (members : List (Value T)) : Prop :=
  (members = [] ∧ ∀ v, field? entries key = some v → v.isEmpty = true) ∨
    field? entries key = some (.list members)

/-- A step gives a keyword and a text: under these two keys, or as its only key and value. -/
inductive GivesStep : Value T → Value T × Value T → Prop where
  | pair {entries : Entries T} {keyword text : Value T}
      (hk : field? entries "keyword" = some keyword)
      (ht : field? entries "text" = some text) :
      GivesStep (.map entries) (keyword, text)
  | single {keyword text : Value T} (hk : field? [(keyword, text)] "keyword" = none)
      (ht : field? [(keyword, text)] "text" = none) :
      GivesStep (.map [(keyword, text)]) (keyword, text)

/-- The values that make a record. -/
structure Parts (T : Type := String) where
  feature : Value T
  scenario : Value T
  tags : List (Value T)
  /-- Keywords with their texts. -/
  steps : List (Value T × Value T)

/-- A mapping gives these parts. -/
structure Gives (entries : Entries T) (p : Parts T) : Prop where
  feature : ["feature", "group_name"].findSome? (given? entries) = some p.feature
  scenario : ["scenario", "name"].findSome? (given? entries) = some p.scenario
  tags : Lists entries "tags" p.tags
  steps : ∃ members, Lists entries "steps" members ∧ List.Forall₂ GivesStep members p.steps

namespace Parts

omit [DecidableEq T] [TextLike T] in
/-- No name and no tag is a list or a mapping. -/
structure Plain (p : Parts T) : Prop where
  feature : p.feature.isCollection = false
  scenario : p.scenario.isCollection = false
  tags : ∀ v ∈ p.tags, v.isCollection = false

/-- The values that become text: both names, the tags, and the keyword and the text of each
step. -/
def texts (p : Parts T) : List (Value T) :=
  [p.feature, p.scenario] ++ p.tags ++ p.steps.flatMap fun s => [s.1, s.2]

/-- All of these values have a text: no whole number in them has too many digits. -/
def HasTexts (p : Parts T) : Prop := ∀ v ∈ p.texts, v.hasText = true

end Parts

/-- The step that a keyword and a text make; a text that is null is left out. -/
def stepLine (s : Value T × Value T) : StepLine T :=
  ⟨s.1.display, if s.2.isNull then TextLike.ofString "" else s.2.display⟩

/-- The record that parts make. -/
def Parts.record (p : Parts T) : Record T where
  tags := p.tags.map Value.display
  feature := p.feature.display
  scenario := p.scenario.display
  steps := p.steps.map fun s => (stepLine s).text
  keywords := p.steps.map fun s => (stepLine s).keyword

/-- What is read of these parts. -/
def Parts.draft (p : Parts T) : Draft T :=
  ⟨p.feature.display, p.scenario.display, p.tags, p.steps.map stepLine⟩

/-- The record that a value holds. -/
def ofValue? (v : Value T) : Except Refusal (Record T) := draft? v >>= Draft.record?

variable {entries : Entries T}

/-! ### Parts are determined -/

theorem Lists.unique {key : String} {members members' : List (Value T)}
    (h : Lists entries key members) (h' : Lists entries key members') : members = members' := by
  have of_empty : ∀ {items : List (Value T)}, (Value.list items).isEmpty = true → items = [] :=
    fun h => List.isEmpty_iff.1 h
  rcases h with ⟨rfl, empty⟩ | there <;> rcases h' with ⟨rfl, empty'⟩ | there'
  · rfl
  · exact (of_empty (empty _ there')).symm
  · exact of_empty (empty' _ there)
  · exact Value.list.inj (Option.some.inj (there.symm.trans there'))

theorem GivesStep.unique {v : Value T} {s s' : Value T × Value T} (h : GivesStep v s)
    (h' : GivesStep v s') : s = s' := by
  cases h with
  | pair hk ht =>
    cases h' with
    | pair hk' ht' =>
      rw [Option.some.inj (hk.symm.trans hk'), Option.some.inj (ht.symm.trans ht')]
    | single hk' _ => cases hk.symm.trans hk'
  | single hk ht =>
    cases h' with
    | pair hk' _ => cases hk.symm.trans hk'
    | single => rfl

theorem Gives.unique {p p' : Parts T} (h : Gives entries p) (h' : Gives entries p') : p = p' := by
  obtain ⟨members, there, gives⟩ := h.steps
  obtain ⟨members', there', gives'⟩ := h'.steps
  obtain rfl := there.unique there'
  have function : Relator.RightUnique (GivesStep (T := T)) := fun _ _ _ => GivesStep.unique
  have steps : p.steps = p'.steps := List.right_unique_forall₂' function gives gives'
  have feature := Option.some.inj (h.feature.symm.trans h'.feature)
  have scenario := Option.some.inj (h.scenario.symm.trans h'.scenario)
  have tags := h.tags.unique h'.tags
  cases p
  cases p'
  simp only [Parts.mk.injEq]
  exact ⟨feature, scenario, tags, steps⟩

/-! ### Loading -/

theorem map_firstPresent? (keys : List String) :
    (firstPresent? entries keys).map Prod.snd = keys.findSome? (given? entries) := by
  rw [firstPresent?, List.map_findSome?]
  congr 1
  funext key
  cases hv : given? entries key <;> simp [hv]

omit [DecidableEq T] in
theorem textOf_eq_ok_iff {v : Value T} {s : T} :
    textOf v = .ok s ↔ v.hasText = true ∧ s = v.display := by
  unfold textOf
  split
  · next text => simp [text, @eq_comm _ s]
  · next long => simp [long]

omit [DecidableEq T] in
theorem stepText_eq_ok_iff {v : Value T} {s : T} :
    stepText v = .ok s ↔
      v.hasText = true ∧ s = if v.isNull then TextLike.ofString "" else v.display := by
  cases v with
  | null => simp [stepText, Value.hasText, Value.isNull, eq_comm]
  | _ => exact textOf_eq_ok_iff

theorem loadName_eq_ok_iff {field : NameField} {s : T} :
    loadName entries field = .ok s ↔ ∃ v, field.keys.findSome? (given? entries) = some v ∧
      v.isCollection = false ∧ v.hasText = true ∧ s = v.display := by
  rw [← map_firstPresent?, loadName]
  cases firstPresent? entries field.keys with
  | none => simp
  | some entry =>
    obtain ⟨key, v⟩ := entry
    cases hc : v.isCollection with
    | true => simp [hc]
    | false => simp [hc, textOf_eq_ok_iff]

theorem loadList_eq_ok_iff {key : String} {refusal : Refusal} {members : List (Value T)} :
    loadList entries key refusal = .ok members ↔ Lists entries key members := by
  unfold loadList Lists
  cases hv : field? entries key with
  | none => simp [@eq_comm _ [] members]
  | some v =>
    cases he : v.isEmpty with
    | true =>
      have list : v = .list members → members = [] := by
        rintro rfl
        exact List.isEmpty_iff.1 he
      simpa [he, @eq_comm _ [] members] using list
    | false => cases v <;> simp [he]

omit [DecidableEq T] [TextLike T] in
theorem checkTags_eq_ok_iff {members : List (Value T)} {i : Nat} {u : Unit} :
    checkTags i members = .ok u ↔ ∀ v ∈ members, v.isCollection = false := by
  induction members generalizing i with
  | nil => simp [checkTags]
  | cons v rest ih =>
    cases hc : v.isCollection with
    | true => simp [checkTags, hc]
    | false => simp [checkTags, hc, ih]

theorem loadStep_eq_ok_iff {i : Nat} {v : Value T} {line : StepLine T} :
    loadStep i v = .ok line ↔ ∃ s, GivesStep v s ∧
      (s.1.hasText = true ∧ s.2.hasText = true) ∧ line = stepLine s := by
  -- the two forms of a step end in the same two texts
  have both (k t : Value T) : (do return StepLine.mk (← textOf k) (← stepText t)) = .ok line ↔
      (k.hasText = true ∧ t.hasText = true) ∧ line = stepLine (k, t) := by
    simp only [bind_eq_ok, textOf_eq_ok_iff, stepText_eq_ok_iff, pure_eq_ok, Except.ok.injEq]
    constructor
    · rintro ⟨_, ⟨hk, rfl⟩, _, ⟨ht, rfl⟩, rfl⟩
      exact ⟨⟨hk, ht⟩, rfl⟩
    · rintro ⟨⟨hk, ht⟩, rfl⟩
      exact ⟨_, ⟨hk, rfl⟩, _, ⟨ht, rfl⟩, rfl⟩
  constructor
  · intro h
    unfold loadStep at h
    split at h
    · split at h
      · next hk ht => exact ⟨_, .pair hk ht, (both _ _).1 h⟩
      · cases h
      · cases h
      · next hk ht =>
        split at h
        · exact ⟨_, .single hk ht, (both _ _).1 h⟩
        · cases h
    · cases h
  · rintro ⟨s, gives, made⟩
    cases gives with
    | pair hk ht =>
      simp only [loadStep, hk, ht]
      exact (both _ _).2 made
    | single hk ht =>
      simp only [loadStep, hk, ht]
      exact (both _ _).2 made

theorem loadSteps_eq_ok_iff {members : List (Value T)} {i : Nat} {lines : List (StepLine T)} :
    loadSteps i members = .ok lines ↔
      ∃ steps, List.Forall₂ GivesStep members steps ∧
        (∀ s ∈ steps, s.1.hasText = true ∧ s.2.hasText = true) ∧ lines = steps.map stepLine := by
  induction members generalizing i lines with
  | nil => simp [loadSteps, @eq_comm _ [] lines]
  | cons v rest ih =>
    simp only [loadSteps, bind_eq_ok, loadStep_eq_ok_iff, ih, pure_eq_ok, Except.ok.injEq]
    constructor
    · rintro ⟨_, ⟨s, gives, texts, rfl⟩, _, ⟨steps, more, others, rfl⟩, rfl⟩
      exact ⟨s :: steps, .cons gives more, List.forall_mem_cons.2 ⟨texts, others⟩, rfl⟩
    · rintro ⟨_, given, texts, rfl⟩
      cases given with
      | cons gives more =>
        obtain ⟨first, others⟩ := List.forall_mem_cons.1 texts
        exact ⟨_, ⟨_, gives, first, rfl⟩, _, ⟨_, more, others, rfl⟩, rfl⟩

/-- What is read of a mapping are the parts that it gives. -/
theorem draft?_eq_ok_iff {d : Draft T} :
    draft? (.map entries) = .ok d ↔ ∃ p, Gives entries p ∧ p.Plain ∧
      (p.feature.hasText = true ∧ p.scenario.hasText = true ∧
        ∀ s ∈ p.steps, s.1.hasText = true ∧ s.2.hasText = true) ∧ d = p.draft := by
  simp only [draft?, bind_eq_ok, loadName_eq_ok_iff, loadList_eq_ok_iff, checkTags_eq_ok_iff,
    loadSteps_eq_ok_iff, pure_eq_ok, Except.ok.injEq]
  constructor
  · rintro ⟨_, ⟨feature, hf, plainFeature, textFeature, rfl⟩, _,
      ⟨scenario, hs, plainScenario, textScenario, rfl⟩, tags, ht, _, plainTags, members, hm, _,
      ⟨steps, gives, texts, rfl⟩, rfl⟩
    exact ⟨⟨feature, scenario, tags, steps⟩, ⟨hf, hs, ht, members, hm, gives⟩,
      ⟨plainFeature, plainScenario, plainTags⟩, ⟨textFeature, textScenario, texts⟩, rfl⟩
  · rintro ⟨p, ⟨hf, hs, ht, members, hm, gives⟩, plain, ⟨feature, scenario, texts⟩, rfl⟩
    exact ⟨_, ⟨_, hf, plain.feature, feature, rfl⟩, _, ⟨_, hs, plain.scenario, scenario, rfl⟩,
      _, ht, (), plain.tags, members, hm, _, ⟨_, gives, texts, rfl⟩, rfl⟩

omit [DecidableEq T] in
theorem mapM_textOf_eq_ok_iff {vs : List (Value T)} {ts : List T} :
    vs.mapM textOf = .ok ts ↔ (∀ v ∈ vs, v.hasText = true) ∧ ts = vs.map Value.display := by
  induction vs generalizing ts with
  | nil => simp [@eq_comm _ [] ts]
  | cons v rest ih =>
    simp only [List.mapM_cons, bind_eq_ok, textOf_eq_ok_iff, ih, pure_eq_ok, Except.ok.injEq,
      List.forall_mem_cons, List.map_cons]
    constructor
    · rintro ⟨_, ⟨first, rfl⟩, _, ⟨others, rfl⟩, rfl⟩
      exact ⟨⟨first, others⟩, rfl⟩
    · rintro ⟨⟨first, others⟩, rfl⟩
      exact ⟨_, ⟨first, rfl⟩, _, ⟨others, rfl⟩, rfl⟩

omit [DecidableEq T] in
/-- The record that parts make is that of their pairs. -/
theorem ofStepLines?_parts (p : Parts T) :
    ofStepLines? (p.tags.map Value.display) p.feature.display p.scenario.display
      (p.steps.map stepLine) = .ok p.record := by
  simp [ofStepLines?_eq_ok, Parts.record, Function.comp_def]

omit [DecidableEq T] in
/-- A record is made of what was read if the tags have texts; steps come in pairs. -/
theorem record?_draft_eq_ok_iff {p : Parts T} {r : Record T} :
    p.draft.record? = .ok r ↔ (∀ v ∈ p.tags, v.hasText = true) ∧ r = p.record := by
  simp only [Draft.record?, Parts.draft, bind_eq_ok, mapM_textOf_eq_ok_iff]
  constructor
  · rintro ⟨_, ⟨texts, rfl⟩, made⟩
    rw [ofStepLines?_parts, mapError_ok, Except.ok.injEq] at made
    exact ⟨texts, made.symm⟩
  · rintro ⟨texts, rfl⟩
    exact ⟨_, ⟨texts, rfl⟩, by rw [ofStepLines?_parts, mapError_ok]⟩

/-- The record that a mapping holds is made by the parts that the mapping gives. -/
theorem ofValue?_eq_ok_iff {r : Record T} :
    ofValue? (.map entries) = .ok r ↔
      ∃ p, Gives entries p ∧ p.Plain ∧ p.HasTexts ∧ r = p.record := by
  have texts (p : Parts T) : p.HasTexts ↔ (p.feature.hasText = true ∧ p.scenario.hasText = true ∧
      ∀ s ∈ p.steps, s.1.hasText = true ∧ s.2.hasText = true) ∧
        ∀ v ∈ p.tags, v.hasText = true := by
    simp [Parts.HasTexts, Parts.texts]
    grind
  simp only [ofValue?, bind_eq_ok, draft?_eq_ok_iff]
  constructor
  · rintro ⟨_, ⟨p, gives, plain, read, rfl⟩, made⟩
    obtain ⟨tags, rfl⟩ := record?_draft_eq_ok_iff.1 made
    exact ⟨p, gives, plain, (texts p).2 ⟨read, tags⟩, rfl⟩
  · rintro ⟨p, gives, plain, all, rfl⟩
    obtain ⟨read, tags⟩ := (texts p).1 all
    exact ⟨_, ⟨p, gives, plain, read, rfl⟩, record?_draft_eq_ok_iff.2 ⟨tags, rfl⟩⟩

theorem draft?_of_other {v : Value T} (other : ∀ entries, v ≠ .map entries) :
    draft? v = .error (.notMapping v.kind) := by
  unfold draft?
  split
  · next entries => exact absurd rfl (other entries)
  · rfl

theorem ofValue?_of_other {v : Value T} (other : ∀ entries, v ≠ .map entries) :
    ofValue? v = .error (.notMapping v.kind) := by
  rw [ofValue?, draft?_of_other other]
  rfl

/-- A record is loaded from the parts of a mapping. -/
theorem exists_parts_of_ofValue? {v : Value T} {r : Record T} (h : ofValue? v = .ok r) :
    ∃ entries p, v = .map entries ∧ Gives entries p ∧ r = Parts.record p := by
  by_cases mapping : ∃ entries, v = .map entries
  · obtain ⟨entries, rfl⟩ := mapping
    obtain ⟨p, gives, -, -, rfl⟩ := ofValue?_eq_ok_iff.1 h
    exact ⟨entries, p, rfl, gives, rfl⟩
  · rw [ofValue?_of_other (not_exists.1 mapping)] at h
    cases h

theorem load_fst {source : String} {v : Value T} : (load source v).1 = ofValue? v := by
  rw [load, ofValue?]
  cases draft? v <;> rfl

end SoloScenario.Record

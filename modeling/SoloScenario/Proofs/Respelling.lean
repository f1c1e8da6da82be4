import Mathlib.Logic.Relation
import SoloScenario.Proofs.Entries
import SoloScenario.Proofs.ScalarText

/-! Spellings of one record. A mapping may be changed where nothing looks, or from one
form of a step to the other, without a change to the record that is loaded from it. A
single change keeps the parts that a mapping gives, so every sequence of changes does,
and a mapping that gives no parts still gives none. -/

namespace SoloScenario.Record

open Value (field? given? given?_congr given?_eq_none given?_cons_of_ne given?_cons_self
  Distinct)

/-! ### Changes of spelling -/

/-- The keys that are looked at in a record. -/
def recordKeys : List String :=
  NameField.feature.keys ++ NameField.scenario.keys ++ ["tags", "steps"]

/-- The keys that are looked at in a step. -/
def stepKeys : List String := ["keyword", "text"]

/-- A change to the spelling of a step. -/
inductive RespellsStep : Entries → Entries → Prop where
  | order {entries entries' : Entries} (distinct : Distinct entries)
      (h : entries.Perm entries') : RespellsStep entries entries'
  /-- Beside a keyword and a text, any other entry. -/
  | beside {entries : Entries} {key value : Value}
      (both : ∀ k ∈ stepKeys, (field? entries k).isSome)
      (other : ∀ k ∈ stepKeys, key.isText k = false) :
      RespellsStep entries ((key, value) :: entries)
  /-- A single entry, and its key and its value each under a key of their own. -/
  | apart {keyword text : Value} (other : ∀ k ∈ stepKeys, keyword.isText k = false) :
      RespellsStep [(keyword, text)] [(.text "keyword", keyword), (.text "text", text)]

/-- A change to the spelling of a record. One that adds an entry takes it away when it is undone,
and the two together put another value in its place. -/
inductive Respells : Entries → Entries → Prop where
  | order {entries entries' : Entries} (distinct : Distinct entries)
      (h : entries.Perm entries') : Respells entries entries'
  /-- An entry under a key that is not looked at. -/
  | beside {entries : Entries} {key value : Value}
      (other : ∀ k ∈ recordKeys, key.isText k = false) :
      Respells entries ((key, value) :: entries)
  /-- Whatever is under the second key of a name that is given under the first. -/
  | behind {entries : Entries} (field : NameField) {first second : String} {value : Value}
      (keys : field.keys = [first, second]) (there : (given? entries first).isSome) :
      Respells entries ((.text second, value) :: entries)
  /-- A name from its first key to its second. -/
  | moved {entries : Entries} (field : NameField) {first second : String} {value : Value}
      (keys : field.keys = [first, second])
      (absent : ∀ key ∈ field.keys, field? entries key = none) :
      Respells ((.text first, value) :: entries) ((.text second, value) :: entries)
  /-- A name's key without a value. -/
  | unset {entries : Entries} {field : NameField} {key : String} (hk : key ∈ field.keys)
      (absent : field? entries key = none) : Respells entries ((.text key, .null) :: entries)
  /-- A list that is left out, and what counts as nothing in its place. -/
  | nothing {entries : Entries} {key : String} {value : Value} (hk : key ∈ ["tags", "steps"])
      (absent : field? entries key = none) (empty : value.isEmpty = true) :
      Respells entries ((.text key, value) :: entries)
  | step {entries step step' : Entries} (before after : List Value)
      (h : RespellsStep step step') :
      Respells ((.text "steps", .list (before ++ .map step :: after)) :: entries)
        ((.text "steps", .list (before ++ .map step' :: after)) :: entries)

/-- One spelling is reached from another by changes, made or undone. -/
def Respelt : Entries → Entries → Prop := Relation.EqvGen Respells

/-! ### What a change keeps -/

variable {entries entries' : Entries}

theorem givesStep_map_iff {s : Value × Value} : GivesStep (.map entries) s ↔
    (field? entries "keyword" = some s.1 ∧ field? entries "text" = some s.2) ∨
      (field? entries "keyword" = none ∧ field? entries "text" = none ∧ entries = [s]) := by
  constructor
  · intro gives
    cases gives with
    | pair hk ht => exact .inl ⟨hk, ht⟩
    | single hk ht => exact .inr ⟨hk, ht, rfl⟩
  · rintro (⟨hk, ht⟩ | ⟨hk, ht, rfl⟩)
    · exact .pair hk ht
    · exact .single hk ht

theorem givesStep_iff_of_respells (h : RespellsStep entries entries') (s : Value × Value) :
    GivesStep (.map entries) s ↔ GivesStep (.map entries') s := by
  rw [givesStep_map_iff, givesStep_map_iff]
  have keyword : "keyword" ∈ stepKeys := by decide
  have text : "text" ∈ stepKeys := by decide
  cases h with
  | order distinct h =>
    have single : entries = [s] ↔ entries' = [s] := by
      rw [← List.perm_singleton, ← List.perm_singleton, h.congr_left]
    rw [Value.field?_perm h distinct, Value.field?_perm h distinct, single]
  | beside both other =>
    have there : ∀ k ∈ stepKeys, field? entries k ≠ none := fun k hk =>
      Option.isSome_iff_ne_none.1 (both k hk)
    simp [Value.field?_cons_of_isText (other _ keyword), Value.field?_cons_of_isText (other _ text),
      there _ keyword]
  | apart other =>
    simp [Value.field?_cons_of_isText (other _ keyword), Value.field?_cons_of_isText (other _ text),
      Value.field?_cons_of_ne, Prod.ext_iff]

/-- Two mappings give the same steps if they differ in one that gives the same. -/
theorem forall₂_givesStep_iff {v v' : Value} (h : ∀ s, GivesStep v s ↔ GivesStep v' s)
    {before after : List Value} {steps : List (Value × Value)} :
    List.Forall₂ GivesStep (before ++ v :: after) steps ↔
      List.Forall₂ GivesStep (before ++ v' :: after) steps := by
  induction before generalizing steps with
  | nil => simp only [List.nil_append, List.forall₂_cons_left_iff, h]
  | cons _ before ih => simp only [List.cons_append, List.forall₂_cons_left_iff, ih]

theorem lists_congr {key : String} (h : field? entries key = field? entries' key)
    {items : List Value} : Lists entries key items ↔ Lists entries' key items := by
  rw [Lists, Lists, h]

theorem lists_iff_of_isEmpty {key : String}
    (h : ∀ v, field? entries key = some v → v.isEmpty = true) {items : List Value} :
    Lists entries key items ↔ items = [] :=
  ⟨fun there => there.unique (.inl ⟨rfl, h⟩), fun none => .inl ⟨none, h⟩⟩

theorem lists_iff_of_list {key : String} {members : List Value}
    (h : field? entries key = some (.list members)) {items : List Value} :
    Lists entries key items ↔ items = members :=
  ⟨fun there => there.unique (.inr h), fun same => .inr (same ▸ h)⟩

/-- What a record is loaded from looks the same in two mappings. -/
structure LookAlike (entries entries' : Entries) : Prop where
  names : ∀ field : NameField,
    field.keys.findSome? (given? entries) = field.keys.findSome? (given? entries')
  tags : ∀ items, Lists entries "tags" items ↔ Lists entries' "tags" items
  steps : ∀ steps, (∃ items, Lists entries "steps" items ∧ List.Forall₂ GivesStep items steps) ↔
    ∃ items, Lists entries' "steps" items ∧ List.Forall₂ GivesStep items steps

theorem LookAlike.symm (h : LookAlike entries entries') : LookAlike entries' entries :=
  ⟨fun field => (h.names field).symm, fun items => (h.tags items).symm,
    fun steps => (h.steps steps).symm⟩

theorem LookAlike.gives (h : LookAlike entries entries') {p : Parts} (gives : Gives entries p) :
    Gives entries' p where
  feature := (h.names .feature).symm.trans gives.feature
  scenario := (h.names .scenario).symm.trans gives.scenario
  tags := (h.tags p.tags).1 gives.tags
  steps := (h.steps p.steps).1 gives.steps

theorem LookAlike.gives_iff (h : LookAlike entries entries') (p : Parts) :
    Gives entries p ↔ Gives entries' p :=
  ⟨h.gives, h.symm.gives⟩

theorem findSome?_given?_congr {keys : List String}
    (h : ∀ key ∈ keys, given? entries key = given? entries' key) :
    keys.findSome? (given? entries) = keys.findSome? (given? entries') := by
  induction keys with
  | nil => rfl
  | cons key rest ih =>
    obtain ⟨first, others⟩ := List.forall_mem_cons.1 h
    rw [List.findSome?_cons, List.findSome?_cons, first, ih others]

/-! ### Keys of their own -/

theorem ne_of_keys {field : NameField} {first second : String}
    (keys : field.keys = [first, second]) : first ≠ second := by
  have distinct : field.keys.Nodup := by cases field <;> decide
  rw [keys] at distinct
  simpa using distinct

/-- What is given for a name: what is under its first key, or else under its second. -/
theorem findSome?_keys {field : NameField} {first second : String}
    (keys : field.keys = [first, second]) :
    field.keys.findSome? (given? entries) = (given? entries first).or (given? entries second) := by
  rw [keys, List.findSome?_cons, List.findSome?_cons, List.findSome?_nil]
  cases given? entries first <;> cases given? entries second <;> rfl

theorem not_mem_keys_of_ne {field other : NameField} (h : other ≠ field) :
    ∀ key ∈ other.keys, key ∉ field.keys := by
  cases field with
  | feature =>
    cases other with
    | feature => exact absurd rfl h
    | scenario => decide
  | scenario =>
    cases other with
    | feature => decide
    | scenario => exact absurd rfl h

theorem not_mem_keys_of_list (field : NameField) : ∀ key ∈ ["tags", "steps"], key ∉ field.keys := by
  cases field <;> decide

theorem mem_recordKeys_of_mem_keys {field : NameField} {key : String} (h : key ∈ field.keys) :
    key ∈ recordKeys := by
  cases field with
  | feature => exact List.mem_append_left _ (List.mem_append_left _ h)
  | scenario => exact List.mem_append_left _ (List.mem_append_right _ h)

/-! ### Mappings that look alike -/

theorem lookAlike_of_field? (h : ∀ key ∈ recordKeys, field? entries key = field? entries' key) :
    LookAlike entries entries' where
  names _ := findSome?_given?_congr fun key hk =>
    given?_congr (h key (mem_recordKeys_of_mem_keys hk))
  tags _ := lists_congr (h "tags" (by decide))
  steps _ := by simp only [lists_congr (h "steps" (by decide))]

/-- Mappings that differ in what is under the keys of one name look alike if it is the same. -/
theorem lookAlike_of_name (field : NameField)
    (others : ∀ key, key ∉ field.keys → field? entries key = field? entries' key)
    (name : field.keys.findSome? (given? entries) = field.keys.findSome? (given? entries')) :
    LookAlike entries entries' where
  names other := by
    by_cases h : other = field
    · rw [h, name]
    · exact findSome?_given?_congr fun key hk =>
        given?_congr (others key (not_mem_keys_of_ne h key hk))
  tags _ := lists_congr (others _ (not_mem_keys_of_list field "tags" (by decide)))
  steps _ := by simp only [lists_congr (others _ (not_mem_keys_of_list field "steps" (by decide)))]

theorem names_of_list {key : String} (hk : key ∈ ["tags", "steps"])
    (others : ∀ k, k ≠ key → field? entries k = field? entries' k) (field : NameField) :
    field.keys.findSome? (given? entries) = field.keys.findSome? (given? entries') :=
  findSome?_given?_congr fun k hname => given?_congr (others k fun same =>
    not_mem_keys_of_list field key hk (same ▸ hname))

/-- Mappings that differ in what is under the key of one list look alike if it has the same
members. -/
theorem lookAlike_of_list {key : String} (hk : key ∈ ["tags", "steps"])
    (others : ∀ k, k ≠ key → field? entries k = field? entries' k)
    (list : ∀ items, Lists entries key items ↔ Lists entries' key items) :
    LookAlike entries entries' := by
  have lists : ∀ k items, Lists entries k items ↔ Lists entries' k items := by
    intro k items
    by_cases h : k = key
    · rw [h, list]
    · exact lists_congr (others k h)
  exact ⟨names_of_list hk others, lists "tags", fun steps => by simp only [lists]⟩

/-! ### Single changes -/

variable {field : NameField} {first second key : String} {value : Value}

theorem lookAlike_behind (keys : field.keys = [first, second])
    (there : (given? entries first).isSome) :
    LookAlike entries ((.text second, value) :: entries) := by
  refine lookAlike_of_name field (fun key hk => ?_) ?_
  · refine (Value.field?_cons_of_ne ?_ value).symm
    rintro rfl
    exact hk (by simp [keys])
  · obtain ⟨v, hv⟩ := Option.isSome_iff_exists.1 there
    rw [findSome?_keys keys, findSome?_keys keys, given?_cons_of_ne (ne_of_keys keys).symm, hv,
      Option.some_or, Option.some_or]

theorem lookAlike_moved (keys : field.keys = [first, second])
    (absent : ∀ key ∈ field.keys, field? entries key = none) :
    LookAlike ((.text first, value) :: entries) ((.text second, value) :: entries) := by
  have ne := ne_of_keys keys
  have nowhere : ∀ key ∈ field.keys, given? entries key = none :=
    fun key hk => given?_eq_none (absent key hk)
  refine lookAlike_of_name field (fun key hk => ?_) ?_
  · simp only [keys, List.mem_cons, List.not_mem_nil, or_false, not_or] at hk
    rw [Value.field?_cons_of_ne (Ne.symm hk.1), Value.field?_cons_of_ne (Ne.symm hk.2)]
  · rw [findSome?_keys keys, findSome?_keys keys, given?_cons_self, given?_cons_self,
      given?_cons_of_ne ne, given?_cons_of_ne ne.symm, nowhere first (by simp [keys]),
      nowhere second (by simp [keys]), Option.or_none, Option.none_or]

theorem lookAlike_unset (hk : key ∈ field.keys) (absent : field? entries key = none) :
    LookAlike entries ((.text key, .null) :: entries) := by
  refine lookAlike_of_name field (fun k hn => ?_) (findSome?_given?_congr fun k _ => ?_)
  · refine (Value.field?_cons_of_ne ?_ _).symm
    rintro rfl
    exact hn hk
  · by_cases same : key = k
    · rw [← same, given?_cons_self, given?_eq_none absent]
      rfl
    · rw [given?_cons_of_ne same]

theorem lookAlike_nothing (hk : key ∈ ["tags", "steps"]) (absent : field? entries key = none)
    (empty : value.isEmpty = true) : LookAlike entries ((.text key, value) :: entries) := by
  refine lookAlike_of_list hk (fun k other => (Value.field?_cons_of_ne other.symm value).symm)
    fun items => ?_
  rw [lists_iff_of_isEmpty (by simp [absent]), lists_iff_of_isEmpty (by simpa using empty)]

theorem lookAlike_step {step step' : Entries} (before after : List Value)
    (h : RespellsStep step step') :
    LookAlike ((.text "steps", .list (before ++ .map step :: after)) :: entries)
      ((.text "steps", .list (before ++ .map step' :: after)) :: entries) := by
  have others : ∀ members members' k, k ≠ "steps" →
      field? ((.text "steps", .list members) :: entries) k =
        field? ((.text "steps", .list members') :: entries) k := by
    intro members members' k other
    rw [Value.field?_cons_of_ne other.symm, Value.field?_cons_of_ne other.symm]
  refine ⟨names_of_list (by decide) (others _ _), fun _ => lists_congr (others _ _ _ (by decide)),
    fun steps => ?_⟩
  simp only [lists_iff_of_list (Value.field?_cons_self _), exists_eq_left,
    forall₂_givesStep_iff (givesStep_iff_of_respells h)]

theorem lookAlike_of_respells (h : Respells entries entries') : LookAlike entries entries' := by
  cases h with
  | order distinct h => exact lookAlike_of_field? fun key _ => Value.field?_perm h distinct key
  | beside other =>
    exact lookAlike_of_field? fun key hk => (Value.field?_cons_of_isText (other key hk)).symm
  | behind _ keys there => exact lookAlike_behind keys there
  | moved _ keys absent => exact lookAlike_moved keys absent
  | unset hk absent => exact lookAlike_unset hk absent
  | nothing hk absent empty => exact lookAlike_nothing hk absent empty
  | step before after h => exact lookAlike_step before after h

/-! ### What is loaded -/

/-- All spellings that are reached by changes give the same parts. -/
theorem gives_iff_of_respelt (h : Respelt entries entries') (p : Parts) :
    Gives entries p ↔ Gives entries' p := by
  induction h with
  | rel _ _ h => exact (lookAlike_of_respells h).gives_iff p
  | refl => exact Iff.rfl
  | symm _ _ _ ih => exact ih.symm
  | trans _ _ _ _ _ ih ih' => exact ih.trans ih'

/-- Two results give one record, or neither gives any. -/
def LoadsAlike (x y : Except Refusal Record) : Prop :=
  (∃ r, x = .ok r ∧ y = .ok r) ∨ ((∃ f, x = .error f) ∧ ∃ f, y = .error f)

theorem loadsAlike_iff {x y : Except Refusal Record} :
    LoadsAlike x y ↔ ∀ r, x = .ok r ↔ y = .ok r := by
  cases x <;> cases y <;> simp [LoadsAlike, eq_comm]

/-- However a record is spelled, it is the same record that is loaded, or none. -/
theorem loadsAlike_of_respelt (h : Respelt entries entries') (source source' : String) :
    LoadsAlike (load source (.map entries)).1 (load source' (.map entries')).1 := by
  refine loadsAlike_iff.2 fun r => ?_
  simp only [load_eq_ok_iff, gives_iff_of_respelt h]

/-- A record with tags that count as nothing, a name of which a list stands in the shadow, and a
step in the short form. -/
def terse : Entries :=
  [(.text "tags", .int 0), (.text "group_name", .list []), (.text "feature", .text "F"),
    (.text "scenario", .text "S"), (.text "steps", .list [.map [(.text "Given", .null)]])]

/-- The same record with a name under its second key, a step in the long form, and notes. -/
def verbose : Entries :=
  [(.int 1, .null), (.text "steps", .list [.map [(.text "note", .map []),
      (.text "keyword", .text "Given"), (.text "text", .null)]]),
    (.text "group_name", .text "F"), (.text "scenario", .text "S")]

theorem respelt_terse : Respelt terse verbose := by
  let named : Entries := [(.text "group_name", .text "F"), (.text "scenario", .text "S")]
  let steps (step : Entries) : Value × Value := (.text "steps", .list [.map step])
  let short : Entries := [(.text "Given", .null)]
  let long : Entries := [(.text "keyword", .text "Given"), (.text "text", .null)]
  let note : Value × Value := (.text "note", .map [])
  -- the tags and what stands in the shadow are left out, and the name goes to its second key
  have names : Respelt terse (named ++ [steps short]) :=
    .trans _ _ _ (.symm _ _ (.rel _ _ (.nothing (by decide) rfl rfl))) <|
      .trans _ _ _ (.symm _ _ (.rel _ _ (.behind .feature rfl rfl)))
        (.rel _ _ (.moved .feature rfl (by decide)))
  have distinct : Distinct (named ++ [steps short]) :=
    Value.distinct_of_ofEntries
      (show Value.ofEntries (named ++ [steps short]) = .map (named ++ [steps short]) from rfl)
  have order : Respells (named ++ [steps short]) (steps short :: named) :=
    .order distinct List.perm_append_comm
  have apart : Respells (steps short :: named) (steps long :: named) :=
    .step [] [] (.apart (by decide))
  have noted : Respells (steps long :: named) (steps (note :: long) :: named) :=
    .step [] [] (.beside (by decide) (by decide))
  have beside : Respells (steps (note :: long) :: named) verbose := .beside (by decide)
  exact names.trans _ _ _ <| (Relation.EqvGen.rel _ _ order).trans _ _ _ <|
    (Relation.EqvGen.rel _ _ apart).trans _ _ _ <| (Relation.EqvGen.rel _ _ noted).trans _ _ _ <|
      .rel _ _ beside

theorem loadsAlike_terse :
    (load "" (.map terse)).1 = .ok ⟨[], "F", "S", [""], ["Given"]⟩ ∧
      LoadsAlike (load "" (.map terse)).1 (load "" (.map verbose)).1 :=
  ⟨by decide +kernel, loadsAlike_of_respelt respelt_terse "" ""⟩

end SoloScenario.Record

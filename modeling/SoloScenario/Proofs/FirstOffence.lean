import SoloScenario.Proofs.Acceptance

/-! Loading refuses a value for the first offence in it. The conditions on a value stand in
a row, in the order of its parts and within a list in the order of the members; each is
given by the refusals that offend it. A computation in steps fails with the first offence
against a row if each step does so for its own part of the row, so loading is followed
step by step. What was read is logged before the record is made of it; since pairs of
keywords and texts always make one, only a tag without a text can still be refused then. -/

namespace SoloScenario

/-! ### Conditions in a row -/

section Conditions

variable {ε α β : Type} {offends : ε → Prop} {conditions more : List (ε → Prop)}
  {x : Except ε α} {f : ε}

/-- The first condition of a row that is offended, by this offence. -/
def FirstOffence (conditions : List (ε → Prop)) (f : ε) : Prop :=
  ∃ before offends after, conditions = before ++ offends :: after ∧ offends f ∧
    ∀ earlier ∈ before, ∀ g, ¬earlier g

/-- No condition of a row is offended. -/
def Unoffended (conditions : List (ε → Prop)) : Prop := ∀ offends ∈ conditions, ∀ g, ¬offends g

theorem FirstOffence.exists_mem (h : FirstOffence conditions f) :
    ∃ offends ∈ conditions, offends f := by
  obtain ⟨before, offends, after, rfl, hf, -⟩ := h
  exact ⟨offends, by simp, hf⟩

theorem not_firstOffence_nil : ¬FirstOffence [] f := by
  rintro ⟨before, offends, after, row, -⟩
  simp at row

theorem firstOffence_cons :
    FirstOffence (offends :: conditions) f ↔
      offends f ∨ (∀ g, ¬offends g) ∧ FirstOffence conditions f := by
  constructor
  · rintro ⟨_ | ⟨first, before⟩, late, after, row, hf, earlier⟩
    · obtain ⟨rfl, -⟩ := List.cons.inj row
      exact .inl hf
    · obtain ⟨rfl, rfl⟩ := List.cons.inj row
      exact .inr ⟨earlier _ List.mem_cons_self, before, late, after, rfl, hf,
        fun c hc => earlier c (List.mem_cons_of_mem _ hc)⟩
  · rintro (hf | ⟨first, before, late, after, rfl, hf, earlier⟩)
    · exact ⟨[], offends, conditions, rfl, hf, by simp⟩
    · exact ⟨offends :: before, late, after, rfl, hf, List.forall_mem_cons.2 ⟨first, earlier⟩⟩

theorem firstOffence_singleton : FirstOffence [offends] f ↔ offends f := by
  simp [firstOffence_cons, not_firstOffence_nil]

theorem unoffended_cons :
    Unoffended (offends :: conditions) ↔ (∀ g, ¬offends g) ∧ Unoffended conditions :=
  List.forall_mem_cons

theorem firstOffence_append :
    FirstOffence (conditions ++ more) f ↔
      FirstOffence conditions f ∨ Unoffended conditions ∧ FirstOffence more f := by
  induction conditions with
  | nil => simp [not_firstOffence_nil, Unoffended]
  | cons offends conditions ih =>
    rw [List.cons_append, firstOffence_cons, firstOffence_cons, ih, unoffended_cons]
    tauto

/-- Where a condition is offended, there is a first one. -/
theorem exists_firstOffence (conditions : List (ε → Prop)) :
    Unoffended conditions ∨ ∃ f, FirstOffence conditions f := by
  induction conditions with
  | nil => exact .inl (by simp [Unoffended])
  | cons offends conditions ih =>
    by_cases here : ∃ g, offends g
    · obtain ⟨g, hg⟩ := here
      exact .inr ⟨g, firstOffence_cons.2 (.inl hg)⟩
    · have fine : ∀ g, ¬offends g := not_exists.1 here
      obtain later | ⟨f, hf⟩ := ih
      · exact .inl (unoffended_cons.2 ⟨fine, later⟩)
      · exact .inr ⟨f, firstOffence_cons.2 (.inr ⟨fine, hf⟩)⟩

/-! ### Computations that keep to conditions -/

/-- A computation fails with the first offence against conditions, and with nothing else. -/
def KeepsTo (x : Except ε α) (conditions : List (ε → Prop)) : Prop :=
  ∀ f, x = .error f ↔ FirstOffence conditions f

theorem KeepsTo.unoffended {a : α} (h : KeepsTo x conditions) (done : x = .ok a) :
    Unoffended conditions := by
  obtain fine | ⟨f, hf⟩ := exists_firstOffence conditions
  · exact fine
  · have failed := (h f).2 hf
    rw [done] at failed
    cases failed

theorem keepsTo_ok (a : α) : KeepsTo (.ok a : Except ε α) [] :=
  fun _ => iff_of_false (by simp) not_firstOffence_nil

theorem keepsTo_singleton : KeepsTo x [offends] ↔ ∀ f, x = .error f ↔ offends f := by
  simp only [KeepsTo, firstOffence_singleton]

/-- One step after the other keeps to the conditions of the one and then those of the other. -/
theorem KeepsTo.bind {next : α → Except ε β} (h : KeepsTo x conditions)
    (hn : ∀ a, x = .ok a → KeepsTo (next a) more) :
    KeepsTo (x >>= next) (conditions ++ more) := by
  intro f
  rw [firstOffence_append, ← h f]
  cases hx : x with
  | error e =>
    have offended : ¬Unoffended conditions := by
      intro fine
      obtain ⟨offends, there, he⟩ := ((h e).1 hx).exists_mem
      exact fine offends there e he
    simp [offended]
  | ok a => simp [h.unoffended hx, hn a hx f]

theorem KeepsTo.map {g : α → β} (h : KeepsTo x conditions) : KeepsTo (x.map g) conditions := by
  intro f
  rw [← h f]
  cases x <;> simp

end Conditions

/-- Refusals of an entry of a mapping. -/
def Refusal.isOfEntry : Refusal → Bool
  | .notMapping _ | .misaligned _ => false
  | _ => true

namespace Record

open Text (TextLike)
open Value (field? given?)

variable {T : Type} [DecidableEq T] [TextLike T] {entries : Entries T} {field : NameField}
  {key : String} {refusal : Refusal}

/-! ### Offences -/

/-- A value that becomes text holds a whole number of too many digits. -/
inductive TextOffence (v : Value T) : Refusal → Prop where
  | long (long : v.hasText = false) : TextOffence v .tooManyDigits

/-- A name is nowhere given, or where it is first given it is a list or a mapping, or has no
text. -/
inductive NameOffence (entries : Entries T) (field : NameField) : Refusal → Prop where
  | missing (nowhere : ∀ key ∈ field.keys, given? entries key = none) :
      NameOffence entries field (.nameMissing field)
  | collection {before after : List String} {key : String} {v : Value T}
      (keys : field.keys = before ++ key :: after)
      (earlier : ∀ k ∈ before, given? entries k = none) (here : given? entries key = some v)
      (collection : v.isCollection = true) : NameOffence entries field (.nameCollection key)
  | text {before after : List String} {key : String} {v : Value T} {f : Refusal}
      (keys : field.keys = before ++ key :: after)
      (earlier : ∀ k ∈ before, given? entries k = none) (here : given? entries key = some v)
      (plain : v.isCollection = false) (text : TextOffence v f) : NameOffence entries field f

/-- What is there under the key of a list is no list, and does not count as nothing either. -/
inductive ListOffence (entries : Entries T) (key : String) (refusal : Refusal) :
    Refusal → Prop where
  | other {v : Value T} (here : field? entries key = some v) (full : v.isEmpty = false)
      (other : ∀ items, v ≠ .list items) : ListOffence entries key refusal refusal

/-- A tag is a list or a mapping. -/
inductive TagOffence (i : Nat) : Value T → Refusal → Prop where
  | collection {v : Value T} (collection : v.isCollection = true) :
      TagOffence i v (.tagCollection i)

/-- A step is no mapping, has only one of keyword and text, has neither and not exactly one
entry, or has no text for one of them. -/
inductive StepOffence (i : Nat) : Value T → Refusal → Prop where
  | notMapping {v : Value T} (other : ∀ entries, v ≠ .map entries) :
      StepOffence i v (.stepNotMapping i)
  | noKeyword {entries : Entries T} {text : Value T}
      (keyword : field? entries "keyword" = none) (text : field? entries "text" = some text) :
      StepOffence i (.map entries) (.stepMissing "keyword" i)
  | noText {entries : Entries T} {keyword : Value T}
      (keyword : field? entries "keyword" = some keyword) (text : field? entries "text" = none) :
      StepOffence i (.map entries) (.stepMissing "text" i)
  | entries {entries : Entries T} (keyword : field? entries "keyword" = none)
      (text : field? entries "text" = none) (count : entries.length ≠ 1) :
      StepOffence i (.map entries) (.stepEntries i)
  | text {v : Value T} {s : Value T × Value T} {f : Refusal} (gives : GivesStep v s)
      (text : TextOffence s.1 f ∨ TextOffence s.2 f) : StepOffence i v f

/-- The members of the list under a key. -/
def members (entries : Entries T) (key : String) : List (Value T) :=
  match field? entries key with
  | some (.list items) => items
  | _ => []

/-- The conditions on what is read of a mapping, in order. -/
def readConditions (entries : Entries T) : List (Refusal → Prop) :=
  [NameOffence entries .feature, NameOffence entries .scenario] ++
    (ListOffence entries "tags" .tagsNotList :: (members entries "tags").mapIdx TagOffence) ++
    (ListOffence entries "steps" .stepsNotList :: (members entries "steps").mapIdx StepOffence)

/-- The conditions on the entries of a mapping, in order: the tags need not have texts until the
record is made. -/
def entryConditions (entries : Entries T) : List (Refusal → Prop) :=
  readConditions entries ++ (members entries "tags").map TextOffence

/-- The conditions on a value, in order: it is a mapping, and those on its entries. -/
def conditions (v : Value T) : List (Refusal → Prop) :=
  (fun f => (∀ entries, v ≠ .map entries) ∧ f = .notMapping v.kind) ::
    match v with
    | .map entries => entryConditions entries
    | _ => []

/-- Every condition on the entries of a mapping is offended by an entry. -/
theorem isOfEntry_of_mem {offends : Refusal → Prop} (h : offends ∈ entryConditions entries)
    (offence : offends refusal) : refusal.isOfEntry = true := by
  have text {v : Value T} (h : TextOffence v refusal) : refusal.isOfEntry = true := by
    cases h
    rfl
  simp only [entryConditions, readConditions, List.mem_append, List.mem_cons, List.not_mem_nil,
    or_false, List.mem_mapIdx, List.mem_map] at h
  have name {field : NameField} (h : NameOffence entries field refusal) :
      refusal.isOfEntry = true := by
    cases h with
    | text _ _ _ _ long => exact text long
    | _ => rfl
  have step {i : Nat} {v : Value T} (h : StepOffence i v refusal) : refusal.isOfEntry = true := by
    cases h with
    | text _ long => exact long.elim text text
    | _ => rfl
  obtain (((rfl | rfl) | rfl | ⟨i, hi, rfl⟩) | rfl | ⟨i, hi, rfl⟩) | ⟨tag, -, rfl⟩ := h
  · exact name offence
  · exact name offence
  · cases offence
    rfl
  · cases offence
    rfl
  · cases offence
    rfl
  · exact step offence
  · exact text offence

/-! ### What each step of loading refuses -/

omit [DecidableEq T] in
theorem textOf_eq_error_iff {v : Value T} : textOf v = .error refusal ↔ TextOffence v refusal := by
  unfold textOf
  split
  · next text =>
    refine iff_of_false (by simp) ?_
    rintro ⟨long⟩
    exact Bool.false_ne_true (long.symm.trans text)
  · next long =>
    constructor
    · intro h
      obtain rfl := Except.error.inj h
      exact .long (Bool.eq_false_iff.2 long)
    · rintro ⟨-⟩
      rfl

omit [DecidableEq T] in
theorem stepText_eq_error_iff {v : Value T} :
    stepText v = .error refusal ↔ TextOffence v refusal := by
  cases v with
  | null =>
    refine iff_of_false (by simp [stepText]) ?_
    rintro ⟨long⟩
    cases long
  | _ => exact textOf_eq_error_iff

/-- Where a name is first given. -/
theorem firstPresent?_eq_some_iff {keys : List String} {v : Value T} :
    firstPresent? entries keys = some (key, v) ↔ ∃ before after, keys = before ++ key :: after ∧
      (∀ k ∈ before, given? entries k = none) ∧ given? entries key = some v := by
  rw [firstPresent?, List.findSome?_eq_some_iff]
  constructor
  · rintro ⟨before, _, after, rfl, found, earlier⟩
    obtain ⟨_, here, same⟩ := Option.map_eq_some_iff.1 found
    obtain ⟨rfl, rfl⟩ := Prod.mk.inj same
    exact ⟨before, after, rfl, fun k hk => Option.map_eq_none_iff.1 (earlier k hk), here⟩
  · rintro ⟨before, after, rfl, earlier, here⟩
    exact ⟨before, key, after, rfl, by rw [here]; rfl,
      fun k hk => Option.map_eq_none_iff.2 (earlier k hk)⟩

theorem firstPresent?_eq_none_iff {keys : List String} :
    firstPresent? entries keys = none ↔ ∀ key ∈ keys, given? entries key = none := by
  simp [firstPresent?, List.findSome?_eq_none_iff]

theorem loadName_eq_error_iff :
    loadName entries field = .error refusal ↔ NameOffence entries field refusal := by
  constructor
  · intro h
    unfold loadName at h
    split at h
    · next nowhere =>
      obtain rfl := Except.error.inj h
      exact .missing (firstPresent?_eq_none_iff.1 nowhere)
    · next key v first =>
      obtain ⟨before, after, keys, earlier, here⟩ := firstPresent?_eq_some_iff.1 first
      split at h
      · next collection =>
        obtain rfl := Except.error.inj h
        exact .collection keys earlier here collection
      · next plain =>
        exact .text keys earlier here (Bool.eq_false_iff.2 plain) (textOf_eq_error_iff.1 h)
  · intro h
    cases h with
    | missing nowhere => rw [loadName, firstPresent?_eq_none_iff.2 nowhere]
    | collection keys earlier here collection =>
      rw [loadName, firstPresent?_eq_some_iff.2 ⟨_, _, keys, earlier, here⟩]
      exact if_pos collection
    | text keys earlier here plain text =>
      rw [loadName, firstPresent?_eq_some_iff.2 ⟨_, _, keys, earlier, here⟩]
      exact (if_neg (by simp [plain])).trans (textOf_eq_error_iff.2 text)

theorem loadList_eq_error_iff {f : Refusal} :
    loadList entries key refusal = .error f ↔ ListOffence entries key refusal f := by
  constructor
  · intro h
    unfold loadList at h
    split at h
    · cases h
    · next v here =>
      split at h
      · cases h
      · next full =>
        split at h
        · cases h
        · next other =>
          obtain rfl := Except.error.inj h
          exact .other here (Bool.eq_false_iff.2 full) other
  · rintro ⟨here, full, other⟩
    unfold loadList
    rw [here]
    simp only [full, Bool.false_eq_true, if_false]

theorem eq_members_of_loadList {items : List (Value T)}
    (h : loadList entries key refusal = .ok items) : items = members entries key := by
  obtain ⟨rfl, empty⟩ | here := loadList_eq_ok_iff.1 h
  · unfold members
    split
    · next items here => exact (List.isEmpty_iff.1 (empty _ here)).symm
    · rfl
  · rw [members, here]

omit [DecidableEq T] in
/-- The two texts of a step are refused as each of them is. -/
theorem stepTexts_eq_error_iff {k t : Value T} :
    (do return StepLine.mk (← textOf k) (← stepText t)) = .error refusal ↔
      TextOffence k refusal ∨ TextOffence t refusal := by
  rw [← textOf_eq_error_iff, ← stepText_eq_error_iff]
  cases hk : textOf k with
  | error f =>
    have other : stepText t = .error refusal → f = refusal := by
      intro ht
      obtain ⟨-⟩ := textOf_eq_error_iff.1 hk
      obtain ⟨-⟩ := stepText_eq_error_iff.1 ht
      rfl
    simpa using other
  | ok s => cases stepText t <;> simp

theorem loadStep_eq_error_iff {i : Nat} {v : Value T} :
    loadStep i v = .error refusal ↔ StepOffence i v refusal := by
  constructor
  · intro h
    unfold loadStep at h
    split at h
    · next entries =>
      split at h
      · next hk ht => exact .text (.pair hk ht) (stepTexts_eq_error_iff.1 h)
      · next hk ht =>
        obtain rfl := Except.error.inj h
        exact .noKeyword hk ht
      · next hk ht =>
        obtain rfl := Except.error.inj h
        exact .noText hk ht
      · next hk ht =>
        split at h
        · exact .text (.single hk ht) (stepTexts_eq_error_iff.1 h)
        · next several =>
          obtain rfl := Except.error.inj h
          refine .entries hk ht fun one => ?_
          obtain ⟨⟨k, t⟩, rfl⟩ := List.length_eq_one_iff.1 one
          exact several k t rfl
    · next other =>
      obtain rfl := Except.error.inj h
      exact .notMapping other
  · intro h
    cases h with
    | notMapping other =>
      unfold loadStep
      split
      · next entries => exact absurd rfl (other entries)
      · rfl
    | noKeyword hk ht => simp only [loadStep, hk, ht]
    | noText hk ht => simp only [loadStep, hk, ht]
    | entries hk ht count =>
      simp only [loadStep, hk, ht]
      split
      · exact absurd rfl count
      · rfl
    | text gives text =>
      cases gives with
      | pair hk ht =>
        simp only [loadStep, hk, ht]
        exact stepTexts_eq_error_iff.2 text
      | single hk ht =>
        simp only [loadStep, hk, ht]
        exact stepTexts_eq_error_iff.2 text

/-! ### Loading keeps to the conditions -/

omit [DecidableEq T] [TextLike T] in
/-- The conditions on the first member of a list and on the others, whose indices are one more. -/
theorem mapIdx_offence_cons {offence : Nat → Value T → Refusal → Prop} (i : Nat) (v : Value T)
    (rest : List (Value T)) :
    (v :: rest).mapIdx (fun j => offence (i + j)) =
      [offence i v] ++ rest.mapIdx fun j => offence (i + 1 + j) := by
  simp [List.mapIdx_cons, Nat.add_left_comm, Nat.add_comm]

omit [DecidableEq T] [TextLike T] in
theorem keepsTo_checkTags (i : Nat) (vs : List (Value T)) :
    KeepsTo (checkTags i vs) (vs.mapIdx fun j => TagOffence (i + j)) := by
  induction vs generalizing i with
  | nil => exact keepsTo_ok ()
  | cons v rest ih =>
    have first : checkTags i (v :: rest) =
        (if v.isCollection then .error (.tagCollection i) else .ok ()) >>= fun _ =>
          checkTags (i + 1) rest := by
      rw [checkTags]
      split <;> rfl
    rw [first, mapIdx_offence_cons]
    refine KeepsTo.bind (keepsTo_singleton.2 fun f => ?_) fun _ _ => ih (i + 1)
    split
    · next collection =>
      constructor
      · intro h
        obtain rfl := Except.error.inj h
        exact .collection collection
      · rintro ⟨-⟩
        rfl
    · next plain =>
      refine iff_of_false (by simp) ?_
      rintro ⟨collection⟩
      exact plain collection

theorem keepsTo_loadSteps (i : Nat) (vs : List (Value T)) :
    KeepsTo (loadSteps i vs) (vs.mapIdx fun j => StepOffence (i + j)) := by
  induction vs generalizing i with
  | nil => exact keepsTo_ok []
  | cons v rest ih =>
    rw [loadSteps, mapIdx_offence_cons]
    refine KeepsTo.bind (keepsTo_singleton.2 fun _ => loadStep_eq_error_iff) fun s _ => ?_
    rw [← List.append_nil (rest.mapIdx _)]
    exact (ih (i + 1)).bind fun more _ => keepsTo_ok (s :: more)

/-- A list is loaded and then its members are, and both keep to the conditions on the list. -/
theorem keepsTo_loadList {α : Type} {load : List (Value T) → Except Refusal α}
    {offence : Nat → Value T → Refusal → Prop}
    (h : ∀ vs, KeepsTo (load vs) (vs.mapIdx fun j => offence (0 + j))) :
    KeepsTo (loadList entries key refusal >>= load)
      (ListOffence entries key refusal :: (members entries key).mapIdx offence) := by
  have list : KeepsTo (loadList entries key refusal) [ListOffence entries key refusal] :=
    keepsTo_singleton.2 fun _ => loadList_eq_error_iff
  refine list.bind fun items loaded => ?_
  have each := h items
  simp only [Nat.zero_add] at each
  rwa [eq_members_of_loadList loaded] at each ⊢

/-- The tags of a mapping, once they have been checked. -/
def readTags (entries : Entries T) : Except Refusal (List (Value T)) := do
  let tags ← loadList entries "tags" .tagsNotList
  checkTags 0 tags
  return tags

theorem keepsTo_readTags :
    KeepsTo (readTags entries)
      (ListOffence entries "tags" .tagsNotList :: (members entries "tags").mapIdx TagOffence) := by
  have each (vs : List (Value T)) : KeepsTo ((checkTags 0 vs).map fun _ => vs)
      (vs.mapIdx fun j => TagOffence (0 + j)) :=
    (keepsTo_checkTags 0 vs).map
  exact keepsTo_loadList each

/-- Reading a mapping, where each list with its members is one step. -/
theorem draft?_map (entries : Entries T) :
    draft? (.map entries) =
      (loadName entries .feature >>= fun feature =>
        loadName entries .scenario >>= fun scenario => readTags entries >>= fun tags =>
        (loadList entries "steps" .stepsNotList >>= loadSteps 0) >>= fun lines =>
        .ok ⟨feature, scenario, tags, lines⟩) := by
  simp only [draft?, readTags, bind_assoc]
  rfl

theorem keepsTo_draft? (entries : Entries T) :
    KeepsTo (draft? (.map entries)) (readConditions entries) := by
  have name (field : NameField) :
      KeepsTo (loadName entries field) [NameOffence entries field] :=
    keepsTo_singleton.2 fun _ => loadName_eq_error_iff
  rw [draft?_map, readConditions, List.append_assoc,
    ← List.append_nil (ListOffence entries "steps" _ :: _)]
  refine (name .feature).bind fun feature _ => (name .scenario).bind fun scenario _ => ?_
  refine keepsTo_readTags.bind fun tags _ => ?_
  exact (keepsTo_loadList (keepsTo_loadSteps 0)).bind fun lines _ => keepsTo_ok _

omit [DecidableEq T] in
theorem keepsTo_mapM_textOf (vs : List (Value T)) :
    KeepsTo (vs.mapM textOf) (vs.map TextOffence) := by
  induction vs with
  | nil => exact keepsTo_ok []
  | cons v rest ih =>
    rw [List.mapM_cons, List.map_cons, ← List.singleton_append,
      ← List.append_nil (rest.map TextOffence)]
    refine KeepsTo.bind (keepsTo_singleton.2 fun _ => textOf_eq_error_iff) fun s _ => ?_
    exact ih.bind fun more _ => keepsTo_ok (s :: more)

omit [DecidableEq T] in
/-- Making the record refuses a tag without a text and nothing else: the pairs that were read
are aligned. -/
theorem keepsTo_record? (d : Draft T) : KeepsTo d.record? (d.tags.map TextOffence) := by
  rw [← List.append_nil (d.tags.map TextOffence)]
  refine (keepsTo_mapM_textOf d.tags).bind fun tags _ => ?_
  rw [ofStepLines?_eq_ok]
  exact keepsTo_ok _

/-- The tags that were read are those of the mapping. -/
theorem tags_of_draft? {d : Draft T} (h : draft? (.map entries) = .ok d) :
    d.tags = members entries "tags" := by
  obtain ⟨p, gives, -, -, rfl⟩ := draft?_eq_ok_iff.1 h
  have loaded : loadList entries "tags" .tagsNotList = .ok p.tags :=
    loadList_eq_ok_iff.2 gives.tags
  exact eq_members_of_loadList loaded

theorem keepsTo_entries (entries : Entries T) :
    KeepsTo (ofValue? (.map entries)) (entryConditions entries) := by
  refine (keepsTo_draft? entries).bind fun d read => ?_
  rw [← tags_of_draft? read]
  exact keepsTo_record? d

theorem conditions_of_other {v : Value T} (other : ∀ entries, v ≠ .map entries) :
    conditions v = [fun f => (∀ entries, v ≠ .map entries) ∧ f = .notMapping v.kind] := by
  unfold conditions
  split
  · next entries => exact absurd rfl (other entries)
  · rfl

theorem keepsTo_ofValue? (v : Value T) : KeepsTo (ofValue? v) (conditions v) := by
  intro f
  by_cases mapping : ∃ entries, v = .map entries
  · obtain ⟨entries, rfl⟩ := mapping
    rw [keepsTo_entries entries f]
    exact (firstOffence_cons.trans (by simp)).symm
  · have other : ∀ entries, v ≠ .map entries := not_exists.1 mapping
    rw [ofValue?_of_other other, conditions_of_other other, firstOffence_singleton,
      and_iff_right other, Except.error.injEq, eq_comm]

/-! ### What is loaded -/

/-- A step is a mapping that has a keyword and a text under their keys, or neither and a single
entry. -/
def IsStep (v : Value T) : Prop :=
  ∃ entries, v = .map entries ∧
    ((∃ k, field? entries "keyword" = some k) ∧ (∃ t, field? entries "text" = some t) ∨
      field? entries "keyword" = none ∧ field? entries "text" = none ∧ entries.length = 1)

/-- A mapping holds a record: both names are given and, where they are first given, neither is a
list or a mapping; tags and steps are lists or count as nothing; no tag is a list or a mapping,
and every step is one. -/
structure HoldsRecord (entries : Entries T) : Prop where
  feature : ∃ v, ["feature", "group_name"].findSome? (given? entries) = some v ∧
    v.isCollection = false
  scenario : ∃ v, ["scenario", "name"].findSome? (given? entries) = some v ∧
    v.isCollection = false
  tags : ∃ tags, Lists entries "tags" tags ∧ ∀ v ∈ tags, v.isCollection = false
  steps : ∃ steps, Lists entries "steps" steps ∧ ∀ v ∈ steps, IsStep v

theorem isStep_iff {v : Value T} : IsStep v ↔ ∃ s, GivesStep v s := by
  constructor
  · rintro ⟨entries, rfl, ⟨⟨k, hk⟩, t, ht⟩ | ⟨hk, ht, one⟩⟩
    · exact ⟨(k, t), .pair hk ht⟩
    · obtain ⟨⟨k, t⟩, rfl⟩ := List.length_eq_one_iff.1 one
      exact ⟨(k, t), .single hk ht⟩
  · rintro ⟨s, gives⟩
    cases gives with
    | pair hk ht => exact ⟨_, rfl, .inl ⟨⟨_, hk⟩, _, ht⟩⟩
    | single hk ht => exact ⟨_, rfl, .inr ⟨hk, ht, rfl⟩⟩

theorem forall_isStep_iff {vs : List (Value T)} :
    (∀ v ∈ vs, IsStep v) ↔ ∃ steps, List.Forall₂ GivesStep vs steps := by
  induction vs with
  | nil => exact ⟨fun _ => ⟨[], .nil⟩, fun _ v hv => by cases hv⟩
  | cons v rest ih =>
    rw [List.forall_mem_cons, ih, isStep_iff]
    constructor
    · rintro ⟨⟨s, gives⟩, steps, more⟩
      exact ⟨s :: steps, .cons gives more⟩
    · rintro ⟨_, both⟩
      cases both with
      | cons gives more => exact ⟨⟨_, gives⟩, _, more⟩

theorem holdsRecord_iff : HoldsRecord entries ↔ ∃ p, Gives entries p ∧ p.Plain := by
  constructor
  · rintro ⟨⟨feature, hf, plainFeature⟩, ⟨scenario, hs, plainScenario⟩, ⟨tags, ht, plainTags⟩,
      members, listed, each⟩
    obtain ⟨steps, gives⟩ := forall_isStep_iff.1 each
    exact ⟨⟨feature, scenario, tags, steps⟩, ⟨hf, hs, ht, members, listed, gives⟩,
      ⟨plainFeature, plainScenario, plainTags⟩⟩
  · rintro ⟨p, ⟨hf, hs, ht, steps, listed, gives⟩, plain⟩
    exact ⟨⟨_, hf, plain.feature⟩, ⟨_, hs, plain.scenario⟩, ⟨_, ht, plain.tags⟩, steps, listed,
      forall_isStep_iff.2 ⟨_, gives⟩⟩

/-- A mapping is loaded exactly if it holds a record and all that becomes text has one. -/
theorem exists_ofValue?_eq_ok_iff : (∃ r, ofValue? (.map entries) = .ok r) ↔
    HoldsRecord entries ∧ ∀ p, Gives entries p → p.HasTexts := by
  simp only [ofValue?_eq_ok_iff, holdsRecord_iff]
  constructor
  · rintro ⟨_, p, gives, plain, texts, -⟩
    refine ⟨⟨p, gives, plain⟩, fun p' gives' => ?_⟩
    rwa [gives'.unique gives]
  · rintro ⟨⟨p, gives, plain⟩, texts⟩
    exact ⟨_, p, gives, plain, texts p gives, rfl⟩

/-! ### Loading and its log -/

variable {v : Value T} {r : Record T}

/-- Reading a mapping, and making a record of what was read, refuses an entry: it is a mapping,
and its steps come in pairs. -/
theorem isOfEntry_of_ofValue? (h : ofValue? (.map entries) = .error refusal) :
    refusal.isOfEntry = true := by
  obtain ⟨offends, there, offence⟩ := ((keepsTo_entries entries _).1 h).exists_mem
  exact isOfEntry_of_mem there offence

/-- Nothing is refused for steps that are not aligned: they come in pairs. -/
theorem ne_misaligned (h : ofValue? v = .error refusal) (m : Misaligned) :
    refusal ≠ .misaligned m := by
  rintro rfl
  by_cases mapping : ∃ entries, v = .map entries
  · obtain ⟨entries, rfl⟩ := mapping
    cases isOfEntry_of_ofValue? h
  · rw [ofValue?_of_other (not_exists.1 mapping)] at h
    cases h

/-- The entry that tells of a loaded record. -/
def loadedEntry (source : String) (r : Record T) : LogEntry :=
  let scenario := TextLike.shown r.scenario
  ⟨.debug, "scenario_split.record.parser",
    s!"Loaded record '{scenario}' from {source} ({r.tags.length} tags, {r.steps.length} steps)"⟩

/-- What loading does with a value: it loads the record that a mapping holds, and refuses anything
else for the first condition that is offended. -/
structure Judges (source : String) (v : Value T) (result : Except Refusal (Record T) × Log) :
    Prop where
  /-- A record is loaded if the mapping holds one and what becomes text has a text. -/
  loaded_iff : (∃ r, result.1 = .ok r) ↔
    ∃ entries, v = .map entries ∧ HoldsRecord entries ∧ ∀ p, Gives entries p → p.HasTexts
  refused_iff : ∀ f, result.1 = .error f ↔ FirstOffence (conditions v) f
  /-- The constructor does not refuse what was read. -/
  aligned : ∀ m, result.1 ≠ .error (.misaligned m)
  made : ∀ r, result.1 = .ok r → make? r.tags r.feature r.scenario r.steps r.keywords = .ok r
  logged : ∀ r, result.1 = .ok r → result.2 = [loadedEntry source r]
  silent : ∀ f, result.1 = .error f → f ≠ .tooManyDigits → result.2 = []

/-- What was logged when a record is loaded are the counts of the record: the tags that were read
become as many texts, and the pairs that were read are never refused. -/
theorem load_snd_of_ok {source : String} (h : ofValue? v = .ok r) :
    (load source v).2 = [loadedEntry source r] := by
  obtain ⟨d, read, made⟩ := bind_eq_ok.1 h
  obtain ⟨tags, texts, made⟩ := bind_eq_ok.1 made
  rw [ofStepLines?_eq_ok, mapError_ok, Except.ok.injEq] at made
  obtain ⟨-, rfl⟩ := mapM_textOf_eq_ok_iff.1 texts
  subst made
  simp [load, read, Draft.entry, loadedEntry]

/-- Where a value is refused, nothing was logged, but for a tag that has no text: all else is
refused while it is read. -/
theorem load_snd_of_error {source : String} (h : ofValue? v = .error refusal)
    (short : refusal ≠ .tooManyDigits) : (load source v).2 = [] := by
  cases read : draft? v with
  | error f => rw [load, read]
  | ok d =>
    rw [ofValue?, read, ok_bind] at h
    obtain ⟨offends, there, offence⟩ := ((keepsTo_record? d _).1 h).exists_mem
    obtain ⟨tag, -, rfl⟩ := List.mem_map.1 there
    cases offence
    exact absurd rfl short

/-- A value is loaded exactly if it holds a record, and refused for the first offence in it. -/
theorem judges_load (source : String) (v : Value T) : Judges source v (load source v) where
  loaded_iff := by
    rw [load_fst]
    constructor
    · rintro ⟨r, h⟩
      obtain ⟨entries, -, rfl, -⟩ := exists_parts_of_ofValue? h
      exact ⟨entries, rfl, exists_ofValue?_eq_ok_iff.1 ⟨r, h⟩⟩
    · rintro ⟨entries, rfl, holds⟩
      exact exists_ofValue?_eq_ok_iff.2 holds
  refused_iff f := by
    rw [load_fst]
    exact keepsTo_ofValue? v f
  aligned m h := by
    rw [load_fst] at h
    exact ne_misaligned h m rfl
  made r h := by
    rw [load_fst] at h
    obtain ⟨-, p, -, -, rfl⟩ := exists_parts_of_ofValue? h
    exact make?_eq_ok_iff.2 ⟨by simp [Parts.record], rfl⟩
  logged r h := load_snd_of_ok (by rwa [load_fst] at h)
  silent f h := load_snd_of_error (by rwa [load_fst] at h)

/-- Of two tags that are no text and a step without a text, the first tag is told of. -/
example : (load "" (.map [(.text "name", .text "a"), (.text "feature", .null),
    (.text "group_name", .int 7), (.text "steps", .list [.map [(.text "keyword", .null)]]),
    (.text "tags", .list [.text "@b", .map [], .list []])] : Value)).1 =
      .error (.tagCollection 1) := by
  decide +kernel

end Record

end SoloScenario

import SoloScenario.Proofs.Acceptance

/-! Which values become the text of a record. A name or a tag that is a list or a mapping is
refused, as the record would hold its literal. Keywords and texts of steps are not looked at
in the same way, so that lists and mappings are kept out exactly if no step has one, or if the
record is refused for a whole number that has too many digits to become text. -/

namespace SoloScenario.Record

variable {entries : Entries} {p : Parts}

/-- No keyword and no text of a step is a list or a mapping. -/
def Parts.PlainSteps (p : Parts) : Prop :=
  ∀ s ∈ p.steps, s.1.isCollection = false ∧ s.2.isCollection = false

/-- A mapping that gives a list or a mapping where text belongs is refused. -/
def KeepsCollectionsOut (source : String) (entries : Entries) : Prop :=
  ∀ p, Gives entries p → (∃ v ∈ p.texts, v.isCollection = true) →
    ∃ f, (load source (.map entries)).1 = .error f

/-- What is loaded from a mapping is made of values that are neither lists nor mappings. -/
def MadeOfScalars (source : String) (entries : Entries) : Prop :=
  ∀ r, (load source (.map entries)).1 = .ok r →
    ∃ p, Gives entries p ∧ r = p.record ∧ ∀ v ∈ p.texts, v.isCollection = false

theorem forall_texts_iff :
    (∀ v ∈ p.texts, v.isCollection = false) ↔ p.Plain ∧ p.PlainSteps := by
  simp only [Parts.texts, Parts.PlainSteps, List.forall_mem_append, List.forall_mem_cons,
    List.mem_flatMap]
  constructor
  · rintro ⟨⟨⟨feature, scenario, -⟩, tags⟩, steps⟩
    exact ⟨⟨feature, scenario, tags⟩, fun s hs =>
      ⟨steps s.1 ⟨s, hs, by simp⟩, steps s.2 ⟨s, hs, by simp⟩⟩⟩
  · rintro ⟨plain, steps⟩
    refine ⟨⟨⟨plain.feature, plain.scenario, by simp⟩, plain.tags⟩, ?_⟩
    rintro v ⟨s, hs, hv⟩
    obtain rfl | hv := List.mem_cons.1 hv
    · exact (steps s hs).1
    · rw [List.mem_singleton.1 hv]
      exact (steps s hs).2

theorem load_eq_ok_iff {source : String} {r : Record} :
    (load source (.map entries)).1 = .ok r ↔
      ∃ p, Gives entries p ∧ p.Plain ∧ p.HasTexts ∧ r = p.record := by
  rw [load_fst, ofValue?_eq_ok_iff]

/-- A mapping is refused if it does not give the parts of a record, gives a name or a tag that is
a list or a mapping, or gives a whole number of too many digits. -/
theorem exists_load_eq_error_iff {source : String} :
    (∃ f, (load source (.map entries)).1 = .error f) ↔
      ∀ p, Gives entries p → ¬(p.Plain ∧ p.HasTexts) := by
  simp only [exists_eq_error_iff, ne_eq, load_eq_ok_iff]
  constructor
  · rintro refused p gives ⟨plain, texts⟩
    exact refused p.record ⟨p, gives, plain, texts, rfl⟩
  · rintro refused _ ⟨p, gives, plain, texts, -⟩
    exact refused p gives ⟨plain, texts⟩

/-- The steps of a mapping are plain, if all else about it is fine. -/
def StepsPlain (entries : Entries) : Prop :=
  ∀ p, Gives entries p → p.Plain → p.HasTexts → p.PlainSteps

theorem keepsCollectionsOut_iff_stepsPlain {source : String} :
    KeepsCollectionsOut source entries ↔ StepsPlain entries := by
  constructor
  · intro keeps p gives plain texts
    refine (forall_texts_iff.1 fun v hv => ?_).2
    by_contra collection
    refine exists_load_eq_error_iff.1 (keeps p gives ⟨v, hv, ?_⟩) p gives ⟨plain, texts⟩
    exact eq_true_of_ne_false collection
  · rintro steps p gives ⟨v, hv, collection⟩
    refine exists_load_eq_error_iff.2 fun p' gives' ⟨plain, texts⟩ => ?_
    obtain rfl := gives.unique gives'
    have scalar := forall_texts_iff.2 ⟨plain, steps p gives plain texts⟩ v hv
    rw [collection] at scalar
    cases scalar

theorem madeOfScalars_iff_stepsPlain {source : String} :
    MadeOfScalars source entries ↔ StepsPlain entries := by
  constructor
  · intro scalars p gives plain texts
    obtain ⟨p', gives', -, scalar⟩ :=
      scalars p.record (load_eq_ok_iff.2 ⟨p, gives, plain, texts, rfl⟩)
    obtain rfl := gives.unique gives'
    exact (forall_texts_iff.1 scalar).2
  · intro steps r loaded
    obtain ⟨p, gives, plain, texts, rfl⟩ := load_eq_ok_iff.1 loaded
    exact ⟨p, gives, rfl, forall_texts_iff.2 ⟨plain, steps p gives plain texts⟩⟩

/-- Lists and mappings are kept out of a record exactly if no step has one for its keyword or its
text, where all whole numbers have few enough digits to become text; where a name or a tag is a
list or a mapping, or a number has too many digits, nothing is loaded. -/
theorem keepsCollectionsOut_iff (source : String) (entries : Entries) :
    (KeepsCollectionsOut source entries ↔ MadeOfScalars source entries) ∧
      (KeepsCollectionsOut source entries ↔ StepsPlain entries) ∧
      ((∃ f, (load source (.map entries)).1 = .error f) ↔
        ∀ p, Gives entries p → ¬(p.Plain ∧ p.HasTexts)) := by
  refine ⟨?_, keepsCollectionsOut_iff_stepsPlain, exists_load_eq_error_iff⟩
  rw [keepsCollectionsOut_iff_stepsPlain, madeOfScalars_iff_stepsPlain]

/-- A mapping with a step whose text is a mapping. -/
def nestedStep : Entries :=
  [(.text "feature", .text "F"), (.text "scenario", .text "S"),
    (.text "steps", .list [.map [(.text "Given", .map [(.text "a", .int 1)])]])]

/-- The literal of a mapping can become the text of a step. -/
theorem not_keepsCollectionsOut_nestedStep :
    (load "<inline>" (.map nestedStep)).1 =
        .ok ⟨[], "F", "S", ["\x7b'a': 1\x7d"], ["Given"]⟩ ∧
      ¬KeepsCollectionsOut "<inline>" nestedStep := by
  have loaded : (load "<inline>" (.map nestedStep)).1 =
      .ok ⟨[], "F", "S", ["\x7b'a': 1\x7d"], ["Given"]⟩ := by decide +kernel
  refine ⟨loaded, fun keeps => ?_⟩
  let p : Parts := ⟨.text "F", .text "S", [], [(.text "Given", .map [(.text "a", .int 1)])]⟩
  have gives : Gives nestedStep p :=
    ⟨rfl, rfl, .inl ⟨rfl, by rintro v ⟨⟩⟩, _, .inr rfl, .cons (.single rfl rfl) .nil⟩
  obtain ⟨f, refused⟩ := keeps p gives
    ⟨.map [(.text "a", .int 1)], by simp [p, Parts.texts], rfl⟩
  rw [loaded] at refused
  cases refused

end SoloScenario.Record

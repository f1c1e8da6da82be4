import SoloScenario.Record.Check

/-! What can be printed of a loaded record. Its texts may hold halves of characters, which no
encoding has: a log shows them by their numbers, but an envelope with one is not printed and a
document with one is neither printed nor written. An envelope shows the names of a record and
those texts that its check warns of; a document shows all texts. -/

namespace SoloScenario.Record

open Text

/-- A record with each text replaced. -/
def map {S T : Type} (f : S → T) (r : Record S) : Record T :=
  ⟨r.tags.map f, f r.feature, f r.scenario, r.steps.map f, r.keywords.map f⟩

/-- A record with its halves of characters by their numbers. -/
def shown (r : Record Points) : Record := r.map Points.shown

/-- The texts that an envelope on a record shows. -/
def envelopeTexts (r : Record Points) : List Points :=
  let isWarned (check : String → List Issue) (text : Points) : Bool := !(check text.shown).isEmpty
  [r.feature, r.scenario] ++ r.tags.filter (isWarned (checkTag 0)) ++
    r.keywords.filter (isWarned fun keyword => checkKeyword 0 ⟨keyword, ""⟩)

/-- The texts that a document shows. -/
def documentTexts (r : Record Points) : List Points :=
  [r.feature, r.scenario] ++ r.tags ++ r.keywords ++ r.steps

/-- Whether an envelope on a record can be printed. -/
def fitsEnvelope (r : Record Points) : Bool := r.envelopeTexts.all Points.isWhole

/-- Whether the document of a record can be printed. -/
def fitsDocument (r : Record Points) : Bool := r.documentTexts.all Points.isWhole

/-- Where the document can be printed, so can an envelope. -/
theorem fitsEnvelope_of_fitsDocument {r : Record Points} (h : r.fitsDocument = true) :
    r.fitsEnvelope = true := by
  simp only [fitsDocument, fitsEnvelope, List.all_eq_true] at h ⊢
  intro text shown
  refine h text ?_
  simp only [envelopeTexts, documentTexts, List.mem_append, List.mem_filter] at shown ⊢
  obtain (name | ⟨tag, -⟩) | ⟨keyword, -⟩ := shown
  · exact .inl (.inl (.inl name))
  · exact .inl (.inl (.inr tag))
  · exact .inl (.inr keyword)

end SoloScenario.Record

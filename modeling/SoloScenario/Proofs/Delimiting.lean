/-! Forms that tell where they end. A text that is put together from such forms, one after the
other, comes apart at one set of places only, so it tells everything that it was made from. -/

namespace SoloScenario.Text

variable {α : Type} {form : α → List Char}

/-- No form goes on as another one: with whatever follows it, it tells what it is the form of and
where it ends. -/
def Delimits (form : α → List Char) : Prop :=
  ∀ ⦃a b x y⦄, form a ++ x = form b ++ y → a = b ∧ x = y

theorem Delimits.after (h : Delimits form) (label : List Char) :
    Delimits fun a => label ++ form a := by
  intro a b x y same
  rw [List.append_assoc, List.append_assoc] at same
  exact h (List.append_cancel_left same)

/-- Forms in a row end at the first character with which none of them starts. -/
theorem Delimits.row (h : Delimits form) {stop : Char}
    (hs : ∀ a rest, (form a ++ rest).head? ≠ some stop) :
    Delimits fun as : List α => as.flatMap form ++ [stop] := by
  intro as bs x y same
  simp only [List.append_assoc, List.singleton_append] at same
  induction as generalizing bs with
  | nil =>
    cases bs with
    | nil => exact ⟨rfl, List.tail_eq_of_cons_eq same⟩
    | cons b bs =>
      rw [List.flatMap_cons, List.append_assoc] at same
      exact absurd (congrArg List.head? same).symm (hs b _)
  | cons a as ih =>
    rw [List.flatMap_cons, List.append_assoc] at same
    cases bs with
    | nil => exact absurd (congrArg List.head? same) (hs a _)
    | cons b bs =>
      rw [List.flatMap_cons, List.append_assoc] at same
      obtain ⟨rfl, rest⟩ := h same
      obtain ⟨rfl, rfl⟩ := ih rest
      exact ⟨rfl, rfl⟩

end SoloScenario.Text

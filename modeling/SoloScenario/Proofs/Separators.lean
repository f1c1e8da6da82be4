import Mathlib.Data.List.Infix
import SoloScenario.Proofs.LineBreaks

/-! Documents under two separators. Replacing one separator by a line feed throughout a
document turns it into the document under a line feed, unless a line holds that separator
itself. A separator does not start with a part that ends it, so none is found across the end
of a line; and a replaced text is no longer than before, so that what is replaced inside a
line is missed in the whole. -/

namespace SoloScenario

namespace Text

/-! ### Replacing -/

/-- Replaces characters, of which there has to be one at least, wherever they occur, from the
left on. Occurrences do not overlap. -/
def replaceChars (old new : List Char) : List Char → List Char
  | [] => []
  | c :: rest =>
    if old <+: c :: rest then new ++ replaceChars old new (rest.drop (old.length - 1))
    else c :: replaceChars old new rest
  termination_by cs => cs.length

/-- Replaces a text wherever it occurs in another. -/
def replaceAll (old new s : String) : String :=
  String.ofList (replaceChars old.toList new.toList s.toList)

/-- No part that ends these characters starts them as well, so that they cannot overlap
themselves. -/
def Unbordered (old : List Char) : Prop := ∀ n < old.length, n ≠ 0 → ¬ old.drop n <+: old

instance (old : List Char) : Decidable (Unbordered old) :=
  inferInstanceAs (Decidable (∀ n < old.length, n ≠ 0 → ¬ old.drop n <+: old))

variable {old new : List Char}

theorem replaceChars_of_prefix (ho : old ≠ []) (rest : List Char) :
    replaceChars old new (old ++ rest) = new ++ replaceChars old new rest := by
  cases old with
  | nil => exact absurd rfl ho
  | cons c old =>
    have start : c :: old <+: c :: (old ++ rest) := List.prefix_append (c :: old) rest
    rw [List.cons_append, replaceChars, if_pos start]
    simp

/-- An occurrence at the start and what is read on after it. -/
theorem append_drop_of_prefix {c : Char} {rest : List Char} (ho : old ≠ [])
    (start : old <+: c :: rest) : old ++ rest.drop (old.length - 1) = c :: rest := by
  cases old with
  | nil => exact absurd rfl ho
  | cons d old =>
    obtain ⟨rfl, tail⟩ := List.cons_prefix_cons.1 start
    rw [List.cons_append, List.length_cons, Nat.add_sub_cancel, ← List.prefix_append_drop tail]

theorem replaceChars_of_not_prefix {c : Char} {rest : List Char} (h : ¬ old <+: c :: rest) :
    replaceChars old new (c :: rest) = c :: replaceChars old new rest := by
  rw [replaceChars, if_neg h]

theorem length_replaceChars_le (ho : old ≠ []) (hl : new.length ≤ old.length) (cs : List Char) :
    (replaceChars old new cs).length ≤ cs.length := by
  fun_induction replaceChars old new cs with
  | case1 => exact Nat.le_refl 0
  | case2 c rest start ih =>
    rw [← append_drop_of_prefix ho start, List.length_append, List.length_append]
    exact Nat.add_le_add hl ih
  | case3 c rest start ih => exact Nat.succ_le_succ ih

/-- A text is left as it was exactly if there is nothing to replace in it. -/
theorem replaceChars_eq_self_iff (ho : old ≠ []) (hl : new.length ≤ old.length) (hne : new ≠ old)
    (cs : List Char) : replaceChars old new cs = cs ↔ ¬ old <:+: cs := by
  fun_induction replaceChars old new cs with
  | case1 => simpa using ho
  | case2 c rest start ih =>
    refine iff_of_false (fun same => ?_) (not_not.2 start.isInfix)
    -- what follows is no longer than before, so the occurrence would be replaced by itself
    have shorter := length_replaceChars_le ho hl (rest.drop (old.length - 1))
    rw [← append_drop_of_prefix ho start] at same
    have lengths := congrArg List.length same
    rw [List.length_append, List.length_append] at lengths
    exact hne (List.append_inj_left same (by omega))
  | case3 c rest start ih =>
    rw [List.cons_inj_right, ih, List.infix_cons_iff, not_or, and_iff_right start]

/-- An occurrence that starts with some characters and goes on into another one is all of
these characters. -/
theorem Unbordered.eq_of_prefix {line rest : List Char} (hb : Unbordered old) (hl : line ≠ [])
    (starts : line <+: old) (across : old <+: line ++ (old ++ rest)) : old = line := by
  by_contra other
  have shorter : line.length < old.length :=
    lt_of_le_of_ne starts.length_le fun same => other (starts.eq_of_length same).symm
  have back : old.drop line.length <+: old ++ rest := by
    have more := across.drop line.length
    rwa [List.drop_left] at more
  refine hb line.length shorter (List.length_pos_iff.2 hl).ne' ?_
  refine List.prefix_of_prefix_length_le back (List.prefix_append old rest) ?_
  rw [List.length_drop]
  exact Nat.sub_le _ _

/-- Characters that cannot overlap themselves are not found across the end of what comes before
them. -/
theorem replaceChars_append (ho : old ≠ []) (hb : Unbordered old) (line rest : List Char) :
    replaceChars old new (line ++ (old ++ rest)) =
      replaceChars old new line ++ (new ++ replaceChars old new rest) := by
  fun_induction replaceChars old new line with
  | case1 => exact replaceChars_of_prefix ho rest
  | case2 c line start ih =>
    rw [← append_drop_of_prefix ho start, List.append_assoc, replaceChars_of_prefix ho, ih,
      List.append_assoc]
  | case3 c line start ih =>
    have other : ¬ old <+: c :: (line ++ (old ++ rest)) := by
      intro across
      obtain within | beyond :=
        List.prefix_or_prefix_of_prefix across (List.prefix_append (c :: line) (old ++ rest))
      · exact start within
      · exact start (hb.eq_of_prefix (List.cons_ne_nil c line) beyond across ▸ List.prefix_rfl)
    rw [List.cons_append, replaceChars_of_not_prefix other, ih, List.cons_append]

/-! ### Replacing in texts -/

section

variable {old new : String}

theorem length_replaceAll_le (ho : old ≠ "") (hl : new.length ≤ old.length) (s : String) :
    (replaceAll old new s).length ≤ s.length := by
  rw [← String.length_toList, ← String.length_toList] at hl
  rw [replaceAll, String.length_ofList, ← String.length_toList]
  exact length_replaceChars_le (by simpa using ho) hl s.toList

theorem replaceAll_eq_self_iff (ho : old ≠ "") (hl : new.length ≤ old.length) (hne : new ≠ old)
    (s : String) : replaceAll old new s = s ↔ ¬ old.toList <:+: s.toList := by
  have ho : old.toList ≠ [] := by simpa using ho
  have hne : new.toList ≠ old.toList := fun same => hne (String.toList_inj.1 same)
  rw [← String.length_toList, ← String.length_toList] at hl
  rw [← replaceChars_eq_self_iff ho hl hne, replaceAll, ← String.toList_inj, String.toList_ofList]

theorem replaceAll_append (ho : old ≠ "") (hb : Unbordered old.toList) (line rest : String) :
    replaceAll old new (line ++ (old ++ rest)) =
      replaceAll old new line ++ (new ++ replaceAll old new rest) := by
  simp only [replaceAll, String.toList_append]
  rw [replaceChars_append (by simpa using ho) hb]
  simp

end

end Text

namespace Document

open Text

/-! ### Replacing separators -/

variable {separator : String}

/-- A separator that cannot overlap itself is replaced after each line, and in the lines. -/
theorem replaceAll_joinLines {new : String} (hs : separator ≠ "")
    (hb : Unbordered separator.toList) (lines : List String) :
    replaceAll separator new (joinLines separator lines) =
      joinLines new (lines.map (replaceAll separator new)) := by
  induction lines with
  | nil => simp [replaceAll, replaceChars]
  | cons line lines ih =>
    rw [joinLines_cons, replaceAll_append hs hb, ih, List.map_cons, joinLines_cons]

section

variable {f : String → String} (hf : ∀ s, (f s).length ≤ s.length)
include hf

theorem length_joinLines_map_le (separator : String) (lines : List String) :
    (joinLines separator (lines.map f)).length ≤ (joinLines separator lines).length := by
  induction lines with
  | nil => exact Nat.le_refl 0
  | cons line lines ih =>
    have first := hf line
    simp only [List.map_cons, joinLines_cons, String.length_append]
    omega

/-- Lines of which none gets longer are joined to the same text only if none of them changes. -/
theorem joinLines_map_eq_iff {lines : List String} :
    joinLines separator (lines.map f) = joinLines separator lines ↔
      ∀ line ∈ lines, f line = line := by
  constructor
  · intro same
    induction lines with
    | nil => exact List.forall_mem_nil _
    | cons line lines ih =>
      rw [List.map_cons, joinLines_cons, joinLines_cons] at same
      -- neither the line nor what follows it gets longer, so the line keeps its length
      have lengths := congrArg String.length same
      have first := hf line
      have others := length_joinLines_map_le hf separator lines
      simp only [String.length_append] at lengths
      have length : (f line).length = line.length := by omega
      rw [← String.length_toList, ← String.length_toList] at length
      simp only [← String.toList_inj, String.toList_append] at same
      obtain ⟨here, rest⟩ := List.append_inj same length
      have fixed := ih (String.toList_inj.1 (List.append_cancel_left rest))
      exact List.forall_mem_cons.2 ⟨String.toList_inj.1 here, fixed⟩
  · intro fixed
    rw [List.map_congr_left fixed, List.map_id']

end

/-- Replacing a separator by another that is no longer gives the document under the other one
exactly if no line of it holds the first. -/
theorem replaceAll_text_iff {old new : String} (ho : old ≠ "") (hb : Unbordered old.toList)
    (hl : new.length ≤ old.length) (hne : new ≠ old) (c : Config) (r : Record)
    (t : Time.Stamp) :
    replaceAll old new (text { c with separator := old } r t) =
        text { c with separator := new } r t ↔
      ∀ line ∈ lines c r t, ¬ old.toList <:+: line.toList := by
  rw [text, replaceAll_joinLines ho hb]
  refine (joinLines_map_eq_iff (length_replaceAll_le ho hl)).trans ?_
  exact forall₂_congr fun line _ => replaceAll_eq_self_iff ho hl hne line

/-- Documents under two separators differ in the separators alone, unless a line holds the one that
is replaced. -/
theorem replaceAll_render_iff (c : Config) (r : Record) (t : Time.Stamp) :
    (replaceAll "\r\n" "\n" (render { c with separator := "\r\n" } r t).1 =
        (render { c with separator := "\n" } r t).1 ↔
      ∀ line ∈ lines c r t, ¬ ['\r', '\n'] <:+: line.toList) ∧
    (replaceAll "\r" "\n" (render { c with separator := "\r" } r t).1 =
        (render { c with separator := "\n" } r t).1 ↔
      ∀ line ∈ lines c r t, '\r' ∉ line.toList) := by
  constructor
  · exact replaceAll_text_iff (by decide) (by decide) (by decide) (by decide) c r t
  · refine (replaceAll_text_iff (by decide) (by decide) (by decide) (by decide) c r t).trans ?_
    exact forall₂_congr fun line _ => not_congr (List.singleton_infix_iff '\r' line.toList)

example : replaceAll "\r\n" "\n" "a\r\r\n\nb\r" = "a\r\n\nb\r" := by cbv

end Document

end SoloScenario

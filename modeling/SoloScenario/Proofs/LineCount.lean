import Mathlib.Data.List.Nodup
import SoloScenario.Proofs.Alignment
import SoloScenario.Proofs.LineBreaks
import SoloScenario.Report

/-! The number of lines that a report tells. A report splits a document at every break that
text at large has, where a carriage return and a line feed after it are one break, so a
separator may merge with what a line holds beside it. But no break takes in the same
character twice, so no two separators are in one break, and the number is never below that of
the lines. It is that number if no line holds a break of any kind. -/

namespace SoloScenario

namespace Text

/-! ### Breaks of text at large -/

/-- The characters at which text at large ends a line. -/
def lineBoundaries : List Char :=
  ['\n', '\r', '\x0b', '\x0c', '\x1c', '\x1d', '\x1e', '\u0085', '\u2028', '\u2029']

theorem isLineBoundary_eq_false_iff {c : Char} : isLineBoundary c = false ↔ c ∉ lineBoundaries := by
  simp [isLineBoundary, isLineEnd, lineBoundaries, and_assoc]

/-- No break takes in the same character twice, so there are as many lines as such characters. -/
theorem count_le_length_splitLines {c : Char} (hc : isLineBoundary c) (cs : List Char) :
    cs.count c ≤ (splitLines cs).length := by
  fun_induction splitLines cs with
  | case1 => simp
  | case2 rest ih =>
    have once : ['\r', '\n'].count c ≤ 1 := List.nodup_iff_count_le_one.1 (by decide) c
    rw [show '\r' :: '\n' :: rest = ['\r', '\n'] ++ rest from rfl, List.count_append,
      List.length_cons]
    omega
  | case3 d rest _ hd ih =>
    rw [List.count_cons, List.length_cons]
    split <;> omega
  | case4 d rest _ hd none ih =>
    have other : d ≠ c := fun same => hd (same ▸ hc)
    rw [none] at ih
    rw [List.count_cons_of_ne other]
    exact Nat.le_succ_of_le ih
  | case5 d rest _ hd line lines some ih =>
    have other : d ≠ c := fun same => hd (same ▸ hc)
    rw [some] at ih
    rw [List.count_cons_of_ne other]
    exact ih

/-- The first character is looked at alone unless it is a carriage return before a line feed. -/
theorem splitLines_cons {c : Char} {rest : List Char}
    (hrest : c = '\r' → rest.head? ≠ some '\n') :
    splitLines (c :: rest) =
      if isLineBoundary c then [] :: splitLines rest
      else match splitLines rest with
        | [] => [[c]]
        | line :: lines => (c :: line) :: lines := by
  rw [splitLines.eq_def]
  split
  · next same => cases same
  · next more same =>
    obtain ⟨rfl, rfl⟩ := List.cons.inj same
    exact absurd rfl (hrest rfl)
  · next same =>
    obtain ⟨rfl, rfl⟩ := List.cons.inj same
    rfl

theorem splitLines_of_boundary {c : Char} {rest : List Char} (hc : isLineBoundary c)
    (hrest : c = '\r' → rest.head? ≠ some '\n') :
    splitLines (c :: rest) = [] :: splitLines rest := by
  rw [splitLines_cons hrest, if_pos hc]

theorem splitLines_of_not_boundary {c : Char} (hc : isLineBoundary c = false) (rest : List Char) :
    splitLines (c :: rest) = match splitLines rest with
      | [] => [[c]]
      | line :: lines => (c :: line) :: lines := by
  have other : c ≠ '\r' := by
    rintro rfl
    cases hc
  rw [splitLines_cons fun same => absurd same other, if_neg (Bool.eq_false_iff.1 hc)]

/-- A separator ends one line, unless it is a carriage return before a line feed. -/
theorem splitLines_separator {separator : String} (hs : separator ∈ plainSeparators)
    {rest : List Char} (hrest : separator = "\r" → rest.head? ≠ some '\n') :
    splitLines (separator.toList ++ rest) = [] :: splitLines rest := by
  simp only [plainSeparators, List.mem_cons, List.not_mem_nil, or_false] at hs
  rcases hs with rfl | rfl | rfl
  · exact splitLines_of_boundary (c := '\n') rfl (fun h => absurd h (by decide))
  · rfl
  · exact splitLines_of_boundary rfl fun _ => hrest rfl

theorem splitLines_line {line : List Char} (hl : ∀ c ∈ line, isLineBoundary c = false)
    {separator : String} (hs : separator ∈ plainSeparators)
    {rest : List Char} (hrest : separator = "\r" → rest.head? ≠ some '\n') :
    splitLines (line ++ (separator.toList ++ rest)) = line :: splitLines rest := by
  induction line with
  | nil => exact splitLines_separator hs hrest
  | cons c line ih =>
    have ih := ih fun d hd => hl d (List.mem_cons_of_mem _ hd)
    rw [List.cons_append, splitLines_of_not_boundary (hl c (List.mem_cons_self ..)), ih]

end Text

namespace Document

open Text

/-! ### Lines of documents -/

theorem length_le_count_joinLines {separator : String} {c : Char} (hc : c ∈ separator.toList)
    (lines : List String) : lines.length ≤ (joinLines separator lines).toList.count c := by
  induction lines with
  | nil => simp
  | cons line lines ih =>
    have once : 0 < separator.toList.count c := List.count_pos_iff.2 hc
    rw [joinLines_cons, String.toList_append, String.toList_append, List.count_append,
      List.count_append, List.length_cons]
    omega

/-- No two separators are in one break, whatever the lines hold beside them. -/
theorem length_le_length_splitLines {separator : String} (hs : separator ∈ plainSeparators)
    (lines : List String) :
    lines.length ≤ (splitLines (joinLines separator lines).toList).length := by
  have breaks : ∀ s ∈ plainSeparators, ∃ c ∈ s.toList, isLineBoundary c = true := by
    simp [plainSeparators, isLineBoundary, isLineEnd]
  obtain ⟨c, hc, boundary⟩ := breaks separator hs
  calc lines.length
    _ ≤ (joinLines separator lines).toList.count c := length_le_count_joinLines hc lines
    _ ≤ (splitLines (joinLines separator lines).toList).length :=
      count_le_length_splitLines boundary _

/-- Joined lines without breaks of any kind are split where they were joined. -/
theorem splitLines_joinLines {separator : String} (hs : separator ∈ plainSeparators)
    {lines : List String} (hl : ∀ l ∈ lines, ∀ c ∈ l.toList, isLineBoundary c = false) :
    splitLines (joinLines separator lines).toList = lines.map String.toList := by
  induction lines with
  | nil => rfl
  | cons line lines ih =>
    have hmore : ∀ l ∈ lines, ∀ c ∈ l.toList, isLineBoundary c = false :=
      fun l h => hl l (List.mem_cons_of_mem _ h)
    have unbroken : ∀ l ∈ lines, breaksLine l = false := fun l h =>
      breaksLine_eq_false_iff.2 fun c hc => Bool.eq_false_iff.2 fun ends =>
        Bool.eq_false_iff.1 (hmore l h c hc) (isLineBoundary_of_isLineEnd ends)
    have hnext : separator = "\r" → (joinLines separator lines).toList.head? ≠ some '\n' := by
      rintro rfl
      simpa using head?_joinLines_ne unbroken (show ([] : List Char).head? ≠ some '\n' by simp)
    rw [joinLines_cons, String.toList_append, String.toList_append,
      splitLines_line (hl line (List.mem_cons_self ..)) hs hnext, ih hmore, List.map_cons]

/-! ### The number that a report tells -/

/-- The number of lines in the summary of a report. -/
def summaryLines (report : Report) : Except ReportFault Value := do
  Envelope.part (← Envelope.part report.value "summary") "lines"

theorem summaryLines_eq (report : Report) :
    summaryLines report = .ok (Report.count report.lineCount) := rfl

/-- A report on a document never tells fewer lines than the document has, and tells their number
if none of them holds a break of any kind. -/
theorem le_summaryLines {c : Config} (hc : c.separator ∈ plainSeparators) {r : Record}
    (ha : r.Aligned) (t : Time.Stamp) (made : String) (output : Option String)
    (findings : Option Findings) :
    ∃ n : Nat, summaryLines ⟨made, r, some (render c r t).1, output, findings⟩ = .ok (.int n) ∧
      5 + r.tags.length + r.steps.length ≤ n ∧
      ((∀ line ∈ lines c r t, ∀ ch ∈ line.toList, ch ∉ lineBoundaries) →
        n = 5 + r.tags.length + r.steps.length) := by
  have number : (lines c r t).length = 5 + r.tags.length + r.steps.length := by
    rw [length_lines, Record.length_stepLines_of_aligned ha]
  refine ⟨(splitLines (text c r t).toList).length, summaryLines_eq _, ?_, ?_⟩
  · rw [← number]
    exact length_le_length_splitLines hc (lines c r t)
  · intro plain
    have unbroken : ∀ line ∈ lines c r t, ∀ ch ∈ line.toList, isLineBoundary ch = false :=
      fun line hl ch hch => isLineBoundary_eq_false_iff.2 (plain line hl ch hch)
    rw [text, splitLines_joinLines hc unbroken, List.length_map, number]

/-- A record of which three lines start with a line feed, so that each makes one break with a
carriage return before it. -/
def merging : Record := ⟨["\n@a", "\n"], "b", "c", ["d\n", "e"], ["Given", "\nThen"]⟩

theorem le_summaryLines_merging :
    let c : Config := { separator := "\r" }
    let t : Time.Stamp := .mk (.mk 2017 6 1) 12 30 0 0 none
    c.separator ∈ plainSeparators ∧ merging.Aligned ∧
      ∃ n : Nat, summaryLines ⟨"", merging, some (render c merging t).1, none, none⟩ =
          .ok (.int n) ∧ 9 ≤ n ∧
        ((∀ line ∈ lines c merging t, ∀ ch ∈ line.toList, ch ∉ lineBoundaries) → n = 9) := by
  intro c t
  have hc : c.separator ∈ plainSeparators := by decide
  have ha : merging.Aligned := by decide
  exact ⟨hc, ha, le_summaryLines hc ha t "" none none⟩

end Document

end SoloScenario

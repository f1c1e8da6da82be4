import SoloScenario.Document.Settings
import SoloScenario.Proofs.Steps
import SoloScenario.Text.Lines

/-! Cutting a text at its line breaks: a line feed, a carriage return, or the
two together. Lines that hold no break of their own come back from the text that
joins them, under every separator that a configuration can have, and whatever
follows them is cut as if it stood alone. -/

namespace SoloScenario

namespace Text

/-- The lines of a text, each with the break that ends it, and what follows the last break. -/
def cutLines : List Char → List (List Char × List Char) × List Char
  | [] => ([], [])
  | '\r' :: '\n' :: rest => (([], ['\r', '\n']) :: (cutLines rest).1, (cutLines rest).2)
  | c :: rest =>
    if isLineEnd c then (([], [c]) :: (cutLines rest).1, (cutLines rest).2)
    else match (cutLines rest).1 with
      | [] => ([], c :: (cutLines rest).2)
      | (line, ending) :: more => ((c :: line, ending) :: more, (cutLines rest).2)

theorem cutLines_of_lineEnd {c : Char} {rest : List Char} (hc : isLineEnd c)
    (hrest : c = '\r' → rest.head? ≠ some '\n') :
    cutLines (c :: rest) = (([], [c]) :: (cutLines rest).1, (cutLines rest).2) := by
  rw [cutLines, if_pos hc]
  rintro more rfl rfl
  exact hrest rfl rfl

theorem cutLines_of_not_lineEnd {c : Char} (hc : isLineEnd c = false) (rest : List Char) :
    cutLines (c :: rest) = match (cutLines rest).1 with
      | [] => ([], c :: (cutLines rest).2)
      | (line, ending) :: more => ((c :: line, ending) :: more, (cutLines rest).2) := by
  rw [cutLines, if_neg (by simp [hc])]
  rintro more rfl -
  simp [isLineEnd] at hc

/-- Nothing is lost: lines, breaks and what follows them make up the text. -/
theorem join_cutLines (cs : List Char) :
    ((cutLines cs).1.flatMap fun l => l.1 ++ l.2) ++ (cutLines cs).2 = cs := by
  fun_induction cutLines cs with
  | case1 => rfl
  | case2 rest ih => simp [ih]
  | case3 c rest _ hc ih => simp [ih]
  | case4 c rest _ hc hl ih =>
    rw [hl] at ih
    simpa using ih
  | case5 c rest _ hc line ending more hl ih =>
    rw [hl] at ih
    simpa using ih

/-- No line of a text holds a break. -/
theorem not_isLineEnd_of_mem_cutLines {cs : List Char} {l : List Char × List Char}
    (hl : l ∈ (cutLines cs).1) {c : Char} (hc : c ∈ l.1) : isLineEnd c = false := by
  fun_induction cutLines cs generalizing l with
  | case1 => simp at hl
  | case2 rest ih =>
    rcases List.mem_cons.1 hl with rfl | hl
    · simp at hc
    · exact ih hl hc
  | case3 d rest _ hd ih =>
    rcases List.mem_cons.1 hl with rfl | hl
    · simp at hc
    · exact ih hl hc
  | case4 d rest _ hd hn ih => simp at hl
  | case5 d rest _ hd line ending more hm ih =>
    rw [hm] at ih
    rcases List.mem_cons.1 hl with rfl | hl
    · rcases List.mem_cons.1 hc with rfl | hc
      · simpa using hd
      · exact ih (List.mem_cons_self ..) hc
    · exact ih (List.mem_cons_of_mem _ hl) hc

theorem breaksLine_eq_false_iff {s : String} :
    breaksLine s = false ↔ ∀ c ∈ s.toList, isLineEnd c = false := by
  simp [breaksLine]

@[simp] theorem breaksLine_append (s t : String) :
    breaksLine (s ++ t) = (breaksLine s || breaksLine t) := by
  simp [breaksLine]

/-! ### Joined lines -/

/-- A separator is one break, unless it is a carriage return before a line feed. -/
theorem cutLines_separator {separator : String} (hs : separator ∈ plainSeparators)
    {rest : List Char} (hrest : separator = "\r" → rest.head? ≠ some '\n') :
    cutLines (separator.toList ++ rest) =
      (([], separator.toList) :: (cutLines rest).1, (cutLines rest).2) := by
  simp only [plainSeparators, List.mem_cons, List.not_mem_nil, or_false] at hs
  rcases hs with rfl | rfl | rfl
  · exact cutLines_of_lineEnd (c := '\n') rfl (fun h => absurd h (by decide))
  · rfl
  · exact cutLines_of_lineEnd rfl fun _ => hrest rfl

theorem cutLines_line {line : List Char} (hl : ∀ c ∈ line, isLineEnd c = false)
    {separator : String} (hs : separator ∈ plainSeparators)
    {rest : List Char} (hrest : separator = "\r" → rest.head? ≠ some '\n') :
    cutLines (line ++ (separator.toList ++ rest)) =
      ((line, separator.toList) :: (cutLines rest).1, (cutLines rest).2) := by
  induction line with
  | nil => exact cutLines_separator hs hrest
  | cons c line ih =>
    have ih := ih fun d hd => hl d (List.mem_cons_of_mem _ hd)
    rw [List.cons_append, cutLines_of_not_lineEnd (hl c (List.mem_cons_self ..)), ih]

end Text

namespace Document

open Text

@[simp] theorem joinLines_nil (separator : String) : joinLines separator [] = "" := rfl

@[simp] theorem joinLines_cons (separator line : String) (lines : List String) :
    joinLines separator (line :: lines) = line ++ (separator ++ joinLines separator lines) := by
  simp [joinLines, String.append_assoc]

theorem joinLines_append (separator : String) (lines more : List String) :
    joinLines separator (lines ++ more) =
      joinLines separator lines ++ joinLines separator more := by
  simp [joinLines, String.join_append]

/-- Joined lines without breaks cannot start with the second half of a break. -/
theorem head?_joinLines_ne {lines : List String} (hl : ∀ l ∈ lines, breaksLine l = false)
    {rest : List Char} (hrest : rest.head? ≠ some '\n') :
    ((joinLines "\r" lines).toList ++ rest).head? ≠ some '\n' := by
  cases lines with
  | nil => simpa using hrest
  | cons line lines =>
    have hline := breaksLine_eq_false_iff.1 (hl line (List.mem_cons_self ..))
    rw [joinLines_cons, String.toList_append, String.toList_append]
    cases h : line.toList with
    | nil => simp
    | cons c cs =>
      have hc := hline c (by simp [h])
      rintro heq
      obtain rfl : c = '\n' := by simpa using heq
      simp [isLineEnd] at hc

/-- Joined lines without breaks are cut where they were joined. -/
theorem cutLines_joinLines {separator : String} (hs : separator ∈ plainSeparators)
    {lines : List String} (hl : ∀ l ∈ lines, breaksLine l = false)
    {rest : List Char} (hrest : rest.head? ≠ some '\n') :
    cutLines ((joinLines separator lines).toList ++ rest) =
      (lines.map (fun l => (l.toList, separator.toList)) ++ (cutLines rest).1,
        (cutLines rest).2) := by
  induction lines with
  | nil => simp
  | cons line lines ih =>
    have hline := breaksLine_eq_false_iff.1 (hl line (List.mem_cons_self ..))
    have hmore : ∀ l ∈ lines, breaksLine l = false := fun l h => hl l (List.mem_cons_of_mem _ h)
    have hnext : separator = "\r" →
        ((joinLines separator lines).toList ++ rest).head? ≠ some '\n' := by
      rintro rfl
      exact head?_joinLines_ne hmore hrest
    rw [joinLines_cons, String.toList_append, String.toList_append, List.append_assoc,
      List.append_assoc, cutLines_line hline hs hnext, ih hmore]
    rfl

theorem footer_eq (c : Config) (t : Time.Stamp) :
    footer c t = "# Generated by " ++ c.tool ++ ", " ++ c.timeText t := rfl

/-- The comment cannot merge with a separator before it. -/
theorem head?_footer_ne (c : Config) (t : Time.Stamp) (rest : List Char) :
    ((footer c t).toList ++ rest).head? ≠ some '\n' := by
  simp [footer_eq]

theorem text_eq (c : Config) (r : Record) (t : Time.Stamp) :
    text c r t = joinLines c.separator (bodyLines r) ++ (footer c t ++ c.separator) := by
  simp [text, lines, joinLines_append]

end Document

/-! ### Separators of configurations -/

theorem separatorOf?_mem {s separator : String} (h : separatorOf? s = some separator) :
    separator ∈ plainSeparators := by
  have named : ∀ name, separatorNames.lookup name = some separator →
      separator ∈ plainSeparators := by
    intro name hn
    obtain ⟨-, rfl⟩ | ⟨-, rfl⟩ | ⟨-, rfl⟩ :
        (name = "crlf" ∧ "\r\n" = separator) ∨ (name = "lf" ∧ "\n" = separator) ∨
          (name = "native" ∧ "\n" = separator) := by
      grind [separatorNames]
    all_goals decide
  simp only [separatorOf?, Option.or_eq_some_iff] at h
  rcases h with h | ⟨-, h | ⟨-, h⟩⟩
  · exact named s h
  · exact named _ h
  · split at h
    · next hs => exact Option.some.inj h ▸ hs
    · simp at h

namespace Settings

theorem resolveSeparator_eq_ok {v : Value} {separator : String}
    (h : resolveSeparator v = .ok separator) : separator ∈ plainSeparators := by
  unfold resolveSeparator at h
  split at h
  · split at h
    · next hs => exact separatorOf?_mem (Except.ok.inj h ▸ hs)
    · simp at h
  · simp at h
  · split at h <;> simp at h

theorem separator_ofEntries {entries : List (Value × Value)} {s : Settings}
    (h : ofEntries entries = .ok s) :
    ∃ separator ∈ plainSeparators, s.separator = .text separator := by
  unfold ofEntries at h
  split at h <;> obtain ⟨separator, hsep, h⟩ := bind_eq_ok.1 h <;> obtain rfl := Except.ok.inj h
  · obtain rfl := Except.ok.inj hsep
    exact ⟨"\n", by decide, rfl⟩
  · obtain ⟨text, htext, rfl⟩ := map_eq_ok.1 hsep
    exact ⟨text, resolveSeparator_eq_ok htext, rfl⟩

theorem separator_of_config {s : Settings} {c : Config} (h : s.config = .ok c) :
    s.separator = .text c.separator := by
  unfold config at h
  obtain ⟨tool, -, h⟩ := bind_eq_ok.1 h
  obtain ⟨pattern, -, h⟩ := bind_eq_ok.1 h
  split at h
  · next separated =>
    obtain rfl := Except.ok.inj h
    exact separated
  · cases h

/-- The separator of a configuration that a mapping gives is one of the three breaks. -/
theorem separator_mem {entries : List (Value × Value)} {s : Settings} {c : Config}
    (hs : ofEntries entries = .ok s) (hc : s.config = .ok c) : c.separator ∈ plainSeparators := by
  obtain ⟨separator, hmem, heq⟩ := separator_ofEntries hs
  rw [separator_of_config hc] at heq
  exact Value.text.inj heq ▸ hmem

end Settings

end SoloScenario

import SoloScenario.Proofs.JsonScalars

/-! What it means that a text spells a value: wherever the text stands, reading
gives the value and goes on right after the text, with twice as much fuel as there
are characters. The texts of nothing, truth values, strings and whole numbers
spell them, and so do items and entries with commas between them. -/

namespace SoloScenario.Json

open Text

/-! ### Texts that spell values -/

/-- A text that no reader takes for white space or for the end of a list or a mapping. -/
def Starts (cs : List Char) : Prop :=
  ∃ c more, cs = c :: more ∧ isSpace c = false ∧ c ≠ ']' ∧ c ≠ '}'

/-- A text that is one line in the compact layout. -/
def Lined (layout : Layout) (cs : List Char) : Prop :=
  layout = .compact → ∀ c ∈ cs, 0x20 ≤ c.toNat

theorem lined_of_all {layout : Layout} {cs : List Char}
    (h : cs.all (fun c => 0x20 ≤ c.toNat) = true) : Lined layout cs :=
  fun _ c hc => of_decide_eq_true (List.all_eq_true.1 h c hc)

/-- A text spells a value: wherever it stands, that value is read there. -/
structure Spells (layout : Layout) (cs : List Char) (v : Value) : Prop where
  starts : Starts cs
  lined : Lined layout cs
  read : ∀ {fuel : Nat} {rest : List Char}, 2 * (cs.length + rest.length) + 1 ≤ fuel →
    Ends rest → readValue fuel (cs ++ rest) = some (v, rest)

/-- A text spells what a list or a mapping holds, up to the character that ends it. -/
structure SpellsInside {α : Type} (reader : Nat → List Char → Option (α × List Char))
    (stop : Char) (layout : Layout) (cs : List Char) (x : α) : Prop where
  starts : Starts cs
  lined : Lined layout cs
  read : ∀ {fuel : Nat} {ws close rest : List Char}, ws.all isSpace = true →
    close.all isSpace = true →
    2 * (ws.length + cs.length + close.length + rest.length + 1) + 2 ≤ fuel →
    reader fuel (ws ++ (cs ++ (close ++ stop :: rest))) = some (x, rest)

/-! ### Simple values -/

/-- Reading with fuel starts at the first character that is no white space. -/
theorem exists_fuel {cs rest : List Char} {fuel : Nat}
    (h : 2 * (cs.length + rest.length) + 1 ≤ fuel) :
    ∃ more, fuel = more + 1 := Nat.exists_eq_add_one.2 (by omega)

theorem spells_null (layout : Layout) : Spells layout "null".toList .null where
  starts := ⟨'n', _, rfl, by decide⟩
  lined := lined_of_all rfl
  read h _ := by
    obtain ⟨fuel, rfl⟩ := exists_fuel h
    simp [readValue, skipSpace]

theorem spells_truth (layout : Layout) (b : Bool) : Spells layout (truth b) (.bool b) where
  starts := by
    cases b with
    | false => exact ⟨'f', _, rfl, by decide⟩
    | true => exact ⟨'t', _, rfl, by decide⟩
  lined := by
    cases b with
    | false => exact lined_of_all rfl
    | true => exact lined_of_all rfl
  read h _ := by
    obtain ⟨fuel, rfl⟩ := exists_fuel h
    cases b <;> simp [truth, readValue, skipSpace]

theorem spells_string (layout : Layout) (s : String) : Spells layout (string s) (.text s) where
  starts := ⟨'"', _, rfl, by decide⟩
  lined _ _ h := le_toNat_of_mem_string h
  read {_ rest} h _ := by
    obtain ⟨fuel, rfl⟩ := exists_fuel h
    have read := string?_escaped s rest
    simp [string, readValue, skipSpace, read]

theorem spells_whole (layout : Layout) (n : Int) : Spells layout (whole n) (.int n) where
  starts := by
    obtain ⟨c, cs, h, hc⟩ := exists_cons_whole n
    exact ⟨c, cs, h, isSpace_of_isNumberChar hc, ne_of_isNumberChar hc rfl,
      ne_of_isNumberChar hc rfl⟩
  lined _ _ h := le_toNat_of_isNumberChar (isNumberChar_of_mem_whole h)
  read {_ rest} h ends := by
    obtain ⟨fuel, rfl⟩ := exists_fuel h
    have span := span_whole n ends
    obtain ⟨c, cs, form, hc⟩ := exists_cons_whole n
    have other : ∀ {d}, isNumberChar d = false → c ≠ d := ne_of_isNumberChar hc
    have value := number?_whole n
    rw [form] at span value ⊢
    rw [List.cons_append] at span ⊢
    simp only [readValue, skipSpace_cons (isSpace_of_isNumberChar hc), other (d := 'n') rfl,
      other (d := 't') rfl, other (d := 'f') rfl, other (d := '"') rfl, other (d := '[') rfl,
      other (d := '\x7b') rfl, if_false, span, value, Option.map_some]

/-! ### What stands inside lists and mappings -/

theorem Starts.append {cs : List Char} (h : Starts cs) (more : List Char) :
    Starts (cs ++ more) := by
  obtain ⟨c, rest, rfl, hc⟩ := h
  exact ⟨c, rest ++ more, rfl, hc⟩

theorem Starts.length_pos {cs : List Char} (h : Starts cs) : 0 < cs.length := by
  obtain ⟨c, rest, rfl, -⟩ := h
  exact Nat.succ_pos _

theorem Lined.append {layout : Layout} {cs more : List Char} (h : Lined layout cs)
    (hmore : Lined layout more) : Lined layout (cs ++ more) := by
  intro compact c hc
  obtain hc | hc := List.mem_append.1 hc
  · exact h compact c hc
  · exact hmore compact c hc

theorem Lined.cons {layout : Layout} {c : Char} {cs : List Char} (hc : 0x20 ≤ c.toNat)
    (h : Lined layout cs) : Lined layout (c :: cs) := by
  have first : Lined layout [c] := fun _ _ hd => List.mem_singleton.1 hd ▸ hc
  exact first.append h

theorem lined_nil (layout : Layout) : Lined layout [] := fun _ _ h => by cases h

theorem lined_opening (layout : Layout) (depth : Nat) : Lined layout (layout.opening depth) := by
  rintro rfl c h
  cases h

theorem lined_closing (layout : Layout) (depth : Nat) : Lined layout (layout.closing depth) := by
  rintro rfl c h
  cases h

theorem lined_between (layout : Layout) (depth : Nat) : Lined layout (layout.between depth) := by
  intro compact
  subst compact
  exact lined_of_all rfl rfl

variable {layout : Layout} {cs more : List Char} {v : Value}

theorem skipSpace_string {ws : List Char} (hws : ws.all isSpace = true) (key : String)
    (rest : List Char) :
    skipSpace (ws ++ (string key ++ rest)) = '"' :: (key.toList.flatMap escape ++ '"' :: rest) := by
  rw [skipSpace_append hws]
  simp [string, skipSpace]

theorem Spells.read_after_space (hv : Spells layout cs v) {fuel : Nat} {rest : List Char}
    (hfuel : 2 * (cs.length + rest.length) + 1 ≤ fuel) (ends : Ends rest) :
    readValue fuel (' ' :: (cs ++ rest)) = some (v, rest) := by
  have space : [' '].all isSpace = true := rfl
  exact (readValue_append space fuel _).trans (hv.read hfuel ends)

theorem SpellsInside.last_item (hv : Spells layout cs v) :
    SpellsInside readItems ']' layout cs [v] where
  starts := hv.starts
  lined := hv.lined
  read {fuel ws close rest} hws hclose h := by
    obtain ⟨fuel, rfl⟩ := Nat.exists_eq_add_one.2 (Nat.zero_lt_of_lt h)
    have item : readValue fuel (ws ++ (cs ++ (close ++ ']' :: rest))) =
        some (v, close ++ ']' :: rest) := by
      rw [readValue_append hws]
      exact hv.read (by simp; omega) (ends_append_cons hclose rfl rest)
    have stop : skipSpace (close ++ ']' :: rest) = ']' :: rest := by
      rw [skipSpace_append hclose]
      exact skipSpace_cons rfl rest
    simp only [readItems, item, stop, Option.bind_eq_bind, Option.bind_some, Option.pure_def]

theorem SpellsInside.cons_item (hv : Spells layout cs v) {items : List Value}
    (hmore : SpellsInside readItems ']' layout more items) (depth : Nat) :
    SpellsInside readItems ']' layout (cs ++ (layout.between depth ++ more)) (v :: items) where
  starts := hv.starts.append _
  lined := hv.lined.append ((lined_between layout depth).append hmore.lined)
  read {fuel ws close rest} hws hclose h := by
    obtain ⟨fuel, rfl⟩ := Nat.exists_eq_add_one.2 (Nat.zero_lt_of_lt h)
    obtain ⟨gap, between, hgap⟩ := layout.between_eq depth
    have first := hv.starts.length_pos
    simp only [between, List.length_append, List.length_cons] at h
    simp only [between, List.append_assoc, List.cons_append]
    have item : readValue fuel (ws ++ (cs ++ ',' :: (gap ++ (more ++ (close ++ ']' :: rest))))) =
        some (v, ',' :: (gap ++ (more ++ (close ++ ']' :: rest)))) := by
      rw [readValue_append hws]
      exact hv.read (by simp; omega) (ends_cons rfl _)
    have comma : skipSpace (',' :: (gap ++ (more ++ (close ++ ']' :: rest)))) =
        ',' :: (gap ++ (more ++ (close ++ ']' :: rest))) := skipSpace_cons rfl _
    have tail : readItems fuel (gap ++ (more ++ (close ++ ']' :: rest))) = some (items, rest) :=
      hmore.read hgap hclose (by omega)
    simp only [readItems, item, comma, tail, Option.bind_eq_bind, Option.bind_some,
      Option.pure_def]

theorem SpellsInside.last_entry (hv : Spells layout cs v) (key : String) :
    SpellsInside readEntries '}' layout (string key ++ ':' :: ' ' :: cs) [(.text key, v)] where
  starts := ⟨'"', _, rfl, by decide⟩
  lined := Lined.append (fun _ _ => le_toNat_of_mem_string)
    (.cons (by decide) (.cons (by decide) hv.lined))
  read {fuel ws close rest} hws hclose h := by
    obtain ⟨fuel, rfl⟩ := Nat.exists_eq_add_one.2 (Nat.zero_lt_of_lt h)
    simp only [List.length_append, List.length_cons] at h
    simp only [List.append_assoc, List.cons_append]
    have colon : skipSpace (':' :: ' ' :: (cs ++ (close ++ '}' :: rest))) =
        ':' :: ' ' :: (cs ++ (close ++ '}' :: rest)) := skipSpace_cons rfl _
    have value : readValue fuel (' ' :: (cs ++ (close ++ '}' :: rest))) =
        some (v, close ++ '}' :: rest) :=
      hv.read_after_space (by simp; omega) (ends_append_cons hclose rfl rest)
    have stop : skipSpace (close ++ '}' :: rest) = '}' :: rest := by
      rw [skipSpace_append hclose]
      exact skipSpace_cons rfl rest
    simp only [readEntries, skipSpace_string hws, string?_escaped, colon, value, stop,
      Option.bind_eq_bind, Option.bind_some, Option.pure_def]

theorem SpellsInside.cons_entry (hv : Spells layout cs v) (key : String)
    {entries : List (Value × Value)} (hmore : SpellsInside readEntries '}' layout more entries)
    (depth : Nat) :
    SpellsInside readEntries '}' layout
      (string key ++ ':' :: ' ' :: (cs ++ (layout.between depth ++ more)))
      ((.text key, v) :: entries) where
  starts := ⟨'"', _, rfl, by decide⟩
  lined := Lined.append (fun _ _ => le_toNat_of_mem_string) (.cons (by decide)
    (.cons (by decide) (hv.lined.append ((lined_between layout depth).append hmore.lined))))
  read {fuel ws close rest} hws hclose h := by
    obtain ⟨fuel, rfl⟩ := Nat.exists_eq_add_one.2 (Nat.zero_lt_of_lt h)
    obtain ⟨gap, between, hgap⟩ := layout.between_eq depth
    simp only [between, List.length_append, List.length_cons] at h
    simp only [between, List.append_assoc, List.cons_append]
    have colon :
        skipSpace (':' :: ' ' :: (cs ++ ',' :: (gap ++ (more ++ (close ++ '}' :: rest))))) =
        ':' :: ' ' :: (cs ++ ',' :: (gap ++ (more ++ (close ++ '}' :: rest)))) :=
      skipSpace_cons rfl _
    have value : readValue fuel (' ' :: (cs ++ ',' :: (gap ++ (more ++ (close ++ '}' :: rest))))) =
        some (v, ',' :: (gap ++ (more ++ (close ++ '}' :: rest)))) :=
      hv.read_after_space (by simp; omega) (ends_cons rfl _)
    have comma : skipSpace (',' :: (gap ++ (more ++ (close ++ '}' :: rest)))) =
        ',' :: (gap ++ (more ++ (close ++ '}' :: rest))) := skipSpace_cons rfl _
    have tail : readEntries fuel (gap ++ (more ++ (close ++ '}' :: rest))) = some (entries, rest) :=
      hmore.read hgap hclose (by omega)
    simp only [readEntries, skipSpace_string hws, string?_escaped, colon, value, comma, tail,
      Option.bind_eq_bind, Option.bind_some, Option.pure_def]

end SoloScenario.Json

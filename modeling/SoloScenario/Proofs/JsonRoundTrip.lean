import SoloScenario.Proofs.JsonSpelling
import SoloScenario.Report

/-! JSON text read back. A value built from nothing, truth values, whole numbers,
texts, lists and mappings from distinct texts has a JSON text in either layout, unless
a number in it has too many digits, and the text spells that value. The compact layout
holds no control character, so it is one line. -/

namespace SoloScenario

namespace Json

variable {layout : Layout} {cs : List Char} {v : Value}

/-! ### Lists and mappings -/

/-- The text of a list or a mapping that is not empty. -/
def enclosed (layout : Layout) (depth : Nat) (start stop : Char) (inside : List Char) : List Char :=
  start :: (layout.opening (depth + 1) ++ (inside ++ layout.closing depth)) ++ [stop]

theorem lined_enclosed (inside : Lined layout cs) (depth : Nat) {start stop : Char}
    (hstart : 0x20 ≤ start.toNat) (hstop : 0x20 ≤ stop.toNat) :
    Lined layout (enclosed layout depth start stop cs) :=
  .append (.cons hstart ((lined_opening layout (depth + 1)).append
    (inside.append (lined_closing layout depth)))) (.cons hstop (lined_nil layout))

/-- What is enclosed is read with the white space around it. -/
theorem SpellsInside.read_enclosed {α : Type} {x : α} {stop : Char}
    {reader : Nat → List Char → Option (α × List Char)}
    (h : SpellsInside reader stop layout cs x) (depth : Nat) (rest : List Char) {fuel : Nat}
    (hfuel : 2 * ((enclosed layout depth stop stop cs).length + rest.length) ≤ fuel) :
    reader fuel (layout.opening (depth + 1) ++ (cs ++ (layout.closing depth ++ stop :: rest))) =
      some (x, rest) := by
  refine h.read (layout.all_isSpace_opening _) (layout.all_isSpace_closing _) ?_
  simp only [enclosed, List.length_cons, List.length_append, List.length_nil] at hfuel
  omega

theorem Starts.skipSpace_eq (h : Starts cs) {ws : List Char} (hws : ws.all isSpace = true)
    (rest : List Char) :
    ∃ c tail, skipSpace (ws ++ (cs ++ rest)) = c :: tail ∧ c ≠ ']' ∧ c ≠ '}' := by
  obtain ⟨c, more, rfl, space, stops⟩ := h
  rw [skipSpace_append hws, List.cons_append, skipSpace_cons space]
  exact ⟨c, more ++ rest, rfl, stops⟩

/-- A list that does not end at once is read item by item. -/
theorem readValue_list (h : Starts cs) {ws : List Char} (hws : ws.all isSpace = true)
    (fuel : Nat) (rest : List Char) :
    readValue (fuel + 1) ('[' :: (ws ++ (cs ++ rest))) =
      (readItems fuel (ws ++ (cs ++ rest))).map fun p => (.list p.1, p.2) := by
  obtain ⟨c, tail, first, stop, -⟩ := h.skipSpace_eq hws rest
  have start : isSpace '[' = false := rfl
  simp [readValue, skipSpace_cons start, first, stop]

/-- A mapping that does not end at once is read entry by entry. -/
theorem readValue_map (h : Starts cs) {ws : List Char} (hws : ws.all isSpace = true)
    (fuel : Nat) (rest : List Char) :
    readValue (fuel + 1) ('\x7b' :: (ws ++ (cs ++ rest))) =
      (readEntries fuel (ws ++ (cs ++ rest))).map fun p => (Value.ofEntries p.1, p.2) := by
  obtain ⟨c, tail, first, -, stop⟩ := h.skipSpace_eq hws rest
  have start : isSpace '\x7b' = false := rfl
  simp [readValue, skipSpace_cons start, first, stop]

theorem spells_list {items : List Value} (h : SpellsInside readItems ']' layout cs items)
    (depth : Nat) : Spells layout (enclosed layout depth '[' ']' cs) (.list items) where
  starts := ⟨'[', _, rfl, by decide⟩
  lined := lined_enclosed h.lined depth (by decide) (by decide)
  read {fuel rest} hfuel _ := by
    obtain ⟨fuel, rfl⟩ := exists_fuel hfuel
    have inside := h.read_enclosed depth rest (Nat.le_of_succ_le_succ hfuel)
    have list := readValue_list h.starts (layout.all_isSpace_opening (depth + 1)) fuel
      (layout.closing depth ++ ']' :: rest)
    rw [inside] at list
    simpa [enclosed] using list

theorem spells_map {entries : List (Value × Value)}
    (h : SpellsInside readEntries '}' layout cs entries) (depth : Nat) :
    Spells layout (enclosed layout depth '\x7b' '}' cs) (Value.ofEntries entries) where
  starts := ⟨'\x7b', _, rfl, by decide⟩
  lined := lined_enclosed h.lined depth (by decide) (by decide)
  read {fuel rest} hfuel _ := by
    obtain ⟨fuel, rfl⟩ := exists_fuel hfuel
    have inside := h.read_enclosed depth rest (Nat.le_of_succ_le_succ hfuel)
    have map := readValue_map h.starts (layout.all_isSpace_opening (depth + 1)) fuel
      (layout.closing depth ++ '}' :: rest)
    rw [inside] at map
    simpa [enclosed] using map

/-! ### Plain values -/

/-- A value made of nothing, truth values, whole numbers, texts, lists, and mappings
from distinct texts. -/
inductive Plain : Value → Prop where
  | null : Plain .null
  | bool (b : Bool) : Plain (.bool b)
  | int (n : Int) : Plain (.int n)
  | text (s : String) : Plain (.text s)
  | list {items : List Value} (plain : ∀ v ∈ items, Plain v) : Plain (.list items)
  | object {entries : List (String × Value)} (distinct : (entries.map Prod.fst).Nodup)
      (plain : ∀ e ∈ entries, Plain e.2) : Plain (Report.object entries)

/-- An entry under a text. -/
def textEntry (e : String × Value) : Value × Value := (.text e.1, e.2)

theorem object_eq (entries : List (String × Value)) :
    Report.object entries = .map (entries.map textEntry) := rfl

theorem put_of_distinct {key : String} (value : Value) :
    ∀ {entries : List (String × Value)}, key ∉ entries.map Prod.fst →
      Value.put (entries.map textEntry) (.text key) value =
        (entries ++ [(key, value)]).map textEntry
  | [], _ => rfl
  | (k, v) :: rest, h => by
    simp only [List.map_cons, List.mem_cons, not_or] at h
    have other : Value.sameKey (.text k) (.text key : Value) = false := by
      rw [Value.sameKey_text]
      exact decide_eq_false (Ne.symm h.1)
    rw [List.map_cons, textEntry, Value.put, other, put_of_distinct value h.2]
    rfl

/-- Entries under distinct texts are set one after the other in their order. -/
theorem ofEntries_of_distinct {entries : List (String × Value)}
    (h : (entries.map Prod.fst).Nodup) :
    Value.ofEntries (entries.map textEntry) = Report.object entries := by
  have put : ∀ (before after : List (String × Value)),
      ((before ++ after).map Prod.fst).Nodup →
      (after.map textEntry).foldl (fun m e => Value.put m e.1 e.2) (before.map textEntry) =
        (before ++ after).map textEntry := by
    intro before after distinct
    -- the entries set so far grow at their end, where the next one is put
    induction after generalizing before with
    | nil => simp
    | cons e after ih =>
      obtain ⟨k, v⟩ := e
      have fresh : k ∉ before.map Prod.fst := by
        intro hk
        simp only [List.map_append, List.map_cons, List.nodup_append] at distinct
        exact distinct.2.2 k hk k List.mem_cons_self rfl
      have step := ih (before ++ [(k, v)]) (by simpa using distinct)
      rw [← put_of_distinct v fresh] at step
      simpa [textEntry] using step
  exact congrArg Value.map (put [] entries h)

theorem exists_encodeItems? {depth : Nat} : ∀ {items : List Value}, items ≠ [] →
    (∀ v ∈ items, ∃ cs, encode? layout depth v = some cs ∧ Spells layout cs v) →
    ∃ cs, encodeItems? layout depth items = some cs ∧
      SpellsInside readItems ']' layout cs items
  | [v], _, h => by
    obtain ⟨cs, hcs, spells⟩ := h v List.mem_cons_self
    exact ⟨cs, by simp [encodeItems?, hcs], .last_item spells⟩
  | v :: w :: rest, _, h => by
    obtain ⟨cs, hcs, spells⟩ := h v List.mem_cons_self
    obtain ⟨more, hmore, inside⟩ := exists_encodeItems? (List.cons_ne_nil w rest)
      fun u hu => h u (List.mem_cons_of_mem v hu)
    refine ⟨cs ++ (layout.between depth ++ more), ?_, .cons_item spells inside depth⟩
    rw [encodeItems?, hcs, hmore]
    rfl

theorem exists_encodeEntries? {depth : Nat} : ∀ {entries : List (String × Value)}, entries ≠ [] →
    (∀ e ∈ entries, ∃ cs, encode? layout depth e.2 = some cs ∧ Spells layout cs e.2) →
    ∃ cs, encodeEntries? layout depth (entries.map textEntry) = some cs ∧
      SpellsInside readEntries '}' layout cs (entries.map textEntry)
  | [e], _, h => by
    obtain ⟨cs, hcs, spells⟩ := h e List.mem_cons_self
    exact ⟨_, by simp [textEntry, encodeEntries?, key?, hcs], .last_entry spells e.1⟩
  | e :: u :: rest, _, h => by
    obtain ⟨cs, hcs, spells⟩ := h e List.mem_cons_self
    obtain ⟨more, hmore, inside⟩ := exists_encodeEntries? (List.cons_ne_nil u rest)
      fun w hw => h w (List.mem_cons_of_mem e hw)
    refine ⟨string e.1 ++ ':' :: ' ' :: (cs ++ (layout.between depth ++ more)), ?_,
      .cons_entry spells e.1 inside depth⟩
    have value : encode? layout depth (textEntry e).2 = some cs := hcs
    have name : key? (textEntry e).1 = some (string e.1) := rfl
    rw [List.map_cons, encodeEntries?, name, value, hmore]
    simp

theorem spells_emptyList (layout : Layout) : Spells layout ['[', ']'] (.list []) where
  starts := ⟨'[', _, rfl, by decide⟩
  lined := lined_of_all rfl
  read h _ := by
    obtain ⟨fuel, rfl⟩ := exists_fuel h
    simp [readValue, skipSpace]

theorem spells_emptyMap (layout : Layout) : Spells layout ['\x7b', '}'] (.map []) where
  starts := ⟨'\x7b', _, rfl, by decide⟩
  lined := lined_of_all rfl
  read h _ := by
    obtain ⟨fuel, rfl⟩ := exists_fuel h
    simp [readValue, skipSpace]

theorem hasText_object {entries : List (String × Value)} :
    (Report.object entries).hasText = true ↔ ∀ e ∈ entries, e.2.hasText = true := by
  rw [object_eq, Value.hasText, Value.entriesHaveText_iff, List.forall_mem_map]
  simp [textEntry, Value.hasText]

/-- A plain value has a text in every layout and at every depth, which spells it, if no number in
it has too many digits. -/
theorem Plain.exists_spells (h : Plain v) (short : v.hasText = true) (layout : Layout)
    (depth : Nat) : ∃ cs, encode? layout depth v = some cs ∧ Spells layout cs v := by
  -- what stands inside is one level deeper, so the depth varies
  induction h generalizing depth with
  | null => exact ⟨_, rfl, spells_null layout⟩
  | bool b => exact ⟨_, rfl, spells_truth layout b⟩
  | int n => exact ⟨_, if_pos short, spells_whole layout n⟩
  | text s => exact ⟨_, rfl, spells_string layout s⟩
  | @list items _ ih =>
    by_cases empty : items = []
    · subst empty
      exact ⟨_, by rfl, spells_emptyList layout⟩
    · have each := Value.allHaveText_iff.1 short
      obtain ⟨cs, hcs, inside⟩ := exists_encodeItems? empty fun v hv =>
        ih v hv (each v hv) (depth + 1)
      refine ⟨enclosed layout depth '[' ']' cs, ?_, spells_list inside depth⟩
      simp [encode?, hcs, empty, enclosed]
  | @object entries distinct _ ih =>
    by_cases empty : entries = []
    · subst empty
      exact ⟨_, by rfl, spells_emptyMap layout⟩
    · have each := hasText_object.1 short
      obtain ⟨cs, hcs, inside⟩ := exists_encodeEntries? empty fun e he =>
        ih e he (each e he) (depth + 1)
      have spells := spells_map inside depth
      rw [ofEntries_of_distinct distinct] at spells
      refine ⟨enclosed layout depth '\x7b' '}' cs, ?_, spells⟩
      simp [object_eq, encode?, hcs, empty, enclosed]

theorem exists_encode?_of_mem {depth : Nat} : ∀ {items : List Value} {cs : List Char},
    encodeItems? layout depth items = some cs →
    ∀ v ∈ items, ∃ cs', encode? layout depth v = some cs'
  | [], _, _ => by simp
  | v :: rest, cs, h => by
    rw [encodeItems?] at h
    obtain ⟨first, hfirst, h⟩ := Option.bind_eq_some_iff.1 h
    obtain ⟨more, hmore, -⟩ := Option.bind_eq_some_iff.1 h
    exact List.forall_mem_cons.2 ⟨⟨first, hfirst⟩, exists_encode?_of_mem hmore⟩

theorem exists_encode?_of_mem_entries {depth : Nat} :
    ∀ {entries : List (String × Value)} {cs : List Char},
    encodeEntries? layout depth (entries.map textEntry) = some cs →
    ∀ e ∈ entries, ∃ cs', encode? layout depth e.2 = some cs'
  | [], _, _ => by simp
  | e :: rest, cs, h => by
    rw [List.map_cons, encodeEntries?] at h
    obtain ⟨name, -, h⟩ := Option.bind_eq_some_iff.1 h
    obtain ⟨first, hfirst, h⟩ := Option.bind_eq_some_iff.1 h
    obtain ⟨more, hmore, -⟩ := Option.bind_eq_some_iff.1 h
    exact List.forall_mem_cons.2 ⟨⟨first, hfirst⟩, exists_encode?_of_mem_entries hmore⟩

/-- No number of too many digits is in a plain value that has a text. -/
theorem Plain.hasText_of_encode? (h : Plain v) {depth : Nat}
    (encoded : encode? layout depth v = some cs) : v.hasText = true := by
  induction h generalizing depth cs with
  | int n =>
    rw [encode?, whole?] at encoded
    split at encoded
    · next short => exact short
    · cases encoded
  | @list items _ ih =>
    rw [encode?] at encoded
    obtain ⟨inside, hinside, -⟩ := Option.bind_eq_some_iff.1 encoded
    refine Value.allHaveText_iff.2 fun v hv => ?_
    obtain ⟨cs', encoded⟩ := exists_encode?_of_mem hinside v hv
    exact ih v hv encoded
  | @object entries _ _ ih =>
    rw [object_eq, encode?] at encoded
    obtain ⟨inside, hinside, -⟩ := Option.bind_eq_some_iff.1 encoded
    refine hasText_object.2 fun e he => ?_
    obtain ⟨cs', encoded⟩ := exists_encode?_of_mem_entries hinside e he
    exact ih e he encoded
  | _ => rfl

/-- A text that spells a value decodes to it. -/
theorem Spells.decode? (h : Spells layout cs v) : decode? cs = some v := by
  have read := h.read (show 2 * (cs.length + [].length) + 1 ≤ 2 * cs.length + 1 by simp)
    (fun c hc => by cases hc)
  rw [List.append_nil] at read
  simp [Json.decode?, read, skipSpace]

end Json

open Json

/-- A plain value without numbers of too many digits has a JSON text, from which it is read back.
The compact text has no control character, so no line break. -/
theorem Json.Plain.exists_toJson? {v : Value} (h : Plain v) (short : v.hasText = true)
    (layout : Layout) :
    ∃ s, v.toJson? layout = some s ∧ Value.ofJson? s = some v ∧
      (layout = .compact → ∀ c ∈ s.toList, 0x20 ≤ c.toNat) := by
  obtain ⟨cs, encoded, spells⟩ := h.exists_spells short layout 0
  refine ⟨String.ofList cs, by simp [Value.toJson?, encoded], ?_, ?_⟩
  · rw [Value.ofJson?, String.toList_ofList]
    exact spells.decode?
  · rw [String.toList_ofList]
    exact spells.lined

end SoloScenario

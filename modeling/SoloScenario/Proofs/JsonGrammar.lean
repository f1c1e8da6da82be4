import Mathlib.Algebra.Group.Nat.Defs
import SoloScenario.Proofs.JsonRoundTrip

/-! The grammar of JSON, as far as numbers are whole: which texts are JSON and what
value each stands for. It is stricter than reading is, since a number has no leading
zeros and a mapping no key twice. What is written for a plain value stands for it. -/

namespace SoloScenario.Json

open Text

/-! ### Strings and numbers -/

/-- Hexadecimal digits, in capitals or not, and their number. -/
inductive Hexadecimal : List Char → Nat → Prop where
  | nil : Hexadecimal [] 0
  | snoc {ds : List Char} {n d : Nat} {c : Char} (h : Hexadecimal ds n)
      (hc : hexDigit? c = some d) :
      Hexadecimal (ds ++ [c]) (16 * n + d)

/-- What stands for a character of a string: the character, a letter for it after a backslash,
its number, or the numbers of the two halves of a character above the first plane. -/
inductive CharForm : List Char → Char → Prop where
  | itself {c : Char} (control : 0x20 ≤ c.toNat) (quote : c ≠ '"') (backslash : c ≠ '\\') :
      CharForm [c] c
  | quote : CharForm ['\\', '"'] '"'
  | backslash : CharForm ['\\', '\\'] '\\'
  | slash : CharForm ['\\', '/'] '/'
  | lineFeed : CharForm ['\\', 'n'] '\n'
  | carriageReturn : CharForm ['\\', 'r'] '\r'
  | tab : CharForm ['\\', 't'] '\t'
  | backspace : CharForm ['\\', 'b'] '\x08'
  | formFeed : CharForm ['\\', 'f'] '\x0c'
  | number {ds : List Char} {c : Char} (length : ds.length = 4) (h : Hexadecimal ds c.toNat) :
      CharForm ('\\' :: 'u' :: ds) c
  | halves {ds es : List Char} {high low : Nat} {c : Char} (length : ds.length = 4)
      (length' : es.length = 4) (h : Hexadecimal ds (0xd800 + high)) (hhigh : high < 0x400)
      (h' : Hexadecimal es (0xdc00 + low)) (hlow : low < 0x400)
      (hc : c.toNat = 0x10000 + 0x400 * high + low) :
      CharForm ('\\' :: 'u' :: (ds ++ '\\' :: 'u' :: es)) c

/-- What stands between the quotes of a string. -/
inductive StringForm : List Char → List Char → Prop where
  | nil : StringForm [] []
  | cons {form cs s : List Char} {c : Char} (first : CharForm form c) (more : StringForm cs s) :
      StringForm (form ++ cs) (c :: s)

/-- Digits of a number without leading zeros. -/
structure Numeral (ds : List Char) (n : Nat) : Prop where
  ne_nil : ds ≠ []
  digits : ∀ c ∈ ds, c.isDigit
  first : ds.head? = some '0' → ds = ['0']
  value : ofDecimal ds = n

/-! ### Values -/

mutual

/-- A text stands for a value. -/
inductive Denotes : List Char → Value → Prop where
  | null : Denotes "null".toList .null
  | true : Denotes "true".toList (.bool true)
  | false : Denotes "false".toList (.bool false)
  | natural {ds : List Char} {n : Nat} (h : Numeral ds n) : Denotes ds (.int n)
  | negative {ds : List Char} {n : Nat} (h : Numeral ds n) : Denotes ('-' :: ds) (.int (-n))
  | string {cs : List Char} {s : String} (h : StringForm cs s.toList) :
      Denotes ('"' :: (cs ++ ['"'])) (.text s)
  | noItems {ws : List Char} (space : ws.all isSpace = true) :
      Denotes ('[' :: (ws ++ [']'])) (.list [])
  | items {cs : List Char} {items : List Value} (h : DenotesItems cs items) :
      Denotes ('[' :: (cs ++ [']'])) (.list items)
  | noEntries {ws : List Char} (space : ws.all isSpace = true) :
      Denotes ('\x7b' :: (ws ++ ['}'])) (Report.object [])
  | entries {cs : List Char} {entries : List (String × Value)} (h : DenotesEntries cs entries)
      (distinct : (entries.map Prod.fst).Nodup) :
      Denotes ('\x7b' :: (cs ++ ['}'])) (Report.object entries)

/-- A text stands for an item, with white space around it. -/
inductive DenotesItem : List Char → Value → Prop where
  | mk {ws ws' cs : List Char} {v : Value} (before : ws.all isSpace = true) (h : Denotes cs v)
      (after : ws'.all isSpace = true) : DenotesItem (ws ++ (cs ++ ws')) v

/-- A text stands for items with commas between them. -/
inductive DenotesItems : List Char → List Value → Prop where
  | last {cs : List Char} {v : Value} (h : DenotesItem cs v) : DenotesItems cs [v]
  | cons {cs more : List Char} {v : Value} {items : List Value} (h : DenotesItem cs v)
      (hmore : DenotesItems more items) : DenotesItems (cs ++ ',' :: more) (v :: items)

/-- A text stands for an entry: a string, with white space around it, a colon and an item. -/
inductive DenotesEntry : List Char → String × Value → Prop where
  | mk {ws ws' cs form : List Char} {key : String} {v : Value} (before : ws.all isSpace = true)
      (name : StringForm form key.toList) (after : ws'.all isSpace = true) (h : DenotesItem cs v) :
      DenotesEntry (ws ++ ('"' :: (form ++ '"' :: (ws' ++ ':' :: cs)))) (key, v)

/-- A text stands for entries with commas between them. -/
inductive DenotesEntries : List Char → List (String × Value) → Prop where
  | last {cs : List Char} {e : String × Value} (h : DenotesEntry cs e) : DenotesEntries cs [e]
  | cons {cs more : List Char} {e : String × Value} {entries : List (String × Value)}
      (h : DenotesEntry cs e) (hmore : DenotesEntries more entries) :
      DenotesEntries (cs ++ ',' :: more) (e :: entries)

end

/-! ### What is written for strings and numbers -/

theorem hexadecimal_hexDigits {width n : Nat} (h : n < 16 ^ width) :
    Hexadecimal (hexDigits width n) n := by
  induction width generalizing n with
  | zero =>
    obtain rfl : n = 0 := Nat.lt_one_iff.1 h
    exact .nil
  | succ width ih =>
    have high : n / 16 < 16 ^ width := Nat.div_lt_of_lt_mul (by rwa [Nat.pow_succ'] at h)
    have low : hexDigit? (hexDigit (n % 16)) = some (n % 16) :=
      hexDigit?_hexDigit (Nat.mod_lt n (by decide))
    have digits := (ih high).snoc low
    rwa [Nat.div_add_mod] at digits

theorem charForm_of_unescape? {e c : Char} (h : unescape? e = some c) : CharForm ['\\', e] c := by
  unfold unescape? at h
  split at h
  · exact Option.some.inj h ▸ .quote
  · exact Option.some.inj h ▸ .backslash
  · exact Option.some.inj h ▸ .slash
  · exact Option.some.inj h ▸ .lineFeed
  · exact Option.some.inj h ▸ .carriageReturn
  · exact Option.some.inj h ▸ .tab
  · exact Option.some.inj h ▸ .backspace
  · exact Option.some.inj h ▸ .formFeed
  · cases h

theorem charForm_escape (c : Char) : CharForm (escape c) c := by
  obtain ⟨e, -, -, letter, form⟩ | ⟨control, form⟩ | ⟨quote, backslash, hc, form⟩ := escape_cases c
  · rw [form]
    exact charForm_of_unescape? letter
  · rw [form]
    exact .number (length_hexDigits 4 c.toNat) (hexadecimal_hexDigits (by omega))
  · rw [form]
    exact .itself hc quote backslash

theorem stringForm_flatMap_escape (s : List Char) : StringForm (s.flatMap escape) s := by
  induction s with
  | nil => exact .nil
  | cons c s ih => exact .cons (charForm_escape c) ih

/-- The first digit of a number that is not zero is not zero. -/
theorem head?_decimal_ne {n : Nat} (h : n ≠ 0) : (decimal n).head? ≠ some '0' := by
  rw [decimal, Nat.toList_repr]
  induction n using Nat.strongRecOn with
  | ind n ih =>
    by_cases small : n < 10
    · rw [Nat.toDigits_of_lt_base small]
      simpa using h
    · have ten : 10 ≤ n := Nat.not_lt.1 small
      have rest := ih (n / 10) (by omega) (by omega)
      rw [Nat.toDigits_of_base_le (by decide) ten, List.head?_append]
      intro zero
      rcases Option.or_eq_some_iff.1 zero with head | ⟨none, -⟩
      · exact rest head
      · exact Nat.toDigits_ne_nil (List.head?_eq_none_iff.1 none)

theorem numeral_decimal (n : Nat) : Numeral (decimal n) n where
  ne_nil := decimal_ne_nil n
  digits _ hc := isDigit_of_mem_decimal hc
  first zero := by
    obtain rfl : n = 0 := by
      by_contra h
      exact head?_decimal_ne h zero
    rfl
  value := ofDecimal_decimal n

theorem denotes_whole (n : Int) : Denotes (whole n) (.int n) := by
  obtain negative | natural := Int.lt_or_le n 0
  · have value : -((n.natAbs : Nat) : Int) = n := by omega
    have denotes := Denotes.negative (numeral_decimal n.natAbs)
    rw [value] at denotes
    rwa [whole, if_pos negative]
  · have value : ((n.natAbs : Nat) : Int) = n := by omega
    have denotes := Denotes.natural (numeral_decimal n.natAbs)
    rw [value] at denotes
    rwa [whole, if_neg (Int.not_lt.2 natural)]

/-! ### What is written for lists and mappings -/

variable {layout : Layout} {depth : Nat}

theorem denotesItems_of_encode : ∀ {items : List Value} {cs ws ws' : List Char}, items ≠ [] →
    (∀ v ∈ items, ∀ cs, encode? layout depth v = some cs → Denotes cs v) →
    encodeItems? layout depth items = some cs → ws.all isSpace = true → ws'.all isSpace = true →
    DenotesItems (ws ++ (cs ++ ws')) items
  | [v], cs, ws, ws', _, h, encoded, hws, hws' => by
    have first : encode? layout depth v = some cs := by
      simpa [encodeItems?, Option.bind_eq_some_iff] using encoded
    exact .last (.mk hws (h v List.mem_cons_self cs first) hws')
  | v :: w :: rest, cs, ws, ws', _, h, encoded, hws, hws' => by
    rw [encodeItems?] at encoded
    obtain ⟨first, hfirst, encoded⟩ := Option.bind_eq_some_iff.1 encoded
    obtain ⟨more, hmore, encoded⟩ := Option.bind_eq_some_iff.1 encoded
    obtain ⟨gap, between, hgap⟩ := layout.between_eq depth
    obtain rfl : first ++ (',' :: gap ++ more) = cs := by simpa [between] using encoded
    have item : DenotesItem (ws ++ (first ++ [])) v :=
      .mk hws (h v List.mem_cons_self first hfirst) rfl
    have items : DenotesItems (gap ++ (more ++ ws')) (w :: rest) :=
      denotesItems_of_encode (List.cons_ne_nil w rest)
        (fun u hu => h u (List.mem_cons_of_mem v hu)) hmore hgap hws'
    simpa using DenotesItems.cons item items

/-- An entry as it is written, with no white space before the colon. -/
theorem denotesEntry_string (key : String) {ws cs : List Char} {v : Value}
    (hws : ws.all isSpace = true) (h : DenotesItem cs v) :
    DenotesEntry (ws ++ (string key ++ ':' :: cs)) (key, v) := by
  have none : ([] : List Char).all isSpace = true := rfl
  have entry := DenotesEntry.mk hws (stringForm_flatMap_escape key.toList) none h
  simpa [string] using entry

theorem denotesEntries_of_encode : ∀ {entries : List (String × Value)} {cs ws ws' : List Char},
    entries ≠ [] →
    (∀ e ∈ entries, ∀ cs, encode? layout depth e.2 = some cs → Denotes cs e.2) →
    encodeEntries? layout depth (entries.map textEntry) = some cs →
    ws.all isSpace = true → ws'.all isSpace = true → DenotesEntries (ws ++ (cs ++ ws')) entries
  | [(key, v)], cs, ws, ws', _, h, encoded, hws, hws' => by
    obtain ⟨value, hvalue, rfl⟩ :
        ∃ value, encode? layout depth v = some value ∧ string key ++ ':' :: ' ' :: value = cs := by
      simpa [encodeEntries?, textEntry, key?, Option.bind_eq_some_iff] using encoded
    have item : DenotesItem ([' '] ++ (value ++ ws')) v :=
      .mk rfl (h (key, v) List.mem_cons_self value hvalue) hws'
    have entry := denotesEntry_string key hws item
    simpa [string] using DenotesEntries.last entry
  | (key, v) :: u :: rest, cs, ws, ws', _, h, encoded, hws, hws' => by
    rw [List.map_cons, encodeEntries?] at encoded
    obtain ⟨name, hname, encoded⟩ := Option.bind_eq_some_iff.1 encoded
    obtain ⟨value, hvalue, encoded⟩ := Option.bind_eq_some_iff.1 encoded
    obtain ⟨more, hmore, encoded⟩ := Option.bind_eq_some_iff.1 encoded
    obtain ⟨gap, between, hgap⟩ := layout.between_eq depth
    obtain rfl : string key = name := Option.some.inj hname
    obtain rfl : string key ++ ':' :: ' ' :: value ++ (',' :: gap ++ more) = cs := by
      simpa [between] using encoded
    have item : DenotesItem ([' '] ++ (value ++ [])) v :=
      .mk rfl (h (key, v) List.mem_cons_self value hvalue) rfl
    have entry := denotesEntry_string key hws item
    have entries : DenotesEntries (gap ++ (more ++ ws')) (u :: rest) :=
      denotesEntries_of_encode (List.cons_ne_nil u rest)
        (fun e he => h e (List.mem_cons_of_mem _ he)) hmore hgap hws'
    simpa [string] using DenotesEntries.cons entry entries

/-- What is written for a plain value, in any layout and at any depth, stands for it. -/
theorem Plain.denotes {v : Value} (h : Plain v) {depth : Nat} {cs : List Char}
    (encoded : encode? layout depth v = some cs) : Denotes cs v := by
  have none : ([] : List Char).all isSpace = true := rfl
  -- what stands inside is one level deeper, so the depth varies
  induction h generalizing depth cs with
  | null =>
    obtain rfl := Option.some.inj encoded
    exact .null
  | bool b =>
    obtain rfl := Option.some.inj encoded
    cases b with
    | false => exact .false
    | true => exact .true
  | int n =>
    rw [encode?, whole?] at encoded
    split at encoded
    · obtain rfl := Option.some.inj encoded
      exact denotes_whole n
    · cases encoded
  | text s =>
    obtain rfl := Option.some.inj encoded
    exact .string (stringForm_flatMap_escape s.toList)
  | @list items _ ih =>
    rw [encode?] at encoded
    obtain ⟨inside, hinside, encoded⟩ := Option.bind_eq_some_iff.1 encoded
    by_cases empty : items = []
    · subst empty
      obtain rfl : [] = inside := Option.some.inj hinside
      obtain rfl := Option.some.inj encoded
      exact .noItems none
    · have items := denotesItems_of_encode empty (fun v hv cs => ih v hv) hinside
        (layout.all_isSpace_opening (depth + 1)) (layout.all_isSpace_closing depth)
      rw [if_neg (by simpa using empty)] at encoded
      obtain rfl := Option.some.inj encoded
      exact .items items
  | @object entries distinct _ ih =>
    rw [object_eq, encode?] at encoded
    obtain ⟨inside, hinside, encoded⟩ := Option.bind_eq_some_iff.1 encoded
    by_cases empty : entries = []
    · subst empty
      obtain rfl : [] = inside := Option.some.inj hinside
      obtain rfl := Option.some.inj encoded
      exact .noEntries none
    · have entries := denotesEntries_of_encode empty (fun e he cs => ih e he) hinside
        (layout.all_isSpace_opening (depth + 1)) (layout.all_isSpace_closing depth)
      rw [if_neg (by simpa using empty)] at encoded
      obtain rfl := Option.some.inj encoded
      exact .entries entries distinct

end SoloScenario.Json

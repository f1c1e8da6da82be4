import Mathlib.Logic.Relation
import SoloScenario.Proofs.Entries
import SoloScenario.Proofs.LetterCase
import SoloScenario.Proofs.LineBreaks

/-! Settings that are settled. Settings that come from a mapping have a tool and one of the three
separators, and a mapping of such settings gives them back, so that reading settings once more
changes nothing. What a mapping holds beside the fields, or holds as null, does not count. A text
stands for a separator if it is one of the three, or else if it is a name of one, in capitals or
not; no letter from beyond the alphabet passes for a letter of a name. -/

namespace SoloScenario

open Text

/-! ### Texts that stand for a separator -/

/-- A text stands for a separator: it is one of the three, or a name of one in capitals or not. -/
inductive StandsFor : String → String → Prop where
  | itself {s : String} (h : s ∈ ["\n", "\r\n", "\r"]) : StandsFor s s
  | lf {s : String} (h : SameLetters s "lf") : StandsFor s "\n"
  | crlf {s : String} (h : SameLetters s "crlf") : StandsFor s "\r\n"
  | native {s : String} (h : SameLetters s "native") : StandsFor s "\n"

variable {s small name separator : String}

theorem lookup_separatorNames :
    separatorNames.lookup name = some separator ↔ (name, separator) ∈ separatorNames := by
  grind [separatorNames]

theorem isPlainWord_of_mem (h : (name, separator) ∈ separatorNames) : IsPlainWord name := by
  have names : ∀ p ∈ separatorNames, IsPlainWord p.1 := by decide
  exact names _ h

theorem lookup_lower : separatorNames.lookup (lower s) = some separator ↔
    ∃ name, (name, separator) ∈ separatorNames ∧ SameLetters s name := by
  rw [lookup_separatorNames]
  constructor
  · intro there
    exact ⟨lower s, there, (lower_eq_iff (isPlainWord_of_mem there)).1 rfl⟩
  · rintro ⟨name, there, same⟩
    rwa [(lower_eq_iff (isPlainWord_of_mem there)).2 same]

/-- What is found under a text is found under its small form, since names are small. -/
theorem separatorOf?_eq (s : String) : separatorOf? s = (separatorNames.lookup (lower s)).or
    (if s ∈ plainSeparators then some s else none) := by
  rw [separatorOf?]
  cases found : separatorNames.lookup s with
  | none => rfl
  | some separator =>
    have there := lookup_separatorNames.1 found
    rw [lower_of_isPlainWord (isPlainWord_of_mem there), found, Option.some_or, Option.some_or]

theorem separatorOf?_eq_some_iff : separatorOf? s = some separator ↔ StandsFor s separator := by
  have apart : ∀ s ∈ plainSeparators, separatorNames.lookup (lower s) = none := by decide +kernel
  rw [separatorOf?_eq, Option.or_eq_some_iff, lookup_lower]
  constructor
  · rintro (⟨name, there, same⟩ | ⟨-, plain⟩)
    · simp only [separatorNames, List.mem_cons, Prod.mk.injEq, List.not_mem_nil, or_false] at there
      obtain ⟨rfl, rfl⟩ | ⟨rfl, rfl⟩ | ⟨rfl, rfl⟩ := there
      · exact .crlf same
      · exact .lf same
      · exact .native same
    · split at plain
      · next itself => exact Option.some.inj plain ▸ .itself itself
      · cases plain
  · intro stands
    cases stands with
    | itself plain => exact .inr ⟨apart s plain, if_pos plain⟩
    | lf same => exact .inl ⟨"lf", by decide, same⟩
    | crlf same => exact .inl ⟨"crlf", by decide, same⟩
    | native same => exact .inl ⟨"native", by decide, same⟩

/-- It makes no difference under which of its two small forms a capital sigma is looked up. -/
theorem lookup_eq_of_sameButSigmas (h : SameButSigmas small (lower s)) :
    separatorNames.lookup small = separatorNames.lookup (lower s) := by
  refine Option.ext fun separator => ?_
  rw [lookup_separatorNames, lookup_separatorNames]
  constructor
  · intro there
    rwa [← h.eq_word (isPlainWord_of_mem there)]
  · intro there
    rwa [← h.symm.eq_word (isPlainWord_of_mem there)]

namespace Settings

open Value (field? given? given?_congr given?_eq_some_iff)

theorem resolveSeparator_text_iff :
    resolveSeparator (.text s) = .ok separator ↔ StandsFor s separator := by
  rw [← separatorOf?_eq_some_iff, resolveSeparator]
  cases separatorOf? s <;> simp

theorem resolveSeparator_text_of_not (h : ∀ separator, ¬StandsFor s separator) :
    resolveSeparator (.text s) = .error (.unknownSeparator (quoted s)) := by
  rw [resolveSeparator]
  cases found : separatorOf? s with
  | none => rfl
  | some separator => exact absurd (separatorOf?_eq_some_iff.1 found) (h separator)

/-- A separator stands for itself. -/
theorem resolveSeparator_of_mem (h : separator ∈ plainSeparators) :
    resolveSeparator (.text separator) = .ok separator :=
  resolveSeparator_text_iff.2 (.itself h)

/-! ### Entries that count -/

/-- The fields of settings. -/
def fieldNames : List String := ["tool_name", "line_separator", "timestamp_format"]

/-- One entry more that does not count: it is under no field, or it is new and null. -/
inductive AddsNothing : List (Value × Value) → List (Value × Value) → Prop where
  | unknown {before after : List (Value × Value)} {key value : Value}
      (other : ∀ field ∈ fieldNames, key.isText field = false) :
      AddsNothing (before ++ after) (before ++ (key, value) :: after)
  | null {before after : List (Value × Value)} {key : String}
      (absent : field? (before ++ after) key = none) :
      AddsNothing (before ++ after) (before ++ (.text key, .null) :: after)

variable {entries entries' : List (Value × Value)} {field : String}

theorem given?_of_addsNothing (h : AddsNothing entries entries') (hf : field ∈ fieldNames) :
    given? entries' field = given? entries field := by
  cases h with
  | unknown other =>
    refine given?_congr ?_
    rw [Value.field?_append, Value.field?_append, Value.field?_cons_of_isText (other field hf)]
  | @null before after key absent =>
    rw [Value.field?_append, Option.or_eq_none_iff] at absent
    by_cases same : key = field
    · subst same
      simp [given?, Value.field?_append, absent, Value.isNull]
    · refine given?_congr ?_
      rw [Value.field?_append, Value.field?_append, Value.field?_cons_of_ne same]

theorem ofEntries_congr (h : ∀ field ∈ fieldNames, given? entries' field = given? entries field) :
    ofEntries entries' = ofEntries entries := by
  rw [ofEntries, ofEntries, h "tool_name" (by decide), h "line_separator" (by decide),
    h "timestamp_format" (by decide)]

theorem ofEntries_of_eqvGen (h : Relation.EqvGen AddsNothing entries entries') :
    ofEntries entries = ofEntries entries' := by
  induction h with
  | rel _ _ h => exact (ofEntries_congr fun field hf => given?_of_addsNothing h hf).symm
  | refl => rfl
  | symm _ _ _ ih => exact ih.symm
  | trans _ _ _ _ _ ih ih' => exact ih.trans ih'

/-! ### Settled settings -/

/-- Settings with a tool and with one of the three separators. -/
structure IsSettled (s : Settings) : Prop where
  tool : s.tool ≠ .null
  separator : ∃ separator ∈ plainSeparators, s.separator = .text separator

/-- A mapping of the fields of settings. -/
def toEntries (s : Settings) : List (Value × Value) :=
  [(.text "tool_name", s.tool), (.text "line_separator", s.separator),
    (.text "timestamp_format", s.pattern)]

variable {s : Settings} {v : Value}

theorem isSettled_of_ofEntries (h : ofEntries entries = .ok s) : s.IsSettled where
  separator := separator_ofEntries h
  tool := by
    have tool : s.tool = (given? entries "tool_name").getD default.tool := by
      unfold ofEntries at h
      split at h <;> obtain ⟨separator, -, h⟩ := bind_eq_ok.1 h <;>
        exact congrArg Settings.tool (Except.ok.inj h).symm
    rw [tool]
    cases given : given? entries "tool_name" with
    | none => exact nofun
    | some tool => exact (given?_eq_some_iff.1 given).2

/-- A mapping of settled settings gives them back. -/
theorem ofEntries_toEntries (h : s.IsSettled) : ofEntries s.toEntries = .ok s := by
  obtain ⟨separator, plain, same⟩ := h.separator
  have tool : given? s.toEntries "tool_name" = some s.tool := given?_eq_some_iff.2 ⟨rfl, h.tool⟩
  have separated : given? s.toEntries "line_separator" = some s.separator :=
    given?_eq_some_iff.2 ⟨rfl, by simp [same]⟩
  have resolved : (resolveSeparator s.separator).map .text = .ok s.separator := by
    rw [same, resolveSeparator_of_mem plain, map_ok]
  have pattern : (given? s.toEntries "timestamp_format").getD default.pattern = s.pattern := by
    cases given : given? s.toEntries "timestamp_format" with
    | none =>
      by_contra other
      have there : given? s.toEntries "timestamp_format" = some s.pattern :=
        given?_eq_some_iff.2 ⟨rfl, Ne.symm other⟩
      rw [given] at there
      cases there
    | some pattern => exact (Option.some.inj (given?_eq_some_iff.1 given).1).symm
  simp only [ofEntries, tool, separated, resolved, pattern, ok_bind, pure_eq_ok, Option.getD_some]

/-! ### Reading once more -/

/-- What a mapping is read for: settings that are settled, by its fields alone. -/
structure Settles (entries : List (Value × Value)) : Prop where
  separator : ∀ s, ofEntries entries = .ok s →
    s.separator ∈ [.text "\n", .text "\r\n", .text "\r"]
  again : ∀ s, ofEntries entries = .ok s → ofEntries s.toEntries = .ok s
  ignores : ∀ entries', Relation.EqvGen AddsNothing entries entries' →
    ofEntries entries' = ofEntries entries

/-- A text is resolved to the separator that it stands for, and refused if it stands for none,
whichever small form its capital sigmas have. -/
structure Resolves (text : String) : Prop where
  stands : ∀ separator, resolveSeparator (.text text) = .ok separator ↔ StandsFor text separator
  refuses : (∀ separator, ¬StandsFor text separator) →
    resolveSeparator (.text text) = .error (.unknownSeparator (quoted text))
  sigmas : ∀ small, SameButSigmas small (lower text) →
    separatorNames.lookup small = separatorNames.lookup (lower text)

/-- Settings and separators are settled once they are read: to read them again changes nothing. -/
theorem settles_and_resolves (entries : List (Value × Value)) (text : String) (v : Value) :
    Settles entries ∧ Resolves text ∧ ∀ separator, resolveSeparator v = .ok separator →
      resolveSeparator (.text separator) = .ok separator := by
  refine ⟨⟨fun s h => ?_, fun s h => ofEntries_toEntries (isSettled_of_ofEntries h),
      fun entries' h => (ofEntries_of_eqvGen h).symm⟩,
    ⟨fun _ => resolveSeparator_text_iff, resolveSeparator_text_of_not,
      fun _ => lookup_eq_of_sameButSigmas⟩,
    fun separator h => resolveSeparator_of_mem (resolveSeparator_eq_ok h)⟩
  obtain ⟨separator, plain, same⟩ := separator_ofEntries h
  rw [same]
  exact List.mem_map_of_mem plain

theorem settles_noted :
    let plain := [(.text "line_separator", .text "CrLf")]
    let noted := [(.text "tool_name", .null), (.text "colour", .text "blue"),
      (.text "line_separator", .text "CrLf")]
    let settled : Settings := ⟨.text "scenario-split", .text "\r\n", .null⟩
    ofEntries noted = .ok settled ∧ ofEntries plain = ofEntries noted ∧
      ofEntries settled.toEntries = .ok settled ∧
      resolveSeparator (.text "cr\u212af") = .error (.unknownSeparator (quoted "cr\u212af")) ∧
      resolveSeparator (.text "\r\n") = .ok "\r\n" := by
  intro plain noted settled
  have resolved : resolveSeparator (.text "CrLf") = .ok "\r\n" :=
    resolveSeparator_text_iff.2 (.crlf (by decide))
  have first : ofEntries noted = .ok settled := by
    have given : given? noted "line_separator" = some (.text "CrLf") := rfl
    rw [ofEntries, given]
    simp only [resolved, map_ok, ok_bind, pure_eq_ok]
    rfl
  have coloured : AddsNothing plain ((.text "colour", .text "blue") :: plain) :=
    @AddsNothing.unknown [] plain (.text "colour") (.text "blue") (by decide)
  have null : AddsNothing ((.text "colour", .text "blue") :: plain) noted :=
    @AddsNothing.null [] _ "tool_name" rfl
  have less : Relation.EqvGen AddsNothing noted plain :=
    .symm _ _ (.trans _ _ _ (.rel _ _ coloured) (.rel _ _ null))
  have none : ∀ separator, ¬StandsFor "cr\u212af" separator := by
    rintro _ (itself | same | same | same)
    · exact absurd itself (by decide)
    all_goals exact absurd same (by decide)
  obtain ⟨settles, resolves, again⟩ := settles_and_resolves noted "cr\u212af" (.text "CrLf")
  exact ⟨first, settles.ignores plain less, settles.again settled first, resolves.refuses none,
    again "\r\n" resolved⟩

end Settings

end SoloScenario

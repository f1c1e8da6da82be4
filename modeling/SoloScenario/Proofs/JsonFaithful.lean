import SoloScenario.Proofs.Envelopes
import SoloScenario.Proofs.JsonGrammar

/-! JSON text as an encoding. A plain value has a text in each layout, which is JSON,
stands for that value, and is read back as it; no other plain value has that text, and
the compact text is one line. The exception are numbers of too many digits, which have no
text. Reports, their envelopes and the envelopes of failures are plain, and what they
count has few digits. -/

namespace SoloScenario

open Json Text

/-! ### Values of reports -/

namespace Report

theorem plain_value (r : Report) : Plain r.value := by
  have summary : Plain (object [("tags", count r.record.tagCount),
      ("steps", count r.record.stepCount), ("lines", count r.lineCount)]) := by
    refine .object (by simp) fun e he => ?_
    simp only [List.mem_cons, List.not_mem_nil, or_false] at he
    obtain rfl | rfl | rfl := he
    · exact plain_count r.record.tagCount
    · exact plain_count r.record.stepCount
    · exact plain_count r.lineCount
  have output : Plain ((r.output.map .text).getD .null) := by
    cases r.output with
    | none => exact .null
    | some path => exact .text path
  refine .object (by simp) fun e he => ?_
  simp only [List.mem_cons, List.not_mem_nil, or_false] at he
  obtain rfl | rfl | rfl | rfl | rfl | rfl | rfl | rfl := he
  · exact .text r.timestamp
  · exact .text r.record.feature
  · exact .text r.record.scenario
  · exact .text _
  · exact summary
  · exact output
  · exact plain_issueValues _
  · exact plain_issueValues _

/-- A report has a text if its lists and its document are no longer than memory holds. -/
theorem hasText_value {r : Report} (h : r.FitsMemory) (lines : r.lineCount ≤ Value.maxMembers) :
    r.value.hasText = true := by
  have summary : (object [("tags", count r.record.tagCount), ("steps", count r.record.stepCount),
      ("lines", count r.lineCount)]).hasText = true := by
    simp [hasText_object, hasText_count h.tags, hasText_count h.steps, hasText_count lines]
  have output : ((r.output.map .text).getD .null : Value).hasText = true := by
    cases r.output <;> rfl
  rw [value, hasText_object]
  simp only [List.forall_mem_cons]
  exact ⟨rfl, rfl, rfl, rfl, summary, output, hasText_issueValues _, hasText_issueValues _,
    by simp⟩

variable {command : String} {r : Report} {envelope : Value}

theorem plain_ofReport (h : Envelope.ofReport command r.value = .ok envelope) : Plain envelope := by
  obtain rfl := Except.ok.inj ((r.ofReport_value command).symm.trans h)
  exact plain_make r.plain_data r.isValid command (r.message command)

theorem hasText_ofReport (h : Envelope.ofReport command r.value = .ok envelope)
    (fits : r.FitsMemory) : envelope.hasText = true := by
  obtain rfl := Except.ok.inj ((r.ofReport_value command).symm.trans h)
  exact (hasText_make ..).trans (hasText_data fits)

end Report

/-- The envelope of a failure is plain if what it is given besides is. -/
theorem plain_failure {command text : String} {extra : List (String × Value)}
    (distinct : (extra.map Prod.fst).Nodup) (plain : ∀ e ∈ extra, Plain e.2) :
    Plain (Envelope.failure command text (extra.map textEntry)) := by
  refine plain_make ?_ false command text
  split
  · exact .null
  · exact .object distinct plain

theorem hasText_failure {command text : String} {extra : List (String × Value)}
    (h : ∀ e ∈ extra, e.2.hasText = true) :
    (Envelope.failure command text (extra.map textEntry)).hasText = true := by
  rw [Envelope.failure, hasText_make]
  split
  · rfl
  · exact hasText_object.2 h

/-! ### Faithful texts -/

namespace Json

/-- A value is told by its JSON texts. -/
structure Faithful (v : Value) : Prop where
  /-- There is a text in each layout, which is JSON and read back as the value. -/
  text : ∀ layout, ∃ s, v.toJson? layout = some s ∧ Denotes s.toList v ∧ Value.ofJson? s = some v
  /-- The compact text has no control character. -/
  line : ∀ s, v.toJson? .compact = some s → ∀ c ∈ s.toList, 0x20 ≤ c.toNat
  /-- No other value has a text of this one, in whatever layouts. -/
  only : ∀ layout layout' w s, Plain w → v.toJson? layout = some s → w.toJson? layout' = some s →
    w = v

theorem denotes_of_toJson? {v : Value} (h : Plain v) {layout : Layout} {s : String}
    (hs : v.toJson? layout = some s) : Denotes s.toList v := by
  obtain ⟨cs, encoded, rfl⟩ := Option.map_eq_some_iff.1 hs
  rw [String.toList_ofList]
  exact h.denotes encoded

/-- What is written for a plain value is read back as that value. -/
theorem ofJson?_of_toJson? {v : Value} (h : Plain v) {layout : Layout} {s : String}
    (hs : v.toJson? layout = some s) : Value.ofJson? s = some v := by
  obtain ⟨cs, encoded, -⟩ := Option.map_eq_some_iff.1 hs
  obtain ⟨s', hs', read, -⟩ := h.exists_toJson? (h.hasText_of_encode? encoded) layout
  rwa [Option.some.inj (hs.symm.trans hs')]

theorem Plain.faithful {v : Value} (h : Plain v) (short : v.hasText = true) : Faithful v where
  text layout := by
    obtain ⟨s, hs, read, -⟩ := h.exists_toJson? short layout
    exact ⟨s, hs, denotes_of_toJson? h hs, read⟩
  line s hs := by
    obtain ⟨s', hs', -, line⟩ := h.exists_toJson? short .compact
    obtain rfl := Option.some.inj (hs.symm.trans hs')
    exact line rfl
  only layout layout' w s hw hs hs' :=
    Option.some.inj ((ofJson?_of_toJson? hw hs').symm.trans (ofJson?_of_toJson? h hs))

/-- A plain value with a number of too many digits has no text. -/
theorem Plain.toJson?_eq_none {v : Value} (h : Plain v) (long : v.hasText = false)
    (layout : Layout) : v.toJson? layout = none := by
  rw [Value.toJson?, Option.map_eq_none_iff, Option.eq_none_iff_forall_ne_some]
  intro cs encoded
  rw [h.hasText_of_encode? encoded] at long
  cases long

/-- Plain values without numbers of too many digits are told by their JSON texts, and others have
none. All that is printed is plain, and what it counts in memory has few digits. -/
theorem faithful_of_plain :
    (∀ v, Plain v → v.hasText = true → Faithful v) ∧
    (∀ v, Plain v → v.hasText = false → ∀ layout, v.toJson? layout = none) ∧
    (∀ r : Report, Plain r.value ∧
      (r.FitsMemory → r.lineCount ≤ Value.maxMembers → r.value.hasText = true)) ∧
    (∀ command (r : Report) envelope, Envelope.ofReport command r.value = .ok envelope →
      Plain envelope ∧ (r.FitsMemory → envelope.hasText = true)) ∧
    (∀ command text (extra : List (String × Value)), (extra.map Prod.fst).Nodup →
      (∀ e ∈ extra, Plain e.2) → Plain (Envelope.failure command text (extra.map textEntry)) ∧
      ((∀ e ∈ extra, e.2.hasText = true) →
        (Envelope.failure command text (extra.map textEntry)).hasText = true)) :=
  ⟨fun _ => Plain.faithful, fun _ => Plain.toJson?_eq_none,
    fun r => ⟨r.plain_value, Report.hasText_value⟩,
    fun _ _ _ h => ⟨Report.plain_ofReport h, Report.hasText_ofReport h⟩,
    fun _ _ _ distinct plain => ⟨plain_failure distinct plain, hasText_failure⟩⟩

theorem not_faithful_firstLong :
    Plain (.int firstLong) ∧ (∀ layout, (Value.int firstLong).toJson? layout = none) ∧
      ¬Faithful (.int firstLong) := by
  have none (layout : Layout) : (Value.int firstLong).toJson? layout = none := by
    rw [Value.toJson?, encode?, whole?, isShort_firstLong]
    rfl
  refine ⟨.int firstLong, none, fun faithful => ?_⟩
  obtain ⟨s, written, -⟩ := faithful.text .compact
  rw [none] at written
  cases written

/-- A mapping with empty and nested lists, whose texts hold quotes and control characters. -/
def nested : List (String × Value) :=
  [("a\"\\", .list [.null, .list [], .int (-12345678901234567890), .text "\x00\n\u2028"]),
    ("", Report.object [("b", Report.object []), ("c", .bool true)])]

theorem faithful_of_plain_nested :
    Plain (Report.object nested) ∧ Faithful (Report.object nested) ∧
      Plain (Envelope.failure "render" "\t" (nested.map textEntry)) := by
  have items : ∀ v ∈ [Value.null, .list [], .int (-12345678901234567890), .text "\x00\n\u2028"],
      Plain v := by
    simp only [List.forall_mem_cons]
    exact ⟨.null, .list (by simp), .int _, .text _, by simp⟩
  have inner : ∀ e ∈ [("b", Report.object []), ("c", Value.bool true)], Plain e.2 := by
    simp only [List.forall_mem_cons]
    exact ⟨.object (by simp) (by simp), .bool true, by simp⟩
  have distinct : (nested.map Prod.fst).Nodup := by decide
  have plain : ∀ e ∈ nested, Plain e.2 := by
    simp only [nested, List.forall_mem_cons]
    exact ⟨.list items, .object (by decide) inner, by simp⟩
  have all : Plain (Report.object nested) := .object distinct plain
  have short : (Report.object nested).hasText = true := by decide +kernel
  obtain ⟨faithful, -, -, -, failure⟩ := faithful_of_plain
  exact ⟨all, faithful _ all short, (failure "render" "\t" nested distinct plain).1⟩

end Json

end SoloScenario

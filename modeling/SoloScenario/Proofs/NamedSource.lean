import Mathlib.Data.List.TakeWhile
import SoloScenario.Proofs.EnvelopeRuns
import SoloScenario.Proofs.FirstOffence

/-! Failures that name their source. The report of a refusal names the source of the value, and
that of a file that holds no record names the path, with these exceptions: a value that is no
mapping, a whole number of too many digits, a file that is not named as marked-up text and an
exception of a loader are reported by what they are, without a word on where they are. What a
command prints is such a report after a few words, so it tells which file failed with the same
exceptions. -/

namespace SoloScenario

open Text (Points TextLike)

/-! ### Messages that name a source -/

/-- A source stands in a message as it is. -/
def Names (source message : String) : Prop := source.toList <:+: message.toList

instance (source message : String) : Decidable (Names source message) :=
  inferInstanceAs (Decidable (source.toList <:+: message.toList))

variable {source message : String}

theorem names_append_self (before : String) : Names source (before ++ source) :=
  ⟨before.toList, [], by simp⟩

theorem Names.before (h : Names source message) (after : String) :
    Names source (message ++ after) := by
  rw [Names, String.toList_append]
  exact h.trans (List.prefix_append ..).isInfix

theorem Names.after (h : Names source message) (before : String) :
    Names source (before ++ message) := by
  rw [Names, String.toList_append]
  exact h.trans (List.suffix_append ..).isInfix

/-- A message without a character names nothing that has it. -/
theorem not_names_of_mem {c : Char} (there : c ∈ source.toList) (nowhere : c ∉ message.toList) :
    ¬Names source message :=
  fun names => nowhere (names.subset there)

/-! ### Values that are refused -/

namespace Refusal

/-- Refusals that say where the value is from. -/
def isLocated : Refusal → Bool
  | .notMapping _ | .tooManyDigits | .misaligned _ => false
  | _ => true

theorem names_message {f : Refusal} (h : f.isLocated = true) (source : String) :
    Names source (f.message source) := by
  cases f with
  | notMapping | tooManyDigits | misaligned => cases h
  | stepMissing key i => exact (names_append_self _).before ")"
  | _ => exact names_append_self _

theorem message_of_not_isLocated {f : Refusal} (h : f.isLocated = false)
    (source source' : String) : f.message source = f.message source' := by
  cases f with
  | notMapping | tooManyDigits | misaligned => rfl
  | _ => cases h

/-- Other refusals name a source by chance, in what they say of any source. -/
theorem names_message_iff (f : Refusal) (source : String) :
    Names source (f.message source) ↔ f.isLocated = true ∨ Names source (f.message "") := by
  cases located : f.isLocated with
  | true => exact iff_of_true (names_message located source) (.inl rfl)
  | false => simp [message_of_not_isLocated located source ""]

theorem dot_notMem_kindMessage {T : Type} (v : Value T) :
    '.' ∉ (Refusal.message "" (.notMapping v.kind)).toList := by
  have kind : '.' ∉ v.kind.toList := by
    cases v with
    | again shape => cases shape <;> rw [Value.kind] <;> decide
    | _ => rw [Value.kind]; decide
  have parts : Refusal.message "" (.notMapping v.kind) =
      "Record must be a YAML mapping, got " ++ v.kind := rfl
  rw [parts, String.toList_append, List.mem_append, not_or]
  exact ⟨by decide, kind⟩

end Refusal

namespace Record

variable {T : Type} [DecidableEq T] [TextLike T] {v : Value T} {f : Refusal}

/-- What is refused says where it is from if it is a mapping, but for a number of too many
digits. -/
theorem isLocated_iff (h : ofValue? v = .error f) :
    f.isLocated = true ↔ (∃ entries, v = .map entries) ∧ f ≠ .tooManyDigits := by
  by_cases mapping : ∃ entries, v = .map entries
  · obtain ⟨entries, rfl⟩ := mapping
    have entry := isOfEntry_of_ofValue? h
    cases f <;> simp_all [Refusal.isLocated, Refusal.isOfEntry]
  · rw [ofValue?_of_other (not_exists.1 mapping), Except.error.injEq] at h
    subst h
    exact iff_of_false (by simp [Refusal.isLocated]) fun both => mapping both.1

/-- A refusal names its source if the value is a mapping and no number has too many digits, and
otherwise by chance. -/
theorem names_refusal_iff (h : ofValue? v = .error f) (source : String) :
    Names source (f.message source) ↔
      ((∃ entries, v = .map entries) ∧ f ≠ .tooManyDigits) ∨ Names source (f.message "") := by
  rw [f.names_message_iff, isLocated_iff h]

end Record

/-! ### Files that hold no record -/

namespace Path

variable {path : Path}

theorem dot_mem_of_suffixOf {name : List Char} (h : suffixOf name ≠ []) : '.' ∈ name := by
  by_contra none
  have whole : name.reverse.takeWhile (· ≠ '.') = name.reverse := by
    rw [List.takeWhile_eq_self_iff]
    rintro c hc
    refine decide_eq_true ?_
    rintro rfl
    exact none (List.mem_reverse.1 hc)
  refine h ?_
  rw [suffixOf, whole]
  simp

theorem mem_intercalate {c : Char} {part : String} {parts : List String} (hp : part ∈ parts)
    (hc : c ∈ part.toList) : c ∈ ("/".intercalate parts).toList := by
  induction parts with
  | nil => cases hp
  | cons first rest ih =>
    cases rest with
    | nil =>
      obtain rfl := List.mem_singleton.1 hp
      rwa [String.intercalate_singleton]
    | cons next rest =>
      rw [String.intercalate_cons_cons, String.toList_append, String.toList_append]
      obtain rfl | hp := List.mem_cons.1 hp
      · exact List.mem_append_left _ (List.mem_append_left _ hc)
      · exact List.mem_append_right _ (ih hp)

/-- A path that is named as marked-up text has a dot in it. -/
theorem dot_mem_text (h : path.suffix ∈ recordSuffixes) : '.' ∈ path.text.toList := by
  have suffix : suffixOf path.name.toList ≠ [] := by
    intro none
    rw [Path.suffix, none] at h
    exact absurd h (by decide)
  have dot := dot_mem_of_suffixOf suffix
  have there : '.' ∈ ("/".intercalate path.parts).toList := by
    cases last : path.parts.getLast? with
    | none => simp [name, last] at dot
    | some part =>
      rw [name, last] at dot
      exact mem_intercalate (List.mem_of_getLast? last) dot
  rw [Path.text]
  split
  · decide
  · rw [String.toList_append]
    exact List.mem_append_right _ there

end Path

variable {loader : Loader} {tree : Tree} {path : Path} {fault : LoadFault}

theorem named_of_value {v : Value Points} (h : tree.value loader path = .ok v) :
    path.suffix ∈ recordSuffixes := by
  cases readEnd_value loader tree path with
  | missing _ ends => cases ends.symm.trans h
  | misnamed _ _ ends => cases ends.symm.trans h
  | barred _ _ ends => cases ends.symm.trans h
  | held _ _ named _ _ => exact named

/-- What a file has to meet for a message of some words and a report to name its path. If it is
read, it holds a mapping; if it has a number of too many digits, is not named as marked-up text, or
its loader ends in an exception, the path stands by chance in what is said on that. -/
structure TellsPath (words : String) (loader : Loader) (tree : Tree) (path : Path) : Prop where
  mapping : ∀ v, tree.value loader path = .ok v → ∃ entries, v = .map entries
  digits : ∀ v, tree.value loader path = .ok v → Record.ofValue? v = .error .tooManyDigits →
    Names path.text (words ++ Text.tooManyDigits)
  suffix : tree.hasPath path = .ok true → path.suffix ∉ recordSuffixes →
    Names path.text (words ++ s!"Expected .yaml or .yml file, got: {path.suffix}")
  raised : ∀ e, tree.value loader path = .error (.raised e) → Names path.text (words ++ e.message)

theorem tellsPath_of_value {words : String} {entries : Record.Entries Points}
    (held : tree.value loader path = .ok (.map entries))
    (digits : Record.ofValue? (.map entries) = .error .tooManyDigits →
      Names path.text (words ++ Text.tooManyDigits)) : TellsPath words loader tree path where
  mapping v value := ⟨entries, Except.ok.inj (value.symm.trans held)⟩
  digits v value refused := by
    obtain rfl := Except.ok.inj (held.symm.trans value)
    exact digits refused
  suffix _ other := absurd (named_of_value held) other
  raised e value := by cases held.symm.trans value

theorem tellsPath_of_error {words : String} (failed : tree.value loader path = .error fault)
    (suffix : tree.hasPath path = .ok true → path.suffix ∉ recordSuffixes →
      Names path.text (words ++ s!"Expected .yaml or .yml file, got: {path.suffix}"))
    (raised : ∀ e, fault = .raised e → Names path.text (words ++ fault.message)) :
    TellsPath words loader tree path where
  mapping v value := by cases failed.symm.trans value
  digits v value := by cases failed.symm.trans value
  suffix := suffix
  raised e failed' := by
    obtain rfl := Except.error.inj (failed.symm.trans failed')
    exact raised e rfl

/-- After words without a dot, the report on a value that is refused names the path exactly if the
file meets that. -/
theorem names_refused_iff {words : String} (plain : '.' ∉ words.toList) {v : Value Points}
    {refusal : Refusal} (held : tree.value loader path = .ok v)
    (refused : Record.ofValue? v = .error refusal) :
    Names path.text (words ++ refusal.message path.text) ↔ TellsPath words loader tree path := by
  by_cases mapping : ∃ entries, v = .map entries
  · obtain ⟨entries, rfl⟩ := mapping
    by_cases long : refusal = .tooManyDigits
    · subst long
      exact ⟨fun names => tellsPath_of_value held fun _ => names,
        fun tells => tells.digits _ held refused⟩
    · have located := (Record.isLocated_iff refused).2 ⟨⟨entries, rfl⟩, long⟩
      refine iff_of_true ((Refusal.names_message located path.text).after words) ?_
      refine tellsPath_of_value held fun digits => absurd ?_ long
      exact Except.error.inj (refused.symm.trans digits)
  · rw [Record.ofValue?_of_other (not_exists.1 mapping), Except.error.injEq] at refused
    subst refused
    refine iff_of_false ?_ fun tells => mapping (tells.mapping v held)
    refine not_names_of_mem (Path.dot_mem_text (named_of_value held)) ?_
    rw [String.toList_append, List.mem_append, not_or]
    exact ⟨plain, Refusal.dot_notMem_kindMessage v⟩

/-- After words without a dot, the report of a fault that is not the system's names the path
exactly if the file meets that. -/
theorem names_file_iff {words : String} (plain : '.' ∉ words.toList)
    (h : (Record.loadFile loader tree path).1 = .error fault) (ours : ∀ d, fault ≠ .system d) :
    Names path.text (words ++ fault.message) ↔ TellsPath words loader tree path := by
  obtain value | ⟨v, refusal, held, refused, rfl⟩ := value_of_loadFile_error h
  · cases readEnd_value loader tree path with
    | missing nowhere ends =>
      obtain rfl := Except.error.inj (ends.symm.trans value)
      have names : Names path.text (words ++ (LoadFault.notFound path).message) :=
        (names_append_self _).after words
      refine iff_of_true names (tellsPath_of_error value (fun there => ?_) nofun)
      cases nowhere.symm.trans there
    | misnamed there other ends =>
      obtain rfl := Except.error.inj (ends.symm.trans value)
      exact ⟨fun names => tellsPath_of_error value (fun _ _ => names) nofun,
        fun tells => tells.suffix there other⟩
    | barred d _ ends =>
      obtain rfl := Except.error.inj (ends.symm.trans value)
      exact absurd rfl (ours d)
    | held bytes _ named _ ends =>
      have tells : Names path.text (words ++ fault.message) →
          TellsPath words loader tree path := fun names =>
        tellsPath_of_error value (fun _ other => absurd named other) fun _ _ => names
      have read := bytesEnd_valueOfBytes loader path bytes
      rw [← ends, value] at read
      cases read with
      | empty => exact ⟨tells, fun _ => (names_append_self _).after words⟩
      | malformed diagnosis =>
        have names : Names path.text (LoadFault.malformed path diagnosis).message :=
          ((names_append_self "Malformed YAML in ").before ": ").before diagnosis
        exact ⟨tells, fun _ => names.after words⟩
      | raised => exact ⟨tells, fun tells => tells.raised _ value⟩
  · exact names_refused_iff plain held refused

/-- What the system refuses is reported with the literal of the path. -/
theorem names_literal {d : PathFault}
    (h : (Record.loadFile loader tree path).1 = .error (.system d)) :
    Names (Text.quoted path.text) d.message := by
  obtain value | ⟨_, _, -, -, other⟩ := value_of_loadFile_error h
  · cases readEnd_value loader tree path with
    | missing _ ends => cases ends.symm.trans value
    | misnamed _ _ ends => cases ends.symm.trans value
    | barred d' asked ends =>
      cases ends.symm.trans value
      rw [← asked]
      exact names_append_self _
    | held bytes _ _ _ ends =>
      have read := bytesEnd_valueOfBytes loader path bytes
      rw [← ends, value] at read
      cases read
  · cases other

namespace Command

theorem isEnvelope_of_loadFile {now : Time.Stamp} {args : List String} {verbose : Bool}
    {i : Invocation} (accepted : readInvocation now args = some (verbose, i))
    (h : (Record.loadFile loader tree i.path).1 = .error fault)
    (reported : isReported fault = true) :
    IsEnvelope (run loader now tree args).stdout false i.name .null
      ("Failed to load record: " ++ fault.message) := by
  have loaded : Record.loadFile loader tree i.path =
      (.error fault, (Record.loadFile loader tree i.path).2) := Prod.ext h rfl
  rw [run_of_readInvocation accepted, finished, Invocation.run_of_error loaded,
    stdout_failedLoad, if_pos reported]
  exact isEnvelope_failureLine i.name _

end Command

open Command in
/-- A refused value is reported with its source exactly if it is a mapping and no number in it has
too many digits. A fault of a file is reported with its path exactly if the file holds no other
value, is named as marked-up text and its loader does not end in an exception, and one of the
system with the literal of the path. The envelope of a failed run tells its file under the same
conditions. What is named beyond that is named by chance. -/
theorem names_source_iff (source : String) (v : Value) (loader : Loader) (tree : Tree)
    (path : Path) (now : Time.Stamp) (args : List String) :
    (∀ f, (Record.load source v).1 = .error f →
      (Names source (f.message source) ↔
        ((∃ entries, v = .map entries) ∧ f ≠ .tooManyDigits) ∨ Names source (f.message ""))) ∧
    (∀ fault, (Record.loadFile loader tree path).1 = .error fault → (∀ d, fault ≠ .system d) →
      (Names path.text fault.message ↔ TellsPath "" loader tree path)) ∧
    (∀ d, (Record.loadFile loader tree path).1 = .error (.system d) →
      Names (Text.quoted path.text) d.message) ∧
    ∀ verbose i fault, readInvocation now args = some (verbose, i) →
      (Record.loadFile loader tree i.path).1 = .error fault → isReported fault = true →
      IsEnvelope (run loader now tree args).stdout false i.name .null
          ("Failed to load record: " ++ fault.message) ∧
        ((∀ d, fault ≠ .system d) →
          (Names i.path.text ("Failed to load record: " ++ fault.message) ↔
            TellsPath "Failed to load record: " loader tree i.path)) := by
  refine ⟨fun f h => ?_, fun fault h ours => ?_, fun d => names_literal,
    fun verbose i fault accepted h reported =>
      ⟨isEnvelope_of_loadFile accepted h reported, names_file_iff (by decide) h⟩⟩
  · rw [Record.load_fst] at h
    exact Record.names_refusal_iff h source
  · have plain : '.' ∉ "".toList := by decide
    rw [← names_file_iff plain h ours, String.empty_append]

open Command in
theorem names_source_missingScenario :
    let tree := oneFile "feature: a\n"
    let message := "Failed to load record: Missing required field 'scenario' in r.yaml"
    IsEnvelope (run plainLoader noon tree ["validate", "r.yaml"]).stdout false "validate" .null
        message ∧
      Names "r.yaml" message := by
  intro tree message
  have accepted : readInvocation noon ["validate", "r.yaml"] =
      some (false, .validate ⟨"", ["r.yaml"]⟩) := by decide +kernel
  have failed : (Record.loadFile plainLoader tree ⟨"", ["r.yaml"]⟩).1 =
      .error (.refused "r.yaml" (.nameMissing .scenario)) := by decide +kernel
  obtain ⟨-, -, -, told⟩ := names_source_iff "r.yaml" .null plainLoader tree ⟨"", ["r.yaml"]⟩
    noon ["validate", "r.yaml"]
  obtain ⟨envelope, names⟩ := told false _ _ accepted failed rfl
  exact ⟨envelope, by decide +kernel⟩

theorem not_names_source_list :
    let tree : Tree :=
      { files := [(⟨false, ["r.json"]⟩, "feature: a\nscenario: b\n".toUTF8.toList)],
        folders := [] }
    ((Record.load "r.yaml" (.list [.text "a"] : Value)).1 = .error (.notMapping "list") ∧
      ¬Names "r.yaml" (Refusal.message "r.yaml" (.notMapping "list"))) ∧
    (Record.loadFile Command.plainLoader tree ⟨"", ["r.json"]⟩).1 = .error (.suffix ".json") ∧
      ¬Names "r.json" (LoadFault.message (.suffix ".json")) :=
  ⟨⟨rfl, by decide +kernel⟩, by decide +kernel, by decide +kernel⟩

end SoloScenario

import Mathlib.Data.List.Induction
import Mathlib.Data.List.Nodup
import SoloScenario.Proofs.Alignment
import SoloScenario.Proofs.Clean
import SoloScenario.Text.Digits

/-! Where a check finds issues. The paths of the errors and of the warnings are those of
the parts of the record that are amiss, said without the passes that find them: names by
their own condition, members of a list by the indices at which theirs fails. Each path
tells its part, because the index in it can be read back. -/

namespace SoloScenario

/-! ### Lines and blanks -/

namespace Text

/-- A text without a line feed and without a carriage return. -/
def OneLine (s : String) : Prop := '\n' ∉ s.toList ∧ '\r' ∉ s.toList

/-- A text with a character that is no white space. -/
def Filled (s : String) : Prop := ∃ c ∈ s.toList, isBlankChar c = false

instance (s : String) : Decidable (OneLine s) := inferInstanceAs (Decidable (_ ∧ _))

-- over the characters of the text, and not over all that there are
instance (s : String) : Decidable (Filled s) :=
  List.decidableBEx (fun c => isBlankChar c = false) s.toList

theorem breaksLine_eq_false_iff_oneLine {s : String} : breaksLine s = false ↔ OneLine s := by
  rw [breaksLine_eq_false_iff]
  constructor
  · intro h
    exact ⟨fun hn => Bool.noConfusion (h '\n' hn), fun hr => Bool.noConfusion (h '\r' hr)⟩
  · rintro ⟨hn, hr⟩ c hc
    rw [isLineEnd, Bool.or_eq_false_iff, decide_eq_false_iff_not, decide_eq_false_iff_not]
    exact ⟨fun h => hn (h ▸ hc), fun h => hr (h ▸ hc)⟩

theorem isBlank_eq_false_iff {s : String} : isBlank s = false ↔ Filled s := by
  simp [isBlank, Filled]

/-- An index in a text can be read back. -/
theorem indexed_injective (front back : String) :
    Function.Injective fun i : Nat => front ++ toString i ++ back := by
  intro i j h
  have same : toString i = toString j :=
    (String.append_right_inj front).1 ((String.append_left_inj back).1 h)
  have digits : decimal i = decimal j := congrArg String.toList same
  rw [← ofDecimal_decimal i, digits, ofDecimal_decimal]

end Text

namespace Record

open Text

/-! ### The paths of what is amiss -/

/-- The path of the tag with an index. -/
def tagPath (i : Nat) : String := s!"tags[{i}]"

/-- The path of the step with an index. -/
def stepPath (i : Nat) : String := s!"steps[{i}]"

/-- The path of the keyword of the step with an index. -/
def keywordPath (i : Nat) : String := s!"steps[{i}].keyword"

/-- The indices below a bound at which a condition holds, in increasing order. -/
def indices (n : Nat) (p : Nat → Prop) [DecidablePred p] : List Nat := (List.range n).filter (p ·)

/-- The path of a name that is blank or not on one line. -/
def namePaths (path name : String) : List String :=
  if Filled name ∧ OneLine name then [] else [path]

/-- The path of a misalignment, or else those of the steps with a keyword or a text that is not
on one line. -/
def stepErrorPaths (r : Record) : List String :=
  if r.steps.length = r.keywords.length then
    (indices r.steps.length fun i =>
      (∃ k ∈ r.keywords[i]?, ¬OneLine k) ∨ ∃ s ∈ r.steps[i]?, ¬OneLine s).map stepPath
  else ["keywords"]

/-- The paths of what makes a record invalid. -/
def errorPaths (r : Record) : List String :=
  namePaths "group_name" r.feature ++ (namePaths "name" r.scenario ++ stepErrorPaths r)

/-- The paths of the tags that do not start with their sign. -/
def tagWarningPaths (r : Record) : List String :=
  (indices r.tags.length fun i => ∃ tag ∈ r.tags[i]?, tag.toList.head? ≠ some '@').map tagPath

/-- The paths of the keywords that are not known, unless the record is misaligned. -/
def keywordWarningPaths (r : Record) : List String :=
  if r.steps.length = r.keywords.length then
    (indices r.keywords.length fun i => ∃ k ∈ r.keywords[i]?,
      k ∉ ["Given", "When", "Then", "And", "But", "*"]).map keywordPath
  else []

/-- The paths of what a record is warned of. -/
def warningPaths (r : Record) : List String :=
  tagWarningPaths r ++ (keywordWarningPaths r ++ if r.steps = [] then ["steps"] else [])

theorem indices_succ (n : Nat) (p : Nat → Prop) [DecidablePred p] :
    indices (n + 1) p = indices n p ++ if p n then [n] else [] := by
  rw [indices, List.range_succ, List.filter_append]
  by_cases hp : p n <;> simp [indices, hp]

/-! ### The paths that a check gives -/

/-- A check of single members gives the paths of those at whose indices it finds something. -/
theorem map_path_checkEach {α : Type} {check : Nat → α → List Issue} {path : Nat → String}
    {p : Nat → Prop} [DecidablePred p] {members : List α}
    (h : ∀ (i : Nat) (hi : i < members.length),
      (check i members[i]).map (·.path) = if p i then [path i] else []) :
    (checkEach check members).map (·.path) = (indices members.length p).map path := by
  -- from the last member, so that the indices of the others stay
  induction members using List.reverseRecOn with
  | nil => rfl
  | append_singleton members a ih =>
    have others := ih fun i hi => by
      have at_i := h i (by simp; omega)
      rwa [List.getElem_append_left hi] at at_i
    have last := h members.length (by simp)
    rw [List.getElem_concat_length rfl] at last
    rw [checkEach] at others
    rw [checkEach, List.mapIdx_concat, List.flatten_concat, List.map_append, others, last,
      List.length_append, List.length_singleton, indices_succ, List.map_append]
    split <;> rfl

theorem map_path_checkName (path word name : String) :
    (checkName path word name).map (·.path) = namePaths path name := by
  simp only [checkName, namePaths, ← isBlank_eq_false_iff, ← breaksLine_eq_false_iff_oneLine]
  cases isBlank name <;> cases breaksLine name <;> rfl

/-- A step of an aligned record, by its index. -/
theorem getElem_stepLines {r : Record} {i : Nat} (hi : i < r.stepLines.length) :
    ∃ (hk : i < r.keywords.length) (hs : i < r.steps.length),
      r.stepLines[i] = ⟨r.keywords[i], r.steps[i]⟩ := by
  have both := hi
  rw [length_stepLines] at both
  exact ⟨by omega, by omega, List.getElem_zipWith⟩

theorem map_path_checkStep {r : Record} {i : Nat} (hi : i < r.stepLines.length) :
    (checkStep i r.stepLines[i]).map (·.path) =
      if (∃ k ∈ r.keywords[i]?, ¬OneLine k) ∨ ∃ s ∈ r.steps[i]?, ¬OneLine s then [stepPath i]
      else [] := by
  obtain ⟨hk, hs, step⟩ := getElem_stepLines hi
  simp only [step, checkStep, List.getElem?_eq_getElem hk, List.getElem?_eq_getElem hs,
    Option.mem_some_iff, exists_eq_left', ← breaksLine_eq_false_iff_oneLine, Bool.not_eq_false,
    Bool.or_eq_true]
  split <;> rfl

theorem map_path_checkKeyword {r : Record} {i : Nat} (hi : i < r.stepLines.length) :
    (checkKeyword i r.stepLines[i]).map (·.path) =
      if ∃ k ∈ r.keywords[i]?, k ∉ ["Given", "When", "Then", "And", "But", "*"] then
        [keywordPath i]
      else [] := by
  obtain ⟨hk, _, step⟩ := getElem_stepLines hi
  have known : r.keywords[i] ∈ knownKeywords ↔
      r.keywords[i] ∈ ["Given", "When", "Then", "And", "But", "*"] := by
    simp only [knownKeywords, List.mem_cons, List.not_mem_nil, or_false]
    tauto
  simp only [step, checkKeyword, List.getElem?_eq_getElem hk, Option.mem_some_iff,
    exists_eq_left', ← known]
  by_cases h : r.keywords[i] ∈ knownKeywords
  · rw [if_pos h, if_neg (not_not.2 h)]
    rfl
  · rw [if_neg h, if_pos h]
    rfl

theorem map_path_checkTag {tags : List String} {i : Nat} (hi : i < tags.length) :
    (checkTag i tags[i]).map (·.path) =
      if ∃ tag ∈ tags[i]?, tag.toList.head? ≠ some '@' then [tagPath i] else [] := by
  simp only [List.getElem?_eq_getElem hi, Option.mem_some_iff, exists_eq_left', checkTag]
  by_cases h : tags[i].toList.head? = some '@'
  · rw [if_pos h, if_neg (not_not.2 h)]
    rfl
  · rw [if_neg h, if_pos h]
    rfl

variable (r : Record)

theorem map_path_stepErrors : r.stepErrors.map (·.path) = stepErrorPaths r := by
  unfold stepErrors stepErrorPaths
  by_cases aligned : r.steps.length = r.keywords.length
  · rw [if_neg (not_not.2 aligned), if_pos aligned,
      ← length_stepLines_of_aligned (show r.Aligned from aligned)]
    exact map_path_checkEach fun i hi => map_path_checkStep hi
  · rw [if_pos aligned, if_neg aligned]
    rfl

theorem map_path_errors : r.errors.map (·.path) = errorPaths r := by
  rw [errors, List.map_append, List.map_append, map_path_checkName, map_path_checkName,
    map_path_stepErrors, errorPaths]

theorem map_path_stepWarnings : r.stepWarnings.map (·.path) =
    keywordWarningPaths r ++ if r.steps = [] then ["steps"] else [] := by
  rw [stepWarnings, List.map_append]
  congr 1
  · unfold keywordWarningPaths
    by_cases aligned : r.steps.length = r.keywords.length
    · rw [if_neg (not_not.2 aligned), if_pos aligned, ← aligned,
        ← length_stepLines_of_aligned (show r.Aligned from aligned)]
      exact map_path_checkEach fun i hi => map_path_checkKeyword hi
    · rw [if_pos aligned, if_neg aligned]
      rfl
  · cases r.steps <;> rfl

theorem map_path_warnings : r.warnings.map (·.path) = warningPaths r := by
  rw [warnings, List.map_append, map_path_stepWarnings, warningPaths]
  congr 1
  exact map_path_checkEach fun i hi => map_path_checkTag hi

/-! ### Paths do not repeat -/

theorem nodup_map_indices {path : Nat → String} (hp : Function.Injective path) (n : Nat)
    (p : Nat → Prop) [DecidablePred p] : ((indices n p).map path).Nodup :=
  (List.nodup_range.filter _).map hp

theorem nodup_namePaths (path name : String) : (namePaths path name).Nodup := by
  unfold namePaths
  split <;> simp

theorem eq_of_mem_namePaths {path name a : String} (h : a ∈ namePaths path name) : a = path := by
  unfold namePaths at h
  split at h
  · cases h
  · exact List.mem_singleton.1 h

variable {r}

theorem mem_stepErrorPaths {a : String} (h : a ∈ stepErrorPaths r) :
    a = "keywords" ∧ r.steps.length ≠ r.keywords.length ∨ ∃ i, a = stepPath i := by
  unfold stepErrorPaths at h
  split at h
  · obtain ⟨i, -, rfl⟩ := List.mem_map.1 h
    exact .inr ⟨i, rfl⟩
  · next misaligned => exact .inl ⟨List.mem_singleton.1 h, misaligned⟩

/-- The path of a step is told by its first character. -/
theorem ne_stepPath {a : String} (h : a.toList.head? ≠ some 's') (i : Nat) : a ≠ stepPath i := by
  rintro rfl
  exact h (by simp [stepPath, toString])

theorem ne_of_mem_stepErrorPaths {a b : String} (h : a.toList.head? ≠ some 's')
    (hk : a ≠ "keywords") (hb : b ∈ stepErrorPaths r) : a ≠ b := by
  obtain ⟨rfl, -⟩ | ⟨i, rfl⟩ := mem_stepErrorPaths hb
  · exact hk
  · exact ne_stepPath h i

variable (r)

theorem nodup_stepErrorPaths : (stepErrorPaths r).Nodup := by
  unfold stepErrorPaths
  split
  · exact nodup_map_indices (indexed_injective "steps[" "]") _ _
  · simp

theorem nodup_errorPaths : (errorPaths r).Nodup := by
  refine List.nodup_append.2 ⟨nodup_namePaths _ _, List.nodup_append.2
    ⟨nodup_namePaths _ _, nodup_stepErrorPaths r, ?_⟩, ?_⟩
  · intro a ha b hb
    rw [eq_of_mem_namePaths ha]
    exact ne_of_mem_stepErrorPaths (by decide) (by decide) hb
  · intro a ha b hb
    rw [eq_of_mem_namePaths ha]
    obtain hb | hb := List.mem_append.1 hb
    · rw [eq_of_mem_namePaths hb]
      decide
    · exact ne_of_mem_stepErrorPaths (by decide) (by decide) hb

theorem nodup_keywordWarningPaths : (keywordWarningPaths r).Nodup := by
  unfold keywordWarningPaths
  split
  · exact nodup_map_indices (indexed_injective "steps[" "].keyword") _ _
  · simp

theorem keywordPath_ne_steps (i : Nat) : keywordPath i ≠ "steps" := by
  intro h
  have bracket := congrArg (fun path : String => path.toList[5]?) h
  simp [keywordPath, toString] at bracket

theorem tagPath_ne_keywordPath (i j : Nat) : tagPath i ≠ keywordPath j := by
  intro h
  have first := congrArg (fun path : String => path.toList.head?) h
  simp [tagPath, keywordPath, toString] at first

theorem exists_of_mem_keywordWarningPaths {a : String} (h : a ∈ keywordWarningPaths r) :
    ∃ i, a = keywordPath i := by
  unfold keywordWarningPaths at h
  split at h
  · obtain ⟨i, -, rfl⟩ := List.mem_map.1 h
    exact ⟨i, rfl⟩
  · cases h

theorem nodup_warningPaths : (warningPaths r).Nodup := by
  have noSteps : ∀ a ∈ if r.steps = [] then ["steps"] else [], a = "steps" := by
    split <;> simp
  refine List.nodup_append.2 ⟨nodup_map_indices (indexed_injective "tags[" "]") _ _,
    List.nodup_append.2 ⟨nodup_keywordWarningPaths r, by split <;> simp, ?_⟩, ?_⟩
  · intro a ha b hb
    obtain ⟨i, rfl⟩ := exists_of_mem_keywordWarningPaths r ha
    rw [noSteps b hb]
    exact keywordPath_ne_steps i
  · rintro _ ha b hb rfl
    obtain ⟨i, -, rfl⟩ := List.mem_map.1 ha
    obtain hb | hb := List.mem_append.1 hb
    · obtain ⟨j, h⟩ := exists_of_mem_keywordWarningPaths r hb
      exact tagPath_ne_keywordPath i j h
    · have first := congrArg (fun path : String => path.toList.head?) (noSteps _ hb)
      simp [tagPath, toString] at first

/-! ### Severities -/

variable {r} {e : Issue}

theorem severity_of_mem_checkName {path word name : String} (h : e ∈ checkName path word name) :
    e.severity = .error := by
  unfold checkName at h
  split at h
  · rw [List.mem_singleton.1 h]
  · split at h
    · rw [List.mem_singleton.1 h]
    · cases h

theorem severity_of_mem_stepErrors (h : e ∈ r.stepErrors) : e.severity = .error := by
  unfold stepErrors at h
  split at h
  · rw [List.mem_singleton.1 h]
    rfl
  · obtain ⟨i, hi, he⟩ := mem_checkEach_iff.1 h
    unfold checkStep at he
    split at he
    · rw [List.mem_singleton.1 he]
    · cases he

theorem severity_of_mem_errors (h : e ∈ r.errors) : e.severity = .error := by
  simp only [errors, List.mem_append] at h
  obtain h | h | h := h
  · exact severity_of_mem_checkName h
  · exact severity_of_mem_checkName h
  · exact severity_of_mem_stepErrors h

theorem severity_of_mem_stepWarnings (h : e ∈ r.stepWarnings) : e.severity = .warning := by
  obtain h | h := List.mem_append.1 h
  · split at h
    · cases h
    · obtain ⟨i, hi, he⟩ := mem_checkEach_iff.1 h
      unfold checkKeyword at he
      split at he
      · cases he
      · rw [List.mem_singleton.1 he]
  · split at h
    · rw [List.mem_singleton.1 h]
    · cases h

theorem severity_of_mem_warnings (h : e ∈ r.warnings) : e.severity = .warning := by
  obtain h | h := List.mem_append.1 h
  · obtain ⟨i, hi, he⟩ := mem_checkEach_iff.1 h
    unfold checkTag at he
    split at he
    · cases he
    · rw [List.mem_singleton.1 he]
  · exact severity_of_mem_stepWarnings h

/-! ### What a check says of a record -/

variable (r)

/-- Both names are filled and on one line, as is every keyword and every step, and there are as
many keywords as steps. -/
structure Sound : Prop where
  feature : Filled r.feature ∧ OneLine r.feature
  scenario : Filled r.scenario ∧ OneLine r.scenario
  aligned : r.steps.length = r.keywords.length
  keywords : ∀ k ∈ r.keywords, OneLine k
  steps : ∀ s ∈ r.steps, OneLine s

theorem valid_iff_sound : r.Valid ↔ r.Sound := by
  have lists (aligned : r.Aligned) :
      ((∀ s ∈ r.stepLines, breaksLine s.keyword = false) ↔ ∀ k ∈ r.keywords, OneLine k) ∧
        ((∀ s ∈ r.stepLines, breaksLine s.text = false) ↔ ∀ s ∈ r.steps, OneLine s) := by
    simp only [breaksLine_eq_false_iff_oneLine]
    constructor
    · rw [← map_keyword_stepLines aligned, List.forall_mem_map]
    · rw [← map_text_stepLines aligned, List.forall_mem_map]
  constructor
  · intro h
    exact ⟨⟨isBlank_eq_false_iff.1 h.feature, breaksLine_eq_false_iff_oneLine.1 h.feature_line⟩,
      ⟨isBlank_eq_false_iff.1 h.scenario, breaksLine_eq_false_iff_oneLine.1 h.scenario_line⟩,
      h.aligned, (lists h.aligned).1.1 h.keyword_line, (lists h.aligned).2.1 h.text_line⟩
  · intro h
    exact ⟨isBlank_eq_false_iff.2 h.feature.1, breaksLine_eq_false_iff_oneLine.2 h.feature.2,
      isBlank_eq_false_iff.2 h.scenario.1, breaksLine_eq_false_iff_oneLine.2 h.scenario.2,
      h.aligned, (lists h.aligned).1.2 h.keywords, (lists h.aligned).2.2 h.steps⟩

/-- What a check says of a record, and where. -/
structure Located (f : Findings) : Prop where
  valid_iff_errors : f.valid = true ↔ f.errors = []
  valid_iff : f.valid = true ↔ r.Sound
  errors : f.errors.map (·.path) = errorPaths r
  warnings : f.warnings.map (·.path) = warningPaths r
  error_severity : ∀ e ∈ f.errors, e.severity = .error
  warning_severity : ∀ w ∈ f.warnings, w.severity = .warning
  errors_once : (f.errors.map (·.path)).Nodup
  warnings_once : (f.warnings.map (·.path)).Nodup

/-- A check finds exactly what is amiss with a record, each thing once and at its place. -/
theorem located_check : Located r r.check where
  valid_iff_errors := valid_check_iff r
  valid_iff := valid_check.trans (valid_iff_sound r)
  errors := map_path_errors r
  warnings := map_path_warnings r
  error_severity _ := severity_of_mem_errors
  warning_severity _ := severity_of_mem_warnings
  errors_once := map_path_errors r ▸ nodup_errorPaths r
  warnings_once := map_path_warnings r ▸ nodup_warningPaths r

example : errorPaths ⟨["@a", "b"], " ", "c", ["d\n", "e"], ["Given", "\r"]⟩ =
    ["group_name", "steps[0]", "steps[1]"] := by decide +kernel

end Record

end SoloScenario

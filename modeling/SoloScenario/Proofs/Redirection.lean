import SoloScenario.Proofs.Invocation

/-! Arguments without some of their options. What is read from them is what is read
from all arguments but for these options, so that a document that was to be put at a
path, or to be told of in an envelope, is asked for in the same form to be printed. -/

namespace SoloScenario.Command

/-! ### Leaving options out -/

/-- Arguments without the options that are to be left out and without their values. -/
def dropOptions (forms : List OptionForm) (out : CommandOption → Bool) : List String → List String
  | [] => []
  | arg :: rest =>
    if arg = "--" then arg :: rest
    else if isOption arg then
      match readOption forms arg.toList, rest with
      | .ok (given, none), rest =>
        (if given.any (out ·.1) then [] else [arg]) ++ dropOptions forms out rest
      | .ok (_, some (option, _)), value :: rest =>
        (if out option then [] else [arg, value]) ++ dropOptions forms out rest
      | _, rest => arg :: rest
    else arg :: dropOptions forms out rest

/-- What is read from arguments, without the options that are to be left out. -/
def Arguments.without (a : Arguments) (out : CommandOption → Bool) : Arguments :=
  { a with given := a.given.filter fun o => !out o.1 }

/-- Options that have a letter take a value, so an argument holds one option only, and can
be left out without another. -/
def Lettered (forms : List OptionForm) : Prop :=
  ∀ f ∈ forms, f.letter.isSome → f.takesValue = true

theorem lettered_renderForms : Lettered renderForms := by
  unfold Lettered
  decide

variable {forms : List OptionForm} {out : CommandOption → Bool} {a : Arguments}

/-- An argument gives one option, or leaves one to wait for its value. -/
inductive OneOption : List (CommandOption × String) × Pending → Prop where
  | given (option : CommandOption) (value : String) : OneOption ([(option, value)], none)
  | pending (option : CommandOption) (name : String) : OneOption ([], some (option, name))

theorem oneOption_readLetters (lettered : Lettered forms) {cs : List Char} (nonempty : cs ≠ [])
    {r : List (CommandOption × String) × Pending} (h : readLetters forms cs = .ok r) :
    OneOption r := by
  cases cs with
  | nil => exact absurd rfl nonempty
  | cons c rest =>
    rw [readLetters] at h
    split at h
    · cases h
    · next f found =>
      have letter : f.letter = some c := by simpa using List.find?_some found
      have takes := lettered f (List.mem_of_find?_eq_some found) (by simp [letter])
      rw [if_pos takes] at h
      split at h
      · exact Except.ok.inj h ▸ .pending ..
      · exact Except.ok.inj h ▸ .given ..

theorem oneOption_readOption (lettered : Lettered forms) {arg : String} (option : isOption arg)
    {r : List (CommandOption × String) × Pending} (h : readOption forms arg.toList = .ok r) :
    OneOption r := by
  have more : arg.toList.drop 1 ≠ [] := by
    unfold isOption at option
    split at option
    · next chars => simp [chars]
    · cases option
  simp only [readOption] at h
  split at h
  · split at h
    · exact Except.ok.inj h ▸ .given ..
    · cases h
  · split at h
    · exact Except.ok.inj h ▸ .pending ..
    · exact Except.ok.inj h ▸ .given ..
  · split at h
    · cases h
    · exact oneOption_readLetters lettered more h

/-! ### What single arguments add -/

variable {mixed : Bool} {arg : String} {rest : List String}

theorem readArguments_given (dashes : arg ≠ "--") (option : isOption arg = true)
    {given : List (CommandOption × String)} (h : readOption forms arg.toList = .ok (given, none)) :
    readArguments forms mixed (arg :: rest) =
      (readArguments forms mixed rest).map fun more =>
        { more with given := given ++ more.given } := by
  rw [readArguments.eq_def]
  simp only [if_neg dashes, if_pos option, h]
  cases readArguments forms mixed rest <;> rfl

theorem readArguments_pending {value name : String} (dashes : arg ≠ "--")
    (option : isOption arg = true) {given : List (CommandOption × String)} {o : CommandOption}
    (h : readOption forms arg.toList = .ok (given, some (o, name))) :
    readArguments forms mixed (arg :: value :: rest) =
      (readArguments forms mixed rest).map fun more =>
        { more with given := given ++ (o, value) :: more.given } := by
  rw [readArguments.eq_def]
  simp only [if_neg dashes, if_pos option, h]
  cases readArguments forms mixed rest <;> rfl

theorem readArguments_operand (dashes : arg ≠ "--") (option : ¬ isOption arg = true) :
    readArguments forms true (arg :: rest) =
      (readArguments forms true rest).map fun more =>
        { more with operands := arg :: more.operands } := by
  rw [readArguments.eq_def]
  simp only [if_neg dashes, if_neg option, if_true]
  cases readArguments forms true rest <;> rfl

/-- From the arguments that remain, the options that remain are read. -/
theorem readArguments_dropOptions (lettered : Lettered forms) {args : List String}
    (h : readArguments forms true args = .ok a) :
    readArguments forms true (dropOptions forms out args) = .ok (a.without out) := by
  fun_induction readArguments forms true args generalizing a with
  | case1 =>
    obtain rfl := Except.ok.inj h
    rfl
  -- after two hyphens nothing is an option, so nothing is left out
  | case2 rest =>
    obtain rfl := Except.ok.inj h
    rw [dropOptions.eq_def]
    simp only [if_true]
    rw [readArguments.eq_def]
    rfl
  | case3 => cases h
  -- an option that the argument gives whole
  | case4 arg dashes option given rest read ih =>
    obtain ⟨more, hm, h⟩ := bind_eq_ok.1 h
    obtain rfl := Except.ok.inj h
    rw [dropOptions.eq_def]
    simp only [if_neg dashes, if_pos option, read]
    cases oneOption_readOption lettered option read with
    | given o value =>
      cases ho : out o with
      | true => simp [ho, ih hm, Arguments.without]
      | false =>
        simp only [List.any_cons, ho, List.any_nil, Bool.or_false, Bool.false_eq_true, if_false,
          List.cons_append, List.nil_append]
        rw [readArguments_given dashes option read, ih hm]
        simp [Arguments.without, ho, Except.map]
  | case5 => cases h
  -- an option whose value is the next argument
  | case6 arg dashes option given o name value rest read ih =>
    obtain ⟨more, hm, h⟩ := bind_eq_ok.1 h
    obtain rfl := Except.ok.inj h
    rw [dropOptions.eq_def]
    simp only [if_neg dashes, if_pos option, read]
    cases oneOption_readOption lettered option read with
    | pending =>
      cases ho : out o with
      | true => simp [ih hm, Arguments.without, ho]
      | false =>
        simp only [Bool.false_eq_true, if_false, List.cons_append, List.nil_append]
        rw [readArguments_pending dashes option read, ih hm]
        simp [Arguments.without, ho, Except.map]
  -- an operand, which may stand among options
  | case7 arg rest dashes option mixed ih =>
    obtain ⟨more, hm, h⟩ := bind_eq_ok.1 h
    obtain rfl := Except.ok.inj h
    rw [dropOptions.eq_def]
    simp only [if_neg dashes, if_neg option]
    rw [readArguments_operand dashes option, ih hm]
    rfl
  | case8 arg rest dashes option mixed => exact absurd rfl mixed

/-- The operands start where the options end, and what is read before them does not
depend on those after the first. -/
theorem exists_front {args : List String} {name : String}
    (h : readArguments forms false args = .ok a) (ho : a.operands = name :: rest) :
    ∃ front, args = front ++ name :: rest ∧ ∀ rest',
      readArguments forms false (front ++ name :: rest') =
        .ok { a with operands := name :: rest' } := by
  fun_induction readArguments forms false args generalizing a with
  | case1 =>
    obtain rfl := Except.ok.inj h
    cases ho
  | case2 =>
    obtain rfl := Except.ok.inj h
    cases ho
    refine ⟨["--"], rfl, fun rest' => ?_⟩
    rw [List.singleton_append, readArguments.eq_def]
    rfl
  | case3 => cases h
  | case4 arg dashes option given args read ih =>
    obtain ⟨more, hm, h⟩ := bind_eq_ok.1 h
    obtain rfl := Except.ok.inj h
    obtain ⟨front, rfl, same⟩ := ih hm ho
    refine ⟨arg :: front, rfl, fun rest' => ?_⟩
    rw [List.cons_append, readArguments_given dashes option read, same rest', map_ok]
  | case5 => cases h
  | case6 arg dashes option given o opt value args read ih =>
    obtain ⟨more, hm, h⟩ := bind_eq_ok.1 h
    obtain rfl := Except.ok.inj h
    obtain ⟨front, rfl, same⟩ := ih hm ho
    refine ⟨arg :: value :: front, rfl, fun rest' => ?_⟩
    rw [List.cons_append, List.cons_append, readArguments_pending dashes option read,
      same rest', map_ok]
  | case7 _ _ _ _ mixed => cases mixed
  | case8 arg args dashes option =>
    obtain rfl := Except.ok.inj h
    obtain ⟨rfl, rfl⟩ := List.cons.inj ho
    refine ⟨[], rfl, fun rest' => ?_⟩
    rw [List.nil_append, readArguments.eq_def]
    simp [dashes, option]

/-! ### What is read without some options -/

namespace Arguments

theorem value?_without {o : CommandOption} (kept : out o = false) :
    (a.without out).value? o = a.value? o := by
  simp only [value?, without, ← List.filter_reverse, List.find?_filter]
  congr 2
  funext g
  by_cases hg : g.1 = o <;> simp [hg, kept]

theorem value?_without_of_out {o : CommandOption} (dropped : out o = true) :
    (a.without out).value? o = none := by
  simp only [value?, without, Option.map_eq_none_iff, List.find?_eq_none, List.mem_reverse,
    List.mem_filter, decide_eq_true_eq]
  rintro g ⟨-, kept⟩ rfl
  simp [dropped] at kept

theorem has_without_of_out {o : CommandOption} (dropped : out o = true) :
    (a.without out).has o = false := by
  simp only [has, without, List.any_eq_false, List.mem_filter, decide_eq_true_eq]
  rintro g ⟨-, kept⟩ rfl
  simp [dropped] at kept

theorem inquiry?_without (h : a.inquiry? = none) : (a.without out).inquiry? = none := by
  simp only [inquiry?, Option.map_eq_none_iff, List.find?_eq_none, without] at h ⊢
  exact fun g hg => h g (List.mem_filter.1 hg).1

theorem mem_options_without {o : CommandOption} (h : o ∈ (a.without out).options) :
    o ∈ a.options ∧ out o = false := by
  simp only [options, List.mem_eraseDups, without] at h ⊢
  obtain ⟨g, hg, rfl⟩ := List.mem_map.1 h
  obtain ⟨given, kept⟩ := List.mem_filter.1 hg
  exact ⟨List.mem_map_of_mem given, by simpa using kept⟩

theorem isSome_value? {o : CommandOption} (h : a.has o = true) : (a.value? o).isSome := by
  simp only [value?, Option.isSome_map]
  simpa [has] using h

end Arguments

/-- The options that say where a document goes and in which form the run tells of it. -/
def redirects (o : CommandOption) : Bool := o = .output || o = .json

/-- The request for the same document to be printed. -/
def RenderRequest.toPrint (q : RenderRequest) : RenderRequest :=
  { q with output := none, json := false }

variable {now now' : Time.Stamp} {q : RenderRequest}

theorem checkOption_without {o : CommandOption} (kept : out o = false) :
    checkOption (a.without out) o = checkOption a o := by
  simp only [checkOption, Arguments.value?_without kept]

/-- A time that is given does not depend on the clock. -/
theorem getD_readTime {time : Option Time.Stamp}
    (timed : (a.value? .timestamp).mapM readTime = .ok time)
    (same : a.has .timestamp = true ∨ now' = now) : time.getD now' = time.getD now := by
  rcases same with given | rfl
  · obtain ⟨value, hv⟩ := Option.isSome_iff_exists.1 (Arguments.isSome_value? given)
    rw [hv] at timed
    obtain ⟨t, -, rfl⟩ := map_eq_ok.1 timed
    rfl
  · rfl

/-- Without the options that redirect it, a request is to print the same document. -/
theorem readRequest_without (h : readRequest now a = .ok q)
    (same : a.has .timestamp = true ∨ now' = now) :
    readRequest now' (a.without redirects) = .ok q.toPrint := by
  obtain ⟨checks, path, output, separator, time, record, -, named, timed, rfl⟩ :=
    readRequest_eq_ok_iff.1 h
  refine readRequest_eq_ok_iff.2 ⟨fun o ho => ?_, path, none, separator, time, record, ?_, ?_, ?_,
    ?_⟩
  · obtain ⟨given, kept⟩ := Arguments.mem_options_without ho
    exact (checkOption_without kept).trans (checks o given)
  · rw [Arguments.value?_without_of_out rfl]
    rfl
  · rwa [Arguments.value?_without rfl]
  · rwa [Arguments.value?_without rfl]
  · simp only [RenderRequest.toPrint, getD_readTime timed same, Arguments.has_without_of_out,
      Arguments.value?_without, redirects, reduceCtorEq, decide_false, decide_true, Bool.or_true,
      Bool.or_self]

/-! ### Arguments that print a document -/

/-- The arguments after the name of a subcommand. -/
def afterName (args : List String) : List String :=
  match readArguments mainForms false args with
  | .ok a => a.operands.drop 1
  | .error _ => []

/-- Whether the time of a document is among the arguments. -/
def givesTime (args : List String) : Bool :=
  match readArguments renderForms true (afterName args) with
  | .ok a => a.has .timestamp
  | .error _ => false

/-- The arguments that print the document which others put at a path, or tell of in an
envelope. -/
def printing (args : List String) : List String :=
  args.take (args.length - (afterName args).length) ++
    dropOptions renderForms redirects (afterName args)

theorem afterName_of_operands {args : List String} {name : String}
    (h : readArguments mainForms false args = .ok a) (operands : a.operands = name :: rest) :
    afterName args = rest := by
  simp only [afterName, h, operands, List.drop_one, List.tail_cons]

theorem printing_append {front : List String} {name : String}
    (h : afterName (front ++ name :: rest) = rest) :
    printing (front ++ name :: rest) =
      front ++ name :: dropOptions renderForms redirects rest := by
  have kept : (front ++ name :: rest).length - rest.length = front.length + 1 := by
    rw [List.length_append, List.length_cons]
    omega
  rw [printing, h, kept, List.take_length_add_append, List.take_succ_cons, List.take_zero,
    List.append_assoc, List.singleton_append]

/-- The arguments that print a document ask for the one that the others ask for. -/
theorem readInvocation_printing {args : List String} {verbose : Bool}
    (h : readInvocation now args = some (verbose, .render q))
    (same : givesTime args = true ∨ now' = now) :
    readInvocation now' (printing args) = some (verbose, .render q.toPrint) := by
  obtain ⟨before, silent, operands, names, after, silent', request, shows⟩ :=
    asksDocument_iff.1 h
  obtain ⟨front, rfl, reads⟩ := exists_front before operands
  have parted := afterName_of_operands before operands
  rw [givesTime, parted, after] at same
  rw [printing_append parted, asksDocument_iff]
  exact .intro (reads _) silent rfl names (readArguments_dropOptions lettered_renderForms after)
    (Arguments.inquiry?_without silent') (readRequest_without request same) shows

example : printing ["-v", "render", "r.yaml", "-o", "x", "--json", "--timestamp=2024-01-01"] =
    ["-v", "render", "r.yaml", "--timestamp=2024-01-01"] := by decide +kernel

end SoloScenario.Command

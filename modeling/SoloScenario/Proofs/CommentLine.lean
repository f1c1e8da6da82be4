import SoloScenario.Proofs.FileEffects
import SoloScenario.Proofs.LineStructure
import SoloScenario.Proofs.TimeText

/-! The comment at the end of a document. It names the tool and the time, which are not checked
as the record is. What a run prints or writes ends in one comment line exactly if neither the
name of the tool nor the text of the time breaks its line. -/

namespace SoloScenario

open Text

namespace Document

/-! ### Documents that end in a comment -/

/-- A document goes on after the empty line below its steps with one line and nothing else, which
starts as the comment does and ends with the separator. -/
def EndsInComment (separator : String) (r : Record) (document : String) : Prop :=
  ∃ rest line, document = body separator r ++ rest ∧
    cutLines rest.toList = ([(line, separator.toList)], []) ∧ "# Generated by ".toList <+: line

theorem breaksLine_footer (c : Config) (t : Time.Stamp) :
    breaksLine (footer c t) = false ↔
      breaksLine c.tool = false ∧ breaksLine (c.timeText t) = false := by
  have label : breaksLine "# Generated by " = false := by decide
  have comma : breaksLine ", " = false := by decide
  simp [footer_eq, label, comma]

/-- A document ends in a comment exactly if tool and time stay on its line. -/
theorem endsInComment_text_iff {c : Config} (hc : c.separator ∈ plainSeparators) (r : Record)
    (t : Time.Stamp) : EndsInComment c.separator r (text c r t) ↔
      breaksLine c.tool = false ∧ breaksLine (c.timeText t) = false := by
  rw [← breaksLine_footer, text_eq]
  constructor
  · rintro ⟨rest, line, document, cut, -⟩
    obtain rfl : footer c t ++ c.separator = rest := (String.append_right_inj _).1 document
    -- the line and its end make up the rest, so the line is the comment
    have whole := join_cutLines (footer c t ++ c.separator).toList
    rw [cut] at whole
    have comment : line = (footer c t).toList := by simpa using whole
    have only : (line, c.separator.toList) ∈ (cutLines (footer c t ++ c.separator).toList).1 := by
      rw [cut]
      exact List.mem_singleton_self _
    exact breaksLine_eq_false_iff.2 fun ch hch =>
      not_isLineEnd_of_mem_cutLines only (comment ▸ hch)
  · intro unbroken
    have cut := cutLines_line (breaksLine_eq_false_iff.1 unbroken) hc
      (show _ → ([] : List Char).head? ≠ some '\n' by simp)
    refine ⟨_, (footer c t).toList, rfl, ?_, ?_⟩
    · simpa [cutLines] using cut
    · simp [footer_eq]

end Document

namespace Command

open Document Text

/-! ### Runs that deliver a document -/

/-- A run delivers a document: it is printed unless a path or an envelope is asked for, and is
in the file at a path that it is asked for. -/
structure Delivers (q : RenderRequest) (outcome : Outcome) (document : String) : Prop where
  printed : q.output = none → q.json = false → outcome.stdout = document
  written : ∀ path, q.output = some path →
    outcome.tree.read path = .ok document.toUTF8.toList

/-- The time in the document that a request asks for. -/
def RenderRequest.timeText (q : RenderRequest) : String :=
  Config.timeText { pattern := q.pattern } q.time

variable {loader : Loader} {now : Time.Stamp} {tree : Tree} {args : List String}
  {verbose : Bool} {q : RenderRequest}

theorem delivers_of_renderEnd {c : Config} {r : Record Points} {result : Result}
    (ends : RenderEnd tree q c r result) (done : result.exitCode = 0) :
    Delivers q (finished verbose result) (text c r.shown q.time) := by
  cases ends with
  | printed output =>
    refine ⟨fun _ json => ?_, fun path put => ?_⟩
    · rw [finished, stdout_delivering done, deliveredText, json, output]
      rfl
    · cases output.symm.trans put
  | written output _ leaves =>
    refine ⟨fun none => ?_, fun path' put => ?_⟩
    · cases none.symm.trans output
    · obtain rfl := Option.some.inj (output.symm.trans put)
      rw [finished, tree_delivering]
      exact (Tree.writesOnly_of_write leaves).read
  | refused => cases done
  | emptied => cases done
  | unopened => cases done

/-- A run that succeeds delivers the document of a valid record. -/
theorem delivers_run (asked : readInvocation now args = some (verbose, .render q))
    (done : (run loader now tree args).exitCode = 0) :
    ∃ r log separator, Record.loadFile loader tree q.path = (.ok r, log) ∧
      r.shown.check.valid = true ∧ separatorNames.lookup q.separator = some separator ∧
      Delivers q (run loader now tree args)
        (text ⟨q.tool, separator, q.pattern⟩ r.shown q.time) := by
  obtain ⟨-, -, -, -, -, -, request, -⟩ := asksDocument_iff.1 asked
  obtain ⟨separator, known⟩ := exists_separator_of_readRequest request
  rw [run_of_readInvocation asked] at done ⊢
  cases requestEnd_render loader tree (RenderRequest.config_of_separator known) with
  | refused exits _ => cases exits.symm.trans done
  | rendered loaded valid ends =>
    exact ⟨_, _, separator, loaded, valid, known, delivers_of_renderEnd ends done⟩

/-- What a run delivers ends in one comment line exactly if the name of the tool and the text
of the time stay on that line. The time does so in standard form and by a pattern without harm. -/
theorem endsInComment_run_iff (asked : readInvocation now args = some (verbose, .render q))
    (done : (run loader now tree args).exitCode = 0) :
    ∃ r log separator document, Record.loadFile loader tree q.path = (.ok r, log) ∧
      r.shown.check.valid = true ∧ separatorNames.lookup q.separator = some separator ∧
      document = text ⟨q.tool, separator, q.pattern⟩ r.shown q.time ∧
      Delivers q (run loader now tree args) document ∧
      (EndsInComment separator r.shown document ↔
        breaksLine q.tool = false ∧ breaksLine q.timeText = false) ∧
      (Time.IsHarmless q.pattern q.time → breaksLine q.timeText = false) := by
  obtain ⟨r, log, separator, loaded, valid, known, delivers⟩ := delivers_run asked done
  have plain : separator ∈ plainSeparators := by
    refine separatorOf?_mem (s := q.separator) ?_
    rw [separatorOf?, known, Option.some_or]
  let c : Config := ⟨q.tool, separator, q.pattern⟩
  have ends : EndsInComment separator r.shown (text c r.shown q.time) ↔
      breaksLine q.tool = false ∧ breaksLine q.timeText = false :=
    endsInComment_text_iff (c := c) plain r.shown q.time
  have stays : Time.IsHarmless q.pattern q.time → breaksLine q.timeText = false :=
    Time.breaksLine_timeText (c := c)
  exact ⟨r, log, separator, _, loaded, valid, known, rfl, delivers, ends, stays⟩

/-- A request that shows the year alone. -/
def yearRequest : RenderRequest :=
  ⟨⟨"", ["r.yaml"]⟩, none, "t", "native", newYear, some "%Y", false⟩

theorem endsInComment_run_iff_yearRequest :
    let args := ["render", "r.yaml", "--tool-name", "t", "--timestamp", "2024-01-01",
      "--timestamp-format", "%Y"]
    let outcome := run plainLoader noon (oneFile "feature: a\nscenario: b\n") args
    readInvocation noon args = some (false, .render yearRequest) ∧ outcome.exitCode = 0 ∧
      ∃ r separator document, separatorNames.lookup "native" = some separator ∧
        Delivers yearRequest outcome document ∧ EndsInComment separator r document := by
  intro args outcome
  have asked : readInvocation noon args = some (false, .render yearRequest) := by decide +kernel
  have done : outcome.exitCode = 0 := by decide +kernel
  obtain ⟨r, log, separator, document, -, -, known, -, delivers, ends, stays⟩ :=
    endsInComment_run_iff asked done
  have zone : newYear.zone = none := by decide +kernel
  have harmless : Time.IsHarmless yearRequest.pattern yearRequest.time := by
    simp [Time.IsHarmless, yearRequest, zone, isLineEnd]
  exact ⟨asked, done, r.shown, separator, document, known, delivers,
    ends.2 ⟨by decide, stays harmless⟩⟩

/-- A request whose tool has a scenario in its name. -/
def scenarioRequest : RenderRequest :=
  ⟨⟨"", ["r.yaml"]⟩, none, "x\nScenario: y", "native", newYear, none, false⟩

/-- The name of a tool can add a scenario to the document of a valid record. -/
theorem not_endsInComment_scenarioRequest :
    let tree := oneFile "feature: a\nscenario: b\n"
    let args := ["render", "r.yaml", "--tool-name", "x\nScenario: y", "--timestamp", "2024-01-01"]
    (run plainLoader noon tree ["validate", "r.yaml"]).exitCode = 0 ∧
      readInvocation noon args = some (false, .render scenarioRequest) ∧
      (run plainLoader noon tree args).exitCode = 0 ∧
      ∃ r log, Record.loadFile plainLoader tree scenarioRequest.path = (.ok r, log) ∧
        ¬ EndsInComment "\n" r.shown (run plainLoader noon tree args).stdout := by
  intro tree args
  have asked : readInvocation noon args = some (false, .render scenarioRequest) := by
    decide +kernel
  have done : (run plainLoader noon tree args).exitCode = 0 := by decide +kernel
  refine ⟨by decide +kernel, asked, done, ?_⟩
  obtain ⟨r, log, separator, loaded, -, known, delivers⟩ := delivers_run asked done
  obtain rfl : "\n" = separator := Option.some.inj known
  refine ⟨r, log, loaded, ?_⟩
  rw [delivers.printed rfl rfl]
  intro ends
  obtain ⟨tool, -⟩ := (endsInComment_text_iff (by decide) r.shown _).1 ends
  cases tool

end Command

end SoloScenario

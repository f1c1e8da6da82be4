import SoloScenario.Log
import SoloScenario.Record.Basic
import SoloScenario.Time.Pattern

/-! The document of a scenario: its feature, its tags, its name and its steps,
and a comment that tells which tool made it and when. Every line ends with the
same separator. -/

namespace SoloScenario

/-- How documents are written: the tool they name, the separator that ends a
line, and the pattern of the time, which is in standard form without one. -/
structure Config where
  tool : String := "scenario-split"
  separator : String := "\n"
  pattern : Option String := none
  deriving DecidableEq, Repr, Inhabited

def Config.timeText (c : Config) (t : Time.Stamp) : String :=
  match c.pattern with
  | none => t.iso
  | some pattern => if pattern = "" then t.iso else t.format pattern

namespace Document

/-- The comment at the end of a document. -/
def footer (c : Config) (t : Time.Stamp) : String :=
  "# Generated by " ++ c.tool ++ ", " ++ c.timeText t

/-- The lines of a document before the comment. -/
def bodyLines (r : Record) : List String :=
  ["Feature: " ++ r.feature, ""] ++ (r.tags ++ ("Scenario: " ++ r.scenario) ::
    (r.stepLines.map StepLine.line ++ [""]))

def lines (c : Config) (r : Record) (t : Time.Stamp) : List String :=
  bodyLines r ++ [footer c t]

/-- Lines with a separator after each. -/
def joinLines (separator : String) (lines : List String) : String :=
  String.join (lines.map (· ++ separator))

def text (c : Config) (r : Record) (t : Time.Stamp) : String :=
  joinLines c.separator (lines c r t)

def renderedEntry (r : Record) : LogEntry :=
  ⟨.debug, "scenario_split.render.feature_renderer",
    s!"Rendered scenario '{r.scenario}' of feature '{r.feature}' ({r.stepCount} steps)"⟩

/-- Writes a document, and logs it. -/
def render (c : Config) (r : Record) (t : Time.Stamp) : String × Log :=
  (text c r t, [renderedEntry r])

theorem length_lines (c : Config) (r : Record) (t : Time.Stamp) :
    (lines c r t).length = 5 + r.tags.length + r.stepLines.length := by
  simp [lines, bodyLines]; omega

end Document

end SoloScenario

/-! Log entries. A run hands them back as data; what is shown of them depends on
how much was asked for. -/

namespace SoloScenario

inductive Level where
  | debug | info | warning | error
  deriving DecidableEq, Repr

def Level.name : Level → String
  | .debug => "DEBUG"
  | .info => "INFO"
  | .warning => "WARNING"
  | .error => "ERROR"

def Level.rank : Level → Nat
  | .debug => 10
  | .info => 20
  | .warning => 30
  | .error => 40

/-- One entry: its level, the part of the program that made it, and its text. -/
structure LogEntry where
  level : Level
  source : String
  message : String
  deriving DecidableEq, Repr

/-- Entries in the order in which they were made. -/
abbrev Log := List LogEntry

def LogEntry.line (e : LogEntry) : String := s!"{e.level.name} {e.source}: {e.message}\n"

/-- The lines of the entries from a level up. -/
def Log.text (least : Level) (log : Log) : String :=
  String.join ((log.filter fun e => least.rank ≤ e.level.rank).map LogEntry.line)

end SoloScenario

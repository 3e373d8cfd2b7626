import NotebookAudit.Text.Basic

/-!
Log lines.
-/

namespace NotebookAudit

/-- How grave a log line is. -/
inductive LogLevel where
  | info
  | warning
  | error
  deriving Repr, DecidableEq

/-- The name of a level. -/
def LogLevel.name : LogLevel → Text
  | info => "INFO"
  | warning => "WARNING"
  | error => "ERROR"

/-- A line of the log. -/
structure LogLine where
  level : LogLevel
  message : Text
  deriving Repr, DecidableEq

namespace LogLine

/-- A line that informs. -/
def info (message : Text) : LogLine := ⟨.info, message⟩

/-- A line that warns. -/
def warning (message : Text) : LogLine := ⟨.warning, message⟩

/-- A line that reports an error. -/
def error (message : Text) : LogLine := ⟨.error, message⟩

/-- A line as it is written: its level and its message. -/
def text (l : LogLine) : Text := l.level.name ++ " " ++ l.message

end LogLine

end NotebookAudit

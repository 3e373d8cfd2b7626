import NotebookAudit.Severity

/-!
Rules: what is looked for in the lines of notebooks.
-/

namespace NotebookAudit

/-- A rule: a pattern, and the findings that it gives rise to. A rule that is not enabled is never
looked for. -/
structure Rule where
  id : Text
  name : Text
  message : Text
  pattern : Text
  severity : Severity
  enabled : Bool
  deriving Repr, DecidableEq

end NotebookAudit

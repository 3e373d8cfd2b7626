import NotebookAudit.Text.Basic

/-!
The release of this library.
-/

namespace NotebookAudit

/-- A release. -/
structure Release where
  /-- The parts of the version number. -/
  parts : List Nat
  date : Text
  description : Text

namespace Release

/-- The version number: its parts with a point between each two. -/
def version (r : Release) : Text := Text.joinWith 0x2e (r.parts.map Text.ofNat)

/-- The present release. -/
def current : Release where
  parts := [1, 2, 0]
  date := "Oct 19, 2026"
  description := "Rule-driven static analyzer for Databricks-style notebooks"

end Release

end NotebookAudit

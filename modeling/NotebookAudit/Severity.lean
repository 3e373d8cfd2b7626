import NotebookAudit.Text.Blank
import NotebookAudit.Text.Lower

/-!
Severities of findings and rules.
-/

namespace NotebookAudit

/-- How much a finding matters. -/
inductive Severity where
  /-- The analysis cannot be trusted. -/
  | critical
  /-- To be mended before the notebook is used. -/
  | warning
  /-- A convention is not kept. -/
  | info
  deriving Repr, DecidableEq

namespace Severity

/-- The severities in the order in which reports count them. -/
def all : List Severity := [critical, warning, info]

/-- The name of a severity. -/
def name : Severity → Text
  | critical => "Critical"
  | warning => "Warning"
  | info => "Info"

/-- The severity of a name; blanks around the name and its case do not count. -/
def ofName? (t : Text) : Option Severity :=
  all.find? fun s => s.name.lower = t.trim.lower

end Severity

end NotebookAudit

import NotebookAudit.Severity

/-!
Findings and the reports that collect them.
-/

namespace NotebookAudit

/-- An issue reported for a document. Cells and lines are counted from one; an issue of the whole
document has neither. -/
structure Finding where
  document : Text
  kind : Text
  details : Text
  cellNumber : Option Nat
  lineNumber : Option Nat
  content : Option Text
  cellText : Option Text
  severity : Severity
  deriving Repr, DecidableEq

/-- An issue of a whole document. -/
def Finding.ofDocument (document kind details : Text) (severity : Severity) : Finding :=
  ⟨document, kind, details, none, none, none, none, severity⟩

/-- The findings of a batch of documents. -/
structure Report where
  findings : List Finding
  documents : Nat
  deriving Repr, DecidableEq

namespace Report

/-- The report of no documents. -/
def empty : Report := ⟨[], 0⟩

/-- Counts one more of a kind: at its place if it is counted already, and at the end otherwise. -/
def addKind (kind : Text) : List (Text × Nat) → List (Text × Nat)
  | [] => [(kind, 1)]
  | (k, n) :: rest => if k = kind then (k, n + 1) :: rest else (k, n) :: addKind kind rest

/-- The number of findings of each kind, in the order in which the kinds first appear. -/
def countByKind (r : Report) : List (Text × Nat) :=
  r.findings.foldl (fun counts f => addKind f.kind counts) []

/-- The number of findings of each severity, those without findings included. -/
def countBySeverity (r : Report) : List (Severity × Nat) :=
  Severity.all.map fun s => (s, r.findings.countP (·.severity = s))

/-- The findings of a document, in order. -/
def findingsFor (r : Report) (document : Text) : List Finding :=
  r.findings.filter (·.document = document)

end Report

end NotebookAudit

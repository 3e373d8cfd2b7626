import NotebookAudit.Finding
import NotebookAudit.Notebook.Basic
import NotebookAudit.Pattern.Basic
import NotebookAudit.Rule.Basic

/-!
Rule sets: rules with their patterns compiled, and their search in notebooks.

A rule whose pattern is no pattern does not stop the others: it is kept beside the compiled rules
and reported for every document. Lines are searched one by one; comments and imports are left out.
-/

namespace NotebookAudit

/-- A rule and its compiled pattern. -/
structure CompiledRule where
  rule : Rule
  pattern : Pattern

/-- A rule whose pattern is no pattern, and what is wrong with it. -/
structure RuleFailure where
  rule : Rule
  fault : Pattern.Fault

namespace RuleFailure

/-- What is wrong with the pattern, in words. -/
def reason (f : RuleFailure) : Text := f.fault.message f.rule.pattern

/-- The message of a failure. -/
def message (f : RuleFailure) : Text :=
  "Rule '" ++ f.rule.name ++ "' (ID: " ++ f.rule.id ++ ") has an invalid pattern: " ++ f.reason

/-- The finding that reports a failure for a document. -/
def finding (document : Text) (f : RuleFailure) : Finding :=
  .ofDocument document "Error de Regla"
    ("La regla '" ++ f.rule.name ++ "' (ID: " ++ f.rule.id ++ ") tiene un patrón Regex inválido: "
      ++ f.reason) .critical

end RuleFailure

/-- The enabled rules of a snapshot: those that are compiled and those that cannot be. -/
structure RuleSet where
  rules : List CompiledRule
  failures : List RuleFailure

namespace RuleSet

/-- Compiles the enabled rules, each by itself. -/
def compile : List Rule → Except Pattern.Error RuleSet
  | [] => .ok ⟨[], []⟩
  | r :: rest =>
    if r.enabled then
      match Pattern.compile r.pattern with
      | .ok p => do
        let set ← compile rest
        return ⟨⟨r, p⟩ :: set.rules, set.failures⟩
      | .error (.invalid fault) => do
        let set ← compile rest
        return ⟨set.rules, ⟨r, fault⟩ :: set.failures⟩
      | .error e => .error e
    else compile rest

/-- The findings that report the failures for a document. -/
def failureFindings (set : RuleSet) (document : Text) : List Finding :=
  set.failures.map (RuleFailure.finding document)

end RuleSet

/-! ## Scanning -/

/-- What the lines begin with that are not searched. -/
def skippedStarts : List Text := ["#", "import", "from"]

/-- Whether a line is a comment or an import, which no rule is looked for in. -/
def isSkippedLine (line : Text) : Bool := skippedStarts.any line.trim.lower.startsWith

/-- A match of a pattern in which some group ends before it starts. -/
structure BrokenMatch where
  rule : Rule
  deriving Repr

/-- The finding of a rule on a line. -/
def Rule.finding (r : Rule) (n : Notebook) (document : Text) (l : PlacedLine) : Finding where
  document
  kind := r.name
  details := r.message
  cellNumber := some (l.cell + 1)
  lineNumber := some (l.line + 1)
  content := some l.text.trim
  cellText := some (n.cellText l.cell)
  severity := r.severity

namespace RuleSet

/-- The finding of a rule on a line, if its pattern is found there. -/
def findingsOf (n : Notebook) (document : Text) (l : PlacedLine) (c : CompiledRule) :
    Except BrokenMatch (List Finding) :=
  match c.pattern.search l.text with
  | .nothing => .ok []
  | .found => .ok [c.rule.finding n document l]
  | .brokenGroup => .error ⟨c.rule⟩

/-- The findings of the rules on a line, in the order of the rules. -/
def lineFindings (set : RuleSet) (n : Notebook) (document : Text) (l : PlacedLine) :
    Except BrokenMatch (List Finding) :=
  if isSkippedLine l.text then .ok []
  else return (← set.rules.mapM (findingsOf n document l)).flatten

/-- The findings of the rules on the code lines of a notebook, and then the failures. -/
def scan (set : RuleSet) (n : Notebook) (document : Text) : Except BrokenMatch (List Finding) := do
  return (← n.codeLines.mapM (set.lineFindings n document)).flatten ++ set.failureFindings document

end RuleSet

end NotebookAudit

import NotebookAudit.FileTree.Basic
import NotebookAudit.Notebook.Document
import NotebookAudit.Notebook.Frame
import NotebookAudit.Rule.Set
import NotebookAudit.Symbol.Usage

/-!
Analysis of documents, and of batches of documents and files.

A document is read, its header, symbols and footer are checked, and the rules are looked for. A
document that cannot be read has one finding, which says so; in a batch so has one whose analysis
fails in any other way, and the other documents are not affected.
-/

namespace NotebookAudit

/-- A document that is handed in. The name may be missing. -/
structure Document where
  name : Option Text
  content : Content

/-- Why the analysis of a document fails. -/
inductive AnalysisError where
  /-- A number of the content is no byte. -/
  | notBytes
  /-- There is something to report, but no name to report it under. -/
  | unnamed
  deriving Repr, DecidableEq

namespace Document

/-- The name of a document, or no characters. -/
def nameOrEmpty (d : Document) : Text := d.name.getD []

/-- Whether a batch takes the document: its name is that of a notebook or of a script. -/
def isSupported (d : Document) : Bool := FileName.isSupported d.nameOrEmpty

end Document

/-- The finding that reports that a document cannot be read. -/
def readErrorFinding (document reason : Text) : Finding :=
  .ofDocument document "Error de Lectura"
    ("No se pudo leer o procesar el archivo: " ++ reason) .critical

/-- The finding that reports that the analysis of a document fails. -/
def analysisErrorFinding (document reason : Text) : Finding :=
  .ofDocument document "Error de Análisis"
    ("El análisis del archivo falló inesperadamente: " ++ reason) .critical

/-- The findings of all checks of a notebook: header, widget variables, imports, footer, rules. -/
def Notebook.check (n : Notebook) (document : Text) (set : RuleSet) :
    Except BrokenMatch (List Finding) := do
  let found ← set.scan n document
  return n.headerFindings document ++ n.unusedWidgetVariables document ++ n.unusedImports document
    ++ n.footerFindings document ++ found

/-- The findings of a document of a given name. -/
def analyzeNamed (name : Text) (content : Content) (set : RuleSet) :
    Except AnalysisError (List Finding) :=
  match content.read name with
  | .error (.format e) => .ok [readErrorFinding name e.message]
  | .error .notBytes => .error .notBytes
  | .ok n =>
    match n.check name set with
    | .ok findings => .ok findings
    | .error _ => .ok [analysisErrorFinding name Pattern.brokenGroupMessage]

/-- The findings of a document. Without a name there can be none. -/
def Document.analyze (d : Document) (set : RuleSet) : Except AnalysisError (List Finding) :=
  match d.name with
  | some name => analyzeNamed name d.content set
  | none => do
    let findings ← analyzeNamed [] d.content set
    if findings.isEmpty then return [] else throw .unnamed

/-! ## Batches -/

/-- Why a batch fails as a whole. -/
inductive BatchError where
  /-- The pattern of a rule stops the compilation. -/
  | pattern (e : Pattern.Error)
  /-- The number of workers is negative. -/
  | workers
  deriving Repr, DecidableEq

/-- Why the analysis of a document fails, in words. -/
def AnalysisError.message : AnalysisError → Text
  | notBytes => DocumentError.notBytes.message
  | unnamed => []

/-- The findings of a document of a batch. -/
def Document.findingsInBatch (set : RuleSet) (d : Document) : List Finding :=
  match d.analyze set with
  | .ok findings => findings
  | .error e => [analysisErrorFinding d.nameOrEmpty e.message]

/-- Compiles the rules of a batch that has at least one document. A number of workers that is not
given, or zero, stands for a number that fits. -/
def prepareBatch (rules : List Rule) (workers : Option Int) : Except BatchError RuleSet := do
  let set ← (RuleSet.compile rules).mapError .pattern
  if (workers.map (decide <| · < 0)).getD false then throw .workers
  return set

/-- The report of a batch: the findings of the supported documents in the order of the documents. -/
def analyzeBatch (documents : List Document) (rules : List Rule) (workers : Option Int) :
    Except BatchError Report :=
  match documents.filter Document.isSupported with
  | [] => .ok .empty
  | accepted => do
    let set ← prepareBatch rules workers
    return ⟨accepted.flatMap (Document.findingsInBatch set), accepted.length⟩

/-! ## Files -/

/-- A file of a name: its bytes, or why they cannot be read. -/
structure NamedFile where
  name : Text
  content : Except FileError Bytes

namespace NamedFile

/-- Whether the bytes of a file can be read. -/
def isReadable (f : NamedFile) : Bool :=
  match f.content with
  | .ok _ => true
  | .error _ => false

/-- The findings of a file by itself: one if it cannot be read, and else those of its bytes. -/
def findings (set : RuleSet) (f : NamedFile) : List Finding :=
  match f.content with
  | .ok bytes => Document.findingsInBatch set ⟨some f.name, .bytes bytes⟩
  | .error e => [readErrorFinding f.name e.message]

end NamedFile

/-- The report of files: a file that cannot be read counts and has its finding in its place. Rules
are needed only if some file can be read. -/
def analyzeFiles (files : List NamedFile) (rules : List Rule) (workers : Option Int) :
    Except BatchError Report := do
  let set ← if files.any NamedFile.isReadable then prepareBatch rules workers else pure ⟨[], []⟩
  return ⟨files.flatMap (NamedFile.findings set), files.length⟩

end NotebookAudit

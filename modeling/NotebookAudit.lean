import NotebookAudit.Text.Blank
import NotebookAudit.Text.Word
import NotebookAudit.Text.Printable
import NotebookAudit.Text.Identifier
import NotebookAudit.Text.Digit
import NotebookAudit.Text.Lower
import NotebookAudit.Text.Utf8
import NotebookAudit.Text.Quoted
import NotebookAudit.Number.Shortest
import NotebookAudit.Number.Numeral
import NotebookAudit.Json.Reader
import NotebookAudit.Json.Printer
import NotebookAudit.Json.Display
import NotebookAudit.Notebook.Document
import NotebookAudit.Notebook.Frame
import NotebookAudit.Symbol.Usage
import NotebookAudit.Pattern.Basic
import NotebookAudit.Release
import NotebookAudit.Rule.Entry
import NotebookAudit.Rule.Default
import NotebookAudit.Yaml.Display
import NotebookAudit.Workspace
import NotebookAudit.Proofs.Notebook.Lines
import NotebookAudit.Proofs.Rule.Compilation
import NotebookAudit.Proofs.Rule.Scan
import NotebookAudit.Proofs.Finding.Place
import NotebookAudit.Proofs.Analysis.Checks
import NotebookAudit.Proofs.Analysis.Outcome
import NotebookAudit.Proofs.Rule.Isolation
import NotebookAudit.Proofs.Batch.Pool
import NotebookAudit.Proofs.Batch.Report
import NotebookAudit.Proofs.Pattern.Escape
import NotebookAudit.Proofs.Pattern.Opening
import NotebookAudit.Proofs.Pattern.Limits
import NotebookAudit.Proofs.Analysis.Stop
import NotebookAudit.Proofs.Workspace.Stores
import NotebookAudit.Proofs.Workspace.BrokenFiles
import NotebookAudit.Proofs.Notebook.Format
import NotebookAudit.Proofs.Symbol.Unused
import NotebookAudit.Proofs.Analysis.Script
import NotebookAudit.Proofs.Notebook.RoundTrip
import NotebookAudit.Proofs.Workspace.Snapshots
import NotebookAudit.Proofs.Symbol.ImportedName
import NotebookAudit.Proofs.Notebook.NonCodeCells
import NotebookAudit.Proofs.Workspace.Paths
import NotebookAudit.Proofs.Workspace.Configuration
import NotebookAudit.Proofs.Analysis.Name
import NotebookAudit.Proofs.Rule.Matches
import NotebookAudit.Proofs.Rule.SkippedLines
import NotebookAudit.Proofs.Notebook.Footer
import NotebookAudit.Proofs.Symbol.Rearranged
import NotebookAudit.Proofs.Notebook.Header
import NotebookAudit.Proofs.Symbol.LineGrammar
import NotebookAudit.Proofs.Symbol.WordPattern
import NotebookAudit.Proofs.Symbol.Expressions
import NotebookAudit.Proofs.Workspace.Workers
import NotebookAudit.Proofs.Notebook.SourceLines
import NotebookAudit.Proofs.Rule.LetterCase
import NotebookAudit.Proofs.FileName
import NotebookAudit.Proofs.Finding.Summary

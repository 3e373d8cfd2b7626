import NotebookAudit.FileName
import NotebookAudit.Finding
import NotebookAudit.Notebook.Basic

/-!
The frame of a notebook: its header and its footer.

The first cell names the notebook. The last two cells are a markdown cell with the closing marker
and a code cell with the exit call.
-/

namespace NotebookAudit

/-- The text that marks the closing cell. -/
def closingMarker : Text := "Mensaje Final"

/-- The call that ends a notebook. -/
def exitCall : Text := "dbutils.notebook.exit"

/-- A finding on a whole cell, which it shows. -/
def Cell.finding (c : Cell) (index : Nat) (document kind details : Text) (severity : Severity) :
    Finding where
  document
  kind
  details
  cellNumber := some (index + 1)
  lineNumber := none
  content := some c.firstLine
  cellText := some c.text
  severity

/-- Whether a cell closes the notebook. -/
def Cell.isClosing (c : Cell) : Bool := c.isMarkdown && Text.contains c.lines.flatten closingMarker

/-- Whether a cell exits the notebook. -/
def Cell.isExit (c : Cell) : Bool := c.isCode && c.text.contains exitCall

namespace Notebook

/-- A finding if the first cell does not name the document. Case does not count. -/
def headerFindings (n : Notebook) (document : Text) : List Finding :=
  match n.cells with
  | [] => []
  | first :: _ =>
    let base := FileName.baseName document
    if first.text.lower.contains base.lower then []
    else [first.finding 0 document "Header Incorrecto"
      ("La primera celda no contiene el nombre del archivo '" ++ base ++ "'.") .warning]

/-- The index of the last closing cell. -/
def closingIndex? (n : Notebook) : Option Nat :=
  (n.cells.zipIdx.filter fun p => p.1.isClosing).getLast?.map (·.2)

/-- The finding for a notebook without a closing cell. -/
def noClosingFinding (document : Text) : Finding :=
  .ofDocument document "Footer Faltante"
    ("No se encontró la celda Markdown con '" ++ closingMarker ++ "' al final del notebook.") .info

/-- The finding for a notebook that ends with the closing cell of index `closing`. -/
def noExitFinding (closing : Nat) (document : Text) : Finding where
  document
  kind := "Footer Incorrecto"
  details :=
    "Falta la celda de código con '" ++ exitCall ++ "' después del " ++ closingMarker ++ "."
  cellNumber := some (closing + 1)
  lineNumber := none
  content := none
  cellText := none
  severity := .info

/-- The finding for the cell after the closing cell, if it is no exit cell. -/
def exitFindings (exit : Cell) (index : Nat) (document : Text) : List Finding :=
  if exit.isExit then []
  else [exit.finding index document "Footer Incorrecto"
    ("La celda siguiente al '" ++ closingMarker ++ "' no es de código o no contiene '" ++ exitCall
      ++ "'.") .info]

/-- The finding for the first cell after the exit cell, if there is one. -/
def trailingFindings (after : List Cell) (index : Nat) (document : Text) : List Finding :=
  match after with
  | [] => []
  | c :: _ => [c.finding index document "Código posterior al final"
      ("Se encontró una celda después de '" ++ exitCall ++ "', lo cual no está permitido.") .info]

/-- The findings on the end of the notebook, which only the cells from the last closing cell on
decide. -/
def footerFindings (n : Notebook) (document : Text) : List Finding :=
  match n.closingIndex? with
  | none => [noClosingFinding document]
  | some closing =>
    match n.cells.drop (closing + 1) with
    | [] => [noExitFinding closing document]
    | exit :: after =>
      exitFindings exit (closing + 1) document ++ trailingFindings after (closing + 2) document

end Notebook

end NotebookAudit

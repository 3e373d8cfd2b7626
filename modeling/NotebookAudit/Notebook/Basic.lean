import NotebookAudit.Text.Blank

/-!
Notebooks: a sequence of cells, each a sequence of lines.
-/

namespace NotebookAudit

/-- What a cell holds. -/
inductive CellKind where
  | code
  | markdown
  | raw
  /-- A kind that is not given, or not known. -/
  | unknown
  deriving Repr, DecidableEq

namespace CellKind

/-- The name of a kind. -/
def name : CellKind → Text
  | code => "code"
  | markdown => "markdown"
  | raw => "raw"
  | unknown => "unknown"

/-- The kind of a name; any other name, or none, is the unknown kind. -/
def ofName (name? : Option Text) : CellKind :=
  ([code, markdown, raw].find? fun k => name? = some k.name).getD unknown

end CellKind

/-- A cell. -/
structure Cell where
  kind : CellKind
  lines : List Text
  deriving Repr, DecidableEq

namespace Cell

/-- A cell whose lines are executed. -/
def isCode (c : Cell) : Bool := c.kind == .code

/-- A cell of documentation. -/
def isMarkdown (c : Cell) : Bool := c.kind == .markdown

/-- The lines with a line feed between each two. -/
def text (c : Cell) : Text := Text.joinWith 0x0a c.lines

/-- The first line of the text, trimmed. -/
def firstLine (c : Cell) : Text := Text.trim (c.text.takeWhile (· != 0x0a))

end Cell

/-- A notebook. -/
structure Notebook where
  cells : List Cell
  deriving Repr, DecidableEq

/-- A line of a notebook and its place: the indices of its cell and of the line in the cell. -/
structure PlacedLine where
  cell : Nat
  line : Nat
  text : Text
  deriving Repr, DecidableEq

namespace Notebook

/-- The code cells with their indices, in order. -/
def codeCells (n : Notebook) : List (Cell × Nat) := n.cells.zipIdx.filter fun p => p.1.isCode

/-- The lines of the code cells, in order. -/
def codeLines (n : Notebook) : List PlacedLine :=
  n.codeCells.flatMap fun p => p.1.lines.zipIdx.map fun l => ⟨p.2, l.2, l.1⟩

/-- The text of the cell of an index. -/
def cellText (n : Notebook) (index : Nat) : Text := (n.cells[index]?.map Cell.text).getD []

end Notebook

end NotebookAudit

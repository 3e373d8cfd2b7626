import NotebookAudit.Notebook.Basic
import NotebookAudit.Text.Word

/-!
Declarations of symbols.

A line declares a symbol if it starts with an import, an import from a module, or an assignment from
a widget. Each form is read in one pass from the start of the line; an identifier is a longest run
of ASCII letters, digits and underscores, and blanks are those of every script.
-/

namespace NotebookAudit

/-- A symbol, the indices of the cell and of the line that declare it, and that line, trimmed. -/
structure Declaration where
  symbol : Text
  cell : Nat
  line : Nat
  source : Text
  deriving Repr, DecidableEq

namespace Declaration

/-! ## Reading the start of a line -/

/-- The text after a word that stands in front. -/
def takeWord? (word t : Text) : Option Text :=
  if t.startsWith word then some (t.drop word.length) else none

/-- The text after one or more blanks. -/
def takeBlanks? (t : Text) : Option Text :=
  match t with
  | c :: rest => if c.isBlank then some (Text.trimStart rest) else none
  | [] => none

/-- The identifier in front and the text after it. -/
def takeIdentifier? (t : Text) : Option (Text × Text) :=
  let id := t.takeWhile (·.isAsciiWord)
  if id = [] then none else some (id, t.drop id.length)

/-- The text after any number of dots that are each followed by an identifier. -/
def dropQualifiers : Text → Text
  | 0x2e :: c :: rest =>
    if c.isAsciiWord then dropQualifiers (rest.dropWhile (·.isAsciiWord)) else 0x2e :: c :: rest
  | t => t
termination_by t => t.length
decreasing_by
  have := (List.dropWhile_sublist (fun x : CodePoint => x.isAsciiWord) (l := rest)).length_le
  simp; omega

/-- The new name after blanks and `as`. -/
def alias? (t : Text) : Option Text := do
  let t ← takeBlanks? t
  let t ← takeWord? "as" t
  let t ← takeBlanks? t
  let (id, _) ← takeIdentifier? t
  return id

/-- A character of a dotted module name. -/
def isModuleChar (c : CodePoint) : Bool := c.isAsciiWord || c == 0x2e

/-! ## The forms of a declaration -/

/-- The symbol of an import: the new name, or else the first part of the module's name. -/
def importSymbol? (line : Text) : Option Text := do
  let t ← takeWord? "import" line.trimStart
  let t ← takeBlanks? t
  let (id, t) ← takeIdentifier? t
  return (alias? (dropQualifiers t)).getD id

/-- The symbol of an import from a module: the new name, or else the name of the first thing that is
imported. A parenthesis may stand in front of it. -/
def fromSymbol? (line : Text) : Option Text := do
  let t ← takeWord? "from" line.trimStart
  let t ← takeBlanks? t
  let (c, t) ← t.head?.map fun c => (c, t.dropWhile isModuleChar)
  if !isModuleChar c then none
  let t ← takeBlanks? t
  let t ← takeWord? "import" t
  let t ← takeBlanks? t
  let t := ((takeWord? "(" t).getD t).trimStart
  let (id, t) ← takeIdentifier? t
  return (alias? t).getD id

/-- The symbol that a line imports. -/
def importedSymbol? (line : Text) : Option Text := importSymbol? line <|> fromSymbol? line

/-- The symbol that a line assigns the value of a widget. -/
def widgetSymbol? (line : Text) : Option Text := do
  let (id, t) ← takeIdentifier? line.trimStart
  let t ← takeWord? "=" t.trimStart
  let t ← takeWord? "dbutils.widgets.get" t.trimStart
  let _ ← takeWord? "(" t.trimStart
  return id

end Declaration

namespace Notebook

/-- The declarations that a form of declaration finds in the code cells, in order. -/
def declarations (symbol? : Text → Option Text) (n : Notebook) : List Declaration :=
  n.codeLines.filterMap fun l => (symbol? l.text).map fun s => ⟨s, l.cell, l.line, l.text.trim⟩

/-- The imports of the code cells. -/
def imports (n : Notebook) : List Declaration := n.declarations Declaration.importedSymbol?

/-- The variables of the code cells that hold the value of a widget. -/
def widgetVariables (n : Notebook) : List Declaration := n.declarations Declaration.widgetSymbol?

end Notebook

end NotebookAudit

import NotebookAudit.Finding
import NotebookAudit.Symbol.Declaration

/-!
Uses of symbols.

A symbol is used if it stands as a whole word on a code line other than the one that declares it.
There is no parsing: a symbol inside a string or a comment counts as used. Lines that only echo or
forward a value can be left out of the search.
-/

namespace NotebookAudit

namespace Text

/-- Whether the text starts with a word character. -/
def startsWord : Text → Bool
  | [] => false
  | c :: _ => c.isWord

/-- Whether the text ends with a word character, where `before` says so for the empty text. -/
def endsWord (before : Bool) (t : Text) : Bool := (t.getLast?.map (·.isWord)).getD before

/-- Whether `symbol` stands in front of the text with a word boundary at either end: a place between
a word character and one that is none. `before` tells whether a word character precedes. -/
def mentionsAtStart (symbol : Text) (before : Bool) (t : Text) : Bool :=
  let rest := t.drop symbol.length
  before != startsWord t && t.startsWith symbol && endsWord before symbol != startsWord rest

/-- Whether `symbol` stands somewhere in the text between word boundaries, where `before` tells
whether a word character precedes the text. -/
def mentionsAfter (symbol : Text) (before : Bool) (t : Text) : Bool :=
  mentionsAtStart symbol before t || match t with
    | [] => false
    | c :: rest => mentionsAfter symbol c.isWord rest

/-- Whether a line mentions a symbol as a whole word. -/
def mentions (line symbol : Text) : Bool := mentionsAfter symbol false line

end Text

namespace Declaration

/-- Whether a line counts when uses of a symbol are looked for. -/
def isSearched (d : Declaration) (ignored : List Text) (l : PlacedLine) : Bool :=
  !(l.cell == d.cell && l.line == d.line) && !ignored.any fun start => l.text.trim.startsWith start

/-- Whether the symbol is used on a code line other than its own. Lines whose trimmed text starts
with one of the `ignored` texts do not count. -/
def isUsed (d : Declaration) (n : Notebook) (ignored : List Text) : Bool :=
  n.codeLines.any fun l => d.isSearched ignored l && l.text.mentions d.symbol

/-- The finding for a declaration whose symbol is not used. -/
def unusedFinding (n : Notebook) (document kind details : Text) (d : Declaration) : Finding where
  document
  kind
  details
  cellNumber := some (d.cell + 1)
  lineNumber := some (d.line + 1)
  content := some d.source
  cellText := some (n.cellText d.cell)
  severity := .warning

end Declaration

namespace Notebook

/-- One finding for each import whose symbol is not used. -/
def unusedImports (n : Notebook) (document : Text) : List Finding :=
  (n.imports.filter fun d => !d.isUsed n []).map fun d =>
    d.unusedFinding n document "Importación no usada"
      ("La librería o módulo '" ++ d.symbol ++ "' se importa pero no se utiliza en el notebook.")

/-- What the lines start with that only echo or forward the value of a widget. -/
def echoStarts : List Text := ["print(", "spark.conf.set("]

/-- One finding for each widget variable that is not used. -/
def unusedWidgetVariables (n : Notebook) (document : Text) : List Finding :=
  (n.widgetVariables.filter fun d => !d.isUsed n echoStarts).map fun d =>
    d.unusedFinding n document "Variable de widget no usada"
      ("La variable '" ++ d.symbol
        ++ "' se obtiene de un widget pero no se usa posteriormente "
        ++ "(ignorando prints y spark.conf.set).")

end Notebook

end NotebookAudit

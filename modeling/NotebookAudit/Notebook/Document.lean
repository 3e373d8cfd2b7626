import NotebookAudit.FileName
import NotebookAudit.Json.Reader
import NotebookAudit.Notebook.Basic
import NotebookAudit.Text.Utf8

/-!
Reading documents.

A document is a notebook file or a script, as its name says. A notebook file is a JSON object whose
`cells` are objects with a `cell_type` and a `source`, either of which may be missing; a source is a
text or an array of lines with their line endings. Everything else is a script: one code cell that
holds the lines of the file, whatever its bytes.
-/

namespace NotebookAudit

/-- The content of a document as it is handed in. -/
inductive Content where
  | bytes (bytes : Bytes)
  /-- A text that is already decoded. -/
  | text (t : Text)
  /-- Numbers in the place of bytes. -/
  | numbers (values : List Int)
  deriving Repr, DecidableEq

/-- Why a notebook file is refused. Cells are counted from zero. -/
inductive FormatError where
  /-- The bytes are not UTF-8. -/
  | encoding (fault : Utf8.Fault)
  /-- The text is no JSON. -/
  | json (text : Text) (fault : Json.Fault)
  /-- The root is no object, but a value of this kind. -/
  | root (kind : Text)
  /-- The member `cells` is no array, but a value of this kind. -/
  | cells (kind : Text)
  /-- A cell is no object, but a value of this kind. -/
  | cell (index : Nat) (kind : Text)
  /-- The `cell_type` of a cell is no text. -/
  | cellType (index : Nat)
  /-- The `source` of a cell is neither a text nor an array. -/
  | source (index : Nat)
  /-- The `source` of a cell holds an item that is no text. -/
  | sourceItem (index : Nat)
  deriving Repr

/-- The message of a format error. -/
def FormatError.message : FormatError → Text
  | .encoding fault => "Content is not valid UTF-8: " ++ fault.message
  | .json text fault => "Invalid notebook JSON: " ++ fault.message text
  | .root kind => "Notebook root must be a JSON object, got " ++ kind
  | .cells kind => "'cells' must be an array, got " ++ kind
  | .cell index kind => "Cell " ++ Text.ofNat (index + 1) ++ " must be a JSON object, got " ++ kind
  | .cellType index => "Cell " ++ Text.ofNat (index + 1) ++ " has a non-string 'cell_type'"
  | .source index =>
    "Cell " ++ Text.ofNat (index + 1) ++ " has a 'source' that is neither a string nor an array"
  | .sourceItem index => "Cell " ++ Text.ofNat (index + 1) ++ " has a non-string entry in 'source'"

/-- Why a document is not read. -/
inductive DocumentError where
  /-- The document does not have the format that its name says. -/
  | format (e : FormatError)
  /-- A number of the content is no byte. -/
  | notBytes
  deriving Repr

/-- The message of a document error. -/
def DocumentError.message : DocumentError → Text
  | .format e => e.message
  | .notBytes => "bytes must be in range(0, 256)"

/-! ## Notebook files -/

namespace Notebook

/-- A line of a source array without its line ending. -/
def dropLineEnding (line : Text) : Text :=
  if line.endsWith [0x0d, 0x0a] then line.take (line.length - 2)
  else if line.endsWith [0x0a] then line.take (line.length - 1)
  else line

/-- The lines of the source of the cell of an index. -/
def readSource (index : Nat) : Json → Except FormatError (List Text)
  | .null => .ok []
  | .text t => .ok (if t.isEmpty then [] else t.lines)
  | .array items => items.mapM fun
    | .text line => .ok (dropLineEnding line)
    | _ => .error (.sourceItem index)
  | _ => .error (.source index)

/-- The cell of an index. -/
def readCell (index : Nat) : Json → Except FormatError Cell
  | .object members => do
    let kind ← match Json.member? "cell_type" members with
      | none | some .null => pure (CellKind.ofName none)
      | some (.text t) => pure (CellKind.ofName (some t))
      | some _ => .error (.cellType index)
    let lines ← readSource index ((Json.member? "source" members).getD .null)
    return ⟨kind, lines⟩
  | v => .error (.cell index v.kindName)

/-- The notebook that a JSON value describes. -/
def ofJson : Json → Except FormatError Notebook
  | .object members =>
    match Json.member? "cells" members with
    | none | some .null => .ok ⟨[]⟩
    | some (.array items) => do
      let cells ← items.zipIdx.mapM fun p => readCell p.2 p.1
      return ⟨cells⟩
    | some v => .error (.cells v.kindName)
  | v => .error (.root v.kindName)

/-- The notebook of a notebook file's text. -/
def ofText (t : Text) : Except FormatError Notebook :=
  match Json.read t with
  | .ok v => ofJson v
  | .error fault => .error (.json t fault)

/-- The notebook of a script's text: one code cell. -/
def ofScript (t : Text) : Notebook := ⟨[⟨.code, t.lines⟩]⟩

/-- The notebook of a file's bytes. A byte order mark in front is no part of the text, and in a
script the bytes that are no text count as U+FFFD. -/
def ofBytes (isNotebook : Bool) (bytes : Bytes) : Except FormatError Notebook :=
  let bytes := Utf8.dropMark bytes
  if isNotebook then
    match Utf8.decode bytes with
    | .ok t => ofText t
    | .error fault => .error (.encoding fault)
  else .ok (ofScript (Utf8.decodeLossy bytes))

end Notebook

/-- The bytes that a list of numbers spells, if all of them are bytes. -/
def bytesOfNumbers? (values : List Int) : Option Bytes :=
  values.mapM fun i => if 0 ≤ i ∧ i < 256 then some i.toNat.toUInt8 else none

/-- The notebook of a document. -/
def Content.read (name : Text) : Content → Except DocumentError Notebook
  | .bytes bs => (Notebook.ofBytes (FileName.isNotebook name) bs).mapError .format
  | .text t =>
    if FileName.isNotebook name then (Notebook.ofText t).mapError .format
    else .ok (Notebook.ofScript t)
  | .numbers values =>
    match bytesOfNumbers? values with
    | some bs => (Notebook.ofBytes (FileName.isNotebook name) bs).mapError .format
    | none => .error .notBytes

end NotebookAudit

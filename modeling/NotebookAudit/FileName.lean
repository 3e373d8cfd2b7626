import NotebookAudit.Text.Blank
import NotebookAudit.Text.Lower

/-!
File names.

A name may hold directories, with slashes of either kind. Only its last component decides how a
document is read: the extension of the component, in any case, selects the format.
-/

namespace NotebookAudit.FileName

/-- The last component of a name: what follows its last slash of either kind. -/
def component (name : Text) : Text := (Text.splitAtLast 0x2f (name.trim.replace 0x5c 0x2f)).2

/-- The length of the stem of a component, if it has an extension: the place of its last dot, which
is neither the first nor the last character. -/
def stemLength? (c : Text) : Option Nat :=
  let after := (c.reverse.takeWhile (· != 0x2e)).length
  let i := c.length - after - 1
  if after < c.length ∧ 0 < i ∧ 0 < after then some i else none

/-- A component without its extension. The component `.` names nothing. -/
def stem (c : Text) : Text :=
  if c = [0x2e] then [] else match stemLength? c with
    | some n => c.take n
    | none => c

/-- The extension of a component, with its dot; empty if there is none. -/
def suffix (c : Text) : Text :=
  match stemLength? c with
  | some n => c.drop n
  | none => []

/-- The extension of a name, in lower case. -/
def extension (name : Text) : Text := suffix (component name).lower

/-- The name without directories and extension. -/
def baseName (name : Text) : Text := stem (component name)

/-- Whether the name is that of a notebook file. -/
def isNotebook (name : Text) : Bool := extension name == Text.ofString ".ipynb"

/-- Whether the name is that of a notebook or of a script. -/
def isSupported (name : Text) : Bool := isNotebook name || extension name == Text.ofString ".py"

end NotebookAudit.FileName

import NotebookAudit.Text.Basic

/-!
Paths: where a file is to be found.

A path is cut at its slashes. Empty components and those that name the directory itself do not
matter; a component that names the directory above is kept, since what it leads to depends on the
files.
-/

namespace NotebookAudit

/-- A path: the slashes in front, two at most, and the components. Without slashes it leads from the
working directory. -/
structure FilePath where
  slashes : Nat
  parts : List Text
  deriving Repr, DecidableEq

namespace FilePath

/-- The path of a text. Three slashes or more in front count as one. -/
def ofText (t : Text) : FilePath where
  slashes :=
    let n := (t.takeWhile (· == 0x2f)).length
    if n ≤ 2 then n else 1
  parts := (t.cutAt 0x2f).filter fun part => part != [] && part != [0x2e]

/-- The text of a path. The working directory is a single dot. -/
def text (p : FilePath) : Text :=
  if p.slashes = 0 ∧ p.parts = [] then [0x2e]
  else List.replicate p.slashes 0x2f ++ Text.joinWith 0x2f p.parts

/-- The last component, or no characters. -/
def name (p : FilePath) : Text := p.parts.getLast?.getD []

/-- The path of a name in the directory of a path. -/
def child (p : FilePath) (name : Text) : FilePath := { p with parts := p.parts ++ [name] }

/-- The path without its last component. -/
def parent (p : FilePath) : FilePath := { p with parts := p.parts.dropLast }

end FilePath

end NotebookAudit

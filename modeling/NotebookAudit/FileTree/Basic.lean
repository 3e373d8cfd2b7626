import NotebookAudit.FileTree.Path
import NotebookAudit.Text.System

/-!
File trees: the files below a working directory.

A tree says of each place, the names that lead to it from the top, whether a directory or a file is
there. The top itself is always a directory, and nothing outside the tree can be reached.
-/

namespace NotebookAudit

/-- A place in a tree: the names that lead to it from the top. -/
abbrev Place := List Text

/-- What is at a place. -/
inductive FileNode where
  | directory
  | file (content : Bytes)
  deriving Repr, DecidableEq

/-- Why a file operation fails. -/
inductive FileFault where
  | missing
  | taken
  | notDirectory
  | isDirectory
  | nameTooLong
  deriving Repr, DecidableEq

namespace FileFault

/-- The number of a fault. -/
def number : FileFault → Nat
  | missing => 2
  | taken => 17
  | notDirectory => 20
  | isDirectory => 21
  | nameTooLong => 36

/-- A fault in words. -/
def words : FileFault → Text
  | missing => "No such file or directory"
  | taken => "File exists"
  | notDirectory => "Not a directory"
  | isDirectory => "Is a directory"
  | nameTooLong => "File name too long"

end FileFault

/-- A file operation that fails, and the path that it fails for. -/
inductive FileError where
  | failed (fault : FileFault) (path : FilePath)
  /-- The text of the path is none that the system takes. -/
  | refused (fault : SystemTextFault)
  deriving Repr, DecidableEq

/-- The message of a failed operation. -/
def FileError.message : FileError → Text
  | failed f path =>
    "[Errno " ++ Text.ofNat f.number ++ "] " ++ f.words ++ ": " ++ path.text.quoted
  | refused f => f.message

/-- A file tree: what is at the places below the top, each place once. -/
structure FileTree where
  entries : List (Place × FileNode)
  deriving Repr

namespace FileTree

/-- The tree without files. -/
def empty : FileTree := ⟨[]⟩

/-- What is at a place. -/
def node? (tree : FileTree) (place : Place) : Option FileNode :=
  if place = [] then some .directory else tree.entries.lookup place

/-- The tree with a node at a place. -/
def put (tree : FileTree) (place : Place) (node : FileNode) : FileTree :=
  ⟨(place, node) :: tree.entries.filter (·.1 != place)⟩

/-- The tree without what is at a place and below it. -/
def cut (tree : FileTree) (place : Place) : FileTree :=
  ⟨tree.entries.filter fun e => !place.isPrefixOf e.1⟩

/-- The names in the directory at a place. -/
def namesAt (tree : FileTree) (place : Place) : List Text :=
  tree.entries.filterMap fun e =>
    if e.1.dropLast = place then e.1.getLast? else none

/-! ## Following paths -/

/-- The greatest number of bytes of a name. -/
def nameLimit : Nat := 255

/-- The greatest number of bytes of a path. -/
def pathLimit : Nat := 4095

/-- The place that components lead to from a place. What is passed on the way is a directory. -/
def walk (tree : FileTree) : (place : Place) → List Text → Except FileFault Place
  | place, [] => .ok place
  | place, part :: rest =>
    match tree.node? place with
    | none => .error .missing
    | some (.file _) => .error .notDirectory
    | some .directory =>
      if nameLimit < part.systemWidth then .error .nameTooLong
      else if part = [0x2e, 0x2e] then
        if place = [] then .error .missing else walk tree place.dropLast rest
      else walk tree (place ++ [part]) rest

/-- The place that a path leads to. -/
def resolve (tree : FileTree) (path : FilePath) : Except FileError Place :=
  match path.text.systemFault? with
  | some fault => .error (.refused fault)
  | none =>
    if pathLimit < path.text.systemWidth then .error (.failed .nameTooLong path)
    else if path.slashes ≠ 0 then .error (.failed .missing path)
    else (tree.walk [] path.parts).mapError (.failed · path)

/-- What is at the end of a path. -/
def find (tree : FileTree) (path : FilePath) : Except FileError FileNode := do
  match tree.node? (← tree.resolve path) with
  | some node => return node
  | none => throw (.failed .missing path)

/-- What is at the end of a path, or nothing if the path leads nowhere. -/
def find? (tree : FileTree) (path : FilePath) : Except FileError (Option FileNode) :=
  match tree.find path with
  | .ok node => .ok (some node)
  | .error (.failed .missing _) | .error (.failed .notDirectory _) | .error (.refused _) => .ok none
  | .error e => .error e

/-! ## Operations -/

/-- The bytes of a file. -/
def read (tree : FileTree) (path : FilePath) : Except FileError Bytes := do
  match ← tree.find path with
  | .file content => return content
  | .directory => throw (.failed .isDirectory path)

/-- The tree after a file is written in a directory that is there. -/
def write (tree : FileTree) (path : FilePath) (content : Bytes) : Except FileError FileTree := do
  let place ← tree.resolve path
  if tree.node? place = some .directory then throw (.failed .isDirectory path)
  return tree.put place (.file content)

/-- The tree after a directory is made in a directory that is there. -/
def makeDirectory (tree : FileTree) (path : FilePath) : Except FileError FileTree := do
  let place ← tree.resolve path
  if (tree.node? place).isSome then throw (.failed .taken path)
  return tree.put place .directory

/-- The tree after a directory is made, with the directories around it. One that is there already
will do. -/
def makeDirectories (tree : FileTree) : (depth : Nat) → FilePath → Except FileError FileTree
  | depth, path =>
    match tree.makeDirectory path with
    | .ok after => .ok after
    | .error e =>
      match depth, e with
      | depth + 1, .failed .missing _ => do
        (← makeDirectories tree depth path.parent).makeDirectory path
      | _, e => if (tree.find path).toOption = some .directory then .ok tree else .error e

/-- The tree with a directory at the end of a path. -/
def addDirectory (tree : FileTree) (path : FilePath) : Except FileError FileTree :=
  tree.makeDirectories path.parts.length path

/-- The tree after a file is written, with the directories around it. -/
def addFile (tree : FileTree) (path : FilePath) (content : Bytes) : Except FileError FileTree := do
  (← tree.addDirectory path.parent).write path content

/-- The tree without what is at the end of a path. -/
def delete (tree : FileTree) (path : FilePath) : Except FileError FileTree := do
  let place ← tree.resolve path
  if (tree.node? place).isNone then throw (.failed .missing path)
  return tree.cut place

/-- The names in the directory at the end of a path, in order; none if there is no directory. -/
def names (tree : FileTree) (path : FilePath) : List Text :=
  match tree.resolve path with
  | .ok place => Text.sort (tree.namesAt place)
  | .error _ => []

end FileTree

end NotebookAudit

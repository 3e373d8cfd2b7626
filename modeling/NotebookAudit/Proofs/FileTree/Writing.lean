import NotebookAudit.Proofs.FileTree.Sound

/-!
Files that are written are read again.

A file can be written where a path leads to a place in a directory that is there and no directory is at
the place (`FileTree.IsWritable`). No directory is changed by this, so the path leads to the same place
afterwards, and what is read there is what was written: `FileTree.IsWritable.read`.
-/

namespace NotebookAudit.FileTree

variable {tree : FileTree} {place : Place} {path : FilePath} {node : FileNode}

/-- A file can be written at the path: it leads to a place in a directory, and no directory is there. -/
def IsWritable (tree : FileTree) (path : FilePath) : Prop :=
  ∃ place, tree.resolve path = .ok place ∧ tree.node? place ≠ some .directory

/-- A directory is there also after something is put where none is. -/
theorem node?_put_of_directory (free : tree.node? place ≠ some .directory) {other : Place}
    (isDirectory : tree.node? other = some .directory) :
    (tree.put place node).node? other = some .directory := by
  have apart : other ≠ place := by
    rintro rfl
    exact free isDirectory
  rw [node?_put, if_neg apart, isDirectory, ite_self]

/-- A walk passes directories only, so it leads to the same place after something is put where none
is. -/
theorem walk_put (free : tree.node? place ≠ some .directory) {start dir : Place} {parts : List Text}
    (leads : tree.walk start parts = .ok dir) : (tree.put place node).walk start parts = .ok dir := by
  induction parts generalizing start with
  | nil => exact leads
  | cons part rest ih =>
      obtain ⟨isDirectory, short, notTop, leads⟩ := walk_cons_eq_ok_iff.mp leads
      exact walk_cons_eq_ok_iff.mpr
        ⟨node?_put_of_directory free isDirectory, short, notTop, ih leads⟩

theorem resolve_put (free : tree.node? place ≠ some .directory) {dir : Place}
    (leads : tree.resolve path = .ok dir) : (tree.put place node).resolve path = .ok dir := by
  have before := walk_of_resolve leads
  have after : (tree.put place node).walk [] path.parts = .ok dir := walk_put free before
  rw [← leads, resolve, resolve, before, after]

/-- What is written at a path that can be written is found there, and is read again. -/
theorem IsWritable.read (writable : tree.IsWritable path) (content : Bytes) :
    ∃ after, tree.write path content = .ok after ∧
      after.find? path = .ok (some (.file content)) ∧ after.read path = .ok content := by
  obtain ⟨place, leads, free⟩ := writable
  have leadsAgain : (tree.put place (.file content)).resolve path = .ok place := resolve_put free leads
  have below : place ≠ [] := by
    rintro rfl
    exact free rfl
  have there : (tree.put place (.file content)).node? place = some (.file content) := by
    rw [node?_put, if_neg below, if_pos rfl]
  have found : (tree.put place (.file content)).find path = .ok (.file content) := by
    simp only [find, leadsAgain, there, bind, Except.bind, pure, Except.pure]
  refine ⟨tree.put place (.file content), ?_, ?_, ?_⟩
  · rw [write, leads]
    show (if tree.node? place = some .directory then _ else _) = _
    rw [if_neg free]
    rfl
  · rw [find?, found]
  · rw [FileTree.read, found]
    rfl

end NotebookAudit.FileTree

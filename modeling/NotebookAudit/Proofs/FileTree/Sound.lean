import NotebookAudit.FileTree.Basic
import NotebookAudit.Proofs.Result

/-!
File trees that come from operations.

In a tree that is built by writing, making directories and deleting, every place is there once, and
what is not the top lies in a directory (`FileTree.Sound`). Every operation keeps this, whatever its
path.
-/

namespace NotebookAudit.FileTree

/-- Every place of the tree is there once and lies in a directory. -/
structure Sound (tree : FileTree) : Prop where
  distinct : (tree.entries.map (·.1)).Nodup
  inDirectory : ∀ place, (tree.node? place).isSome = true →
    tree.node? place.dropLast = some .directory

/-! ## Looking up -/

@[simp] theorem node?_nil (tree : FileTree) : tree.node? [] = some .directory := rfl

theorem node?_of_ne_nil {tree : FileTree} {place : Place} (below : place ≠ []) :
    tree.node? place = tree.entries.lookup place := if_neg below

/-- What is left of a list of entries is looked up as before. -/
theorem lookup_filter (keep : Place → Bool) (entries : List (Place × FileNode)) (place : Place) :
    (entries.filter fun e => keep e.1).lookup place =
      if keep place then entries.lookup place else none := by
  induction entries with
  | nil => simp
  | cons e rest ih =>
      obtain ⟨there, node⟩ := e
      by_cases same : place = there
      · subst same
        cases kept : keep place <;> simp [kept, ih]
      · have apart : (place == there) = false := beq_eq_false_iff_ne.mpr same
        cases kept : keep there <;> simp [List.lookup_cons, kept, apart, ih]

theorem node?_put (tree : FileTree) (place : Place) (node : FileNode) (other : Place) :
    (tree.put place node).node? other =
      if other = [] then some .directory
      else if other = place then some node else tree.node? other := by
  by_cases top : other = []
  · rw [if_pos top, top, node?_nil]
  rw [if_neg top, node?_of_ne_nil top, node?_of_ne_nil top, put, List.lookup_cons]
  by_cases same : other = place
  · simp [same]
  · rw [beq_eq_false_iff_ne.mpr same, if_neg same]
    show (tree.entries.filter fun e => e.1 != place).lookup other = _
    rw [lookup_filter (· != place)]
    simp [same]

theorem node?_cut (tree : FileTree) (place other : Place) :
    (tree.cut place).node? other =
      if other = [] then some .directory
      else if place <+: other then none else tree.node? other := by
  by_cases top : other = []
  · rw [if_pos top, top, node?_nil]
  rw [if_neg top, node?_of_ne_nil top, node?_of_ne_nil top, cut,
    lookup_filter fun other => !place.isPrefixOf other]
  by_cases inside : place <+: other
  · rw [List.isPrefixOf_iff_prefix.mpr inside, if_pos inside]
    rfl
  · rw [Bool.eq_false_iff.mpr fun starts => inside (List.isPrefixOf_iff_prefix.mp starts),
      if_neg inside]
    rfl

/-! ## Changing a tree -/

variable {tree after : FileTree} {place : Place} {path : FilePath}

theorem Sound.empty : Sound empty where
  distinct := .nil
  inDirectory := by
    intro place there
    by_cases top : place = []
    · subst top
      rfl
    · rw [node?_of_ne_nil top] at there
      cases there

/-- A node may be put in a directory at a place where no directory is. -/
theorem Sound.put (sound : tree.Sound) (node : FileNode)
    (parent : tree.node? place.dropLast = some .directory)
    (free : tree.node? place ≠ some .directory) : (tree.put place node).Sound where
  distinct := by
    rw [FileTree.put, List.map_cons, List.nodup_cons]
    constructor
    · intro again
      obtain ⟨e, member, same⟩ := List.mem_map.mp again
      simpa [same] using (List.mem_filter.mp member).2
    · exact sound.distinct.sublist (List.filter_sublist.map _)
  inDirectory := by
    intro other there
    rw [node?_put] at there ⊢
    by_cases inTop : other.dropLast = []
    · rw [if_pos inTop]
    have below : other ≠ [] := by
      intro top
      rw [top] at inTop
      exact inTop rfl
    rw [if_neg below] at there
    rw [if_neg inTop]
    by_cases same : other = place
    · subst same
      have apart : other.dropLast ≠ other := by
        intro fixed
        have shorter := congrArg List.length fixed
        have positive := List.length_pos_iff.mpr below
        rw [List.length_dropLast] at shorter
        omega
      rw [if_neg apart]
      exact parent
    · rw [if_neg same] at there
      have isDirectory := sound.inDirectory other there
      have apart : other.dropLast ≠ place := by
        intro inPlace
        rw [inPlace] at isDirectory
        exact free isDirectory
      rw [if_neg apart]
      exact isDirectory

/-- What is at a place and below it may be taken away. -/
theorem Sound.cut (sound : tree.Sound) (place : Place) : (tree.cut place).Sound where
  distinct := sound.distinct.sublist (List.filter_sublist.map _)
  inDirectory := by
    intro other there
    rw [node?_cut] at there ⊢
    by_cases inTop : other.dropLast = []
    · rw [if_pos inTop]
    have below : other ≠ [] := by
      intro top
      rw [top] at inTop
      exact inTop rfl
    rw [if_neg below] at there
    rw [if_neg inTop]
    by_cases inside : place <+: other
    · rw [if_pos inside] at there
      cases there
    · rw [if_neg inside] at there
      rw [if_neg fun starts => inside (starts.trans (List.dropLast_prefix other))]
      exact sound.inDirectory other there

/-! ## Following paths -/

/-- The place that a component leads to from a place. -/
def turn (place : Place) (part : Text) : Place :=
  if part = [0x2e, 0x2e] then place.dropLast else place ++ [part]

theorem walk_cons_eq_ok_iff {place dir : Place} {part : Text} {rest : List Text} :
    tree.walk place (part :: rest) = .ok dir ↔
      tree.node? place = some .directory ∧ part.systemWidth ≤ nameLimit ∧
        (part = [0x2e, 0x2e] → place ≠ []) ∧ tree.walk (turn place part) rest = .ok dir := by
  rw [walk, turn, ← Nat.not_lt]
  split
  · simp [*]
  · simp [*]
  · next isDirectory =>
    by_cases tooLong : nameLimit < part.systemWidth
    · simp [tooLong]
    rw [if_neg tooLong]
    by_cases upwards : part = [0x2e, 0x2e]
    · rw [if_pos upwards, if_pos upwards]
      by_cases top : place = []
      · simp [top, upwards]
      · simp [top, isDirectory, tooLong]
    · simp [upwards, isDirectory, tooLong]

/-- A place in a directory leads to places in directories. -/
theorem walk_inDirectory (sound : tree.Sound) {parts : List Text} {place dir : Place}
    (parent : tree.node? place.dropLast = some .directory)
    (leads : tree.walk place parts = .ok dir) : tree.node? dir.dropLast = some .directory := by
  induction parts generalizing place with
  | nil =>
      cases leads
      exact parent
  | cons part rest ih =>
      obtain ⟨isDirectory, -, -, leads⟩ := walk_cons_eq_ok_iff.mp leads
      refine ih ?_ leads
      unfold turn
      split
      · exact sound.inDirectory _ (by rw [parent]; rfl)
      · rw [List.dropLast_concat]
        exact isDirectory

/-- A path that leads to a place leads there by its components. -/
theorem walk_of_resolve {dir : Place} (leads : tree.resolve path = .ok dir) :
    tree.walk [] path.parts = .ok dir := by
  unfold resolve at leads
  split at leads
  · cases leads
  split at leads
  · cases leads
  split at leads
  · cases leads
  · exact mapError_eq_ok_iff.mp leads

theorem resolve_inDirectory (sound : tree.Sound) {dir : Place}
    (leads : tree.resolve path = .ok dir) : tree.node? dir.dropLast = some .directory := by
  have top : tree.node? (List.dropLast []) = some .directory := node?_nil tree
  exact walk_inDirectory sound top (walk_of_resolve leads)

/-! ## Operations -/

theorem Sound.write (sound : tree.Sound) {content : Bytes}
    (written : tree.write path content = .ok after) : after.Sound := by
  obtain ⟨place, leads, written⟩ := bind_eq_ok_iff.mp written
  split at written
  · cases written
  · next free =>
    cases written
    exact sound.put _ (resolve_inDirectory sound leads) free

theorem Sound.makeDirectory (sound : tree.Sound) (made : tree.makeDirectory path = .ok after) :
    after.Sound := by
  obtain ⟨place, leads, made⟩ := bind_eq_ok_iff.mp made
  split at made
  · cases made
  · next free =>
    cases made
    refine sound.put _ (resolve_inDirectory sound leads) fun isDirectory => ?_
    rw [isDirectory] at free
    exact free rfl

theorem Sound.makeDirectories {depth : Nat} (sound : tree.Sound)
    (made : tree.makeDirectories depth path = .ok after) : after.Sound := by
  induction depth generalizing path after with
  | zero =>
      rw [FileTree.makeDirectories] at made
      split at made
      · next first =>
        cases made
        exact sound.makeDirectory first
      · split at made
        · next deeper _ => cases deeper
        split at made
        · cases made
          exact sound
        · cases made
  | succ depth ih =>
      rw [FileTree.makeDirectories] at made
      split at made
      · next first =>
        cases made
        exact sound.makeDirectory first
      · split at made
        · next deeper _ =>
          cases deeper
          obtain ⟨between, around, made⟩ := bind_eq_ok_iff.mp made
          exact (ih around).makeDirectory made
        split at made
        · cases made
          exact sound
        · cases made

theorem Sound.addFile (sound : tree.Sound) {content : Bytes}
    (added : tree.addFile path content = .ok after) : after.Sound := by
  obtain ⟨between, made, written⟩ := bind_eq_ok_iff.mp added
  exact (sound.makeDirectories made).write written

theorem Sound.delete (sound : tree.Sound) (deleted : tree.delete path = .ok after) :
    after.Sound := by
  obtain ⟨place, -, deleted⟩ := bind_eq_ok_iff.mp deleted
  split at deleted
  · cases deleted
  · cases deleted
    exact sound.cut place

end NotebookAudit.FileTree

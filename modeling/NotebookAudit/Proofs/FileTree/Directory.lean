import NotebookAudit.Proofs.FileTree.Sound
import NotebookAudit.Proofs.Text.Order

/-!
The content of a directory.

`FileTree.child?` says what is in the directory at the end of a path under a name. It decides the
names that a directory lists, which come in their order and each once (`FileTree.names_increasing`,
`FileTree.mem_names`), and what reading one of them gives (`FileTree.read_child_congr`), whatever
else is in the tree and in whatever order it came there.
-/

namespace NotebookAudit.FileTree

variable {tree tree' : FileTree} {path : FilePath} {name : Text}

/-- What is in the directory at the end of a path under a name. -/
def child? (tree : FileTree) (path : FilePath) (name : Text) : Option FileNode :=
  match tree.resolve path with
  | .ok dir => tree.node? (dir ++ [name])
  | .error _ => none

/-! ## Names -/

/-- The listed name of an entry says where it is. -/
theorem of_namesAt {place : Place} {e : Place × FileNode}
    (listed : name ∈ if e.1.dropLast = place then e.1.getLast? else none) :
    e.1 = place ++ [name] := by
  split at listed
  · next inPlace =>
    rw [← inPlace]
    exact (List.dropLast_append_getLast? _ listed).symm
  · cases listed

theorem mem_namesAt {place : Place} :
    name ∈ tree.namesAt place ↔ (tree.node? (place ++ [name])).isSome = true := by
  rw [node?_of_ne_nil (by simp), List.lookup_isSome_iff, namesAt, List.mem_filterMap]
  constructor
  · intro listed
    obtain ⟨e, member, last⟩ := listed
    exact ⟨e, member, beq_iff_eq.mpr (of_namesAt last).symm⟩
  · intro there
    obtain ⟨e, member, same⟩ := there
    refine ⟨e, member, ?_⟩
    rw [← beq_iff_eq.mp same, List.dropLast_concat, if_pos rfl, List.getLast?_concat]

theorem namesAt_distinct (sound : tree.Sound) (place : Place) : (tree.namesAt place).Nodup := by
  have distinct := List.pairwise_map.mp sound.distinct
  refine List.pairwise_filterMap.mpr (distinct.imp fun different name listed name' listed' => ?_)
  intro same
  rw [of_namesAt listed, of_namesAt listed', same] at different
  exact different rfl

theorem mem_names : name ∈ tree.names path ↔ (tree.child? path name).isSome = true := by
  cases leads : tree.resolve path with
  | ok place => simp only [names, child?, leads, Text.mem_sort, mem_namesAt]
  | error e => simp [names, child?, leads]

theorem names_increasing (sound : tree.Sound) (path : FilePath) :
    (tree.names path).Pairwise (· < ·) := by
  unfold names
  split
  · next place leads => exact Text.sort_increasing (namesAt_distinct sound place)
  · exact .nil

/-- Names that are in increasing order are listed as they are. -/
theorem names_of_increasing {place : Place} (leads : tree.resolve path = .ok place)
    (increasing : (tree.namesAt place).Pairwise (· < ·)) :
    tree.names path = tree.namesAt place := by
  rw [names, leads]
  exact Text.sort_of_increasing increasing

/-! ## Reading -/

theorem walk_append (tree : FileTree) (place : Place) (parts more : List Text) :
    tree.walk place (parts ++ more) =
      (tree.walk place parts >>= fun between => tree.walk between more) := by
  induction parts generalizing place with
  | nil => rfl
  | cons part rest ih =>
      rw [List.cons_append, walk, walk]
      split
      · rfl
      · rfl
      · split
        · rfl
        split
        · split
          · rfl
          · exact ih _
        · exact ih _

/-- Where components lead to does not depend on the tree, if they lead to a place at all. -/
theorem walk_unique {parts : List Text} {place dir dir' : Place}
    (leads : tree.walk place parts = .ok dir) (leads' : tree'.walk place parts = .ok dir') :
    dir = dir' := by
  induction parts generalizing place with
  | nil =>
      cases leads
      cases leads'
      rfl
  | cons part rest ih =>
      obtain ⟨-, -, -, leads⟩ := walk_cons_eq_ok_iff.mp leads
      obtain ⟨-, -, -, leads'⟩ := walk_cons_eq_ok_iff.mp leads'
      exact ih leads leads'

/-- What is in a directory is there under its name. -/
theorem of_child? (sound : tree.Sound) (there : (tree.child? path name).isSome = true) :
    ∃ dir, tree.resolve path = .ok dir ∧ tree.node? dir = some .directory ∧
      tree.child? path name = tree.node? (dir ++ [name]) := by
  unfold child? at there ⊢
  split at there
  · next dir leads =>
    have isDirectory := sound.inDirectory _ there
    rw [List.dropLast_concat] at isDirectory
    exact ⟨dir, leads, isDirectory, rfl⟩
  · cases there

/-- Only a directory has something in it. -/
theorem find?_of_child? (sound : tree.Sound) (there : (tree.child? path name).isSome = true) :
    tree.find? path = .ok (some .directory) := by
  obtain ⟨dir, leads, isDirectory, -⟩ := of_child? sound there
  have found : tree.find path = .ok .directory := by
    simp only [find, leads, bind, Except.bind, isDirectory]
    rfl
  rw [find?, found]

theorem names_eq_nil (sound : tree.Sound) (elsewhere : tree.find? path ≠ .ok (some .directory)) :
    tree.names path = [] := by
  refine List.eq_nil_iff_forall_not_mem.mpr fun name member => ?_
  exact elsewhere (find?_of_child? sound (mem_names.mp member))

theorem walk_name {dir : Place} (isDirectory : tree.node? dir = some .directory)
    (proper : name ≠ [0x2e, 0x2e]) :
    tree.walk dir [name] =
      if nameLimit < name.systemWidth then .error .nameTooLong else .ok (dir ++ [name]) := by
  rw [walk, isDirectory]
  dsimp only
  rw [if_neg proper, walk]

/-- Reading what is in a directory under a name depends on that alone. -/
theorem read_child_congr (sound : tree.Sound) (sound' : tree'.Sound)
    (same : tree.child? path name = tree'.child? path name)
    (there : (tree.child? path name).isSome = true) (proper : name ≠ [0x2e, 0x2e]) :
    tree.read (path.child name) = tree'.read (path.child name) := by
  obtain ⟨dir, leads, isDirectory, entry⟩ := of_child? sound there
  obtain ⟨dir', leads', isDirectory', entry'⟩ := of_child? sound' (same ▸ there)
  obtain rfl := walk_unique (walk_of_resolve leads) (walk_of_resolve leads')
  have sameNode : tree.node? (dir ++ [name]) = tree'.node? (dir ++ [name]) := by
    rw [← entry, ← entry', same]
  have child : (path.child name).parts = path.parts ++ [name] := rfl
  have walked : tree.walk [] (path.child name).parts = tree.walk dir [name] := by
    rw [child, walk_append, walk_of_resolve leads]
    rfl
  have walked' : tree'.walk [] (path.child name).parts = tree'.walk dir [name] := by
    rw [child, walk_append, walk_of_resolve leads']
    rfl
  have sameResolve : tree.resolve (path.child name) = tree'.resolve (path.child name) := by
    rw [resolve, resolve, walked, walked', walk_name isDirectory proper,
      walk_name isDirectory' proper]
  have sameFind : tree.find (path.child name) = tree'.find (path.child name) := by
    cases resolved : tree.resolve (path.child name) with
    | error e =>
        rw [find, find, ← sameResolve, resolved]
        rfl
    | ok place =>
        have isPlace := walk_of_resolve resolved
        rw [walked, walk_name isDirectory proper] at isPlace
        split at isPlace
        · cases isPlace
        · cases isPlace
          simp only [find, ← sameResolve, resolved, bind, Except.bind, sameNode]
  rw [read, read, sameFind]

/-! ## Paths that are too long -/

/-- The path and its components are no longer than paths and names may be. -/
structure Fits (path : FilePath) : Prop where
  whole : path.text.systemWidth ≤ pathLimit
  names : ∀ part ∈ path.parts, part.systemWidth ≤ nameLimit

theorem walk_eq_error {place : Place} {parts : List Text} {fault : FileFault}
    (fails : tree.walk place parts = .error fault) :
    fault = .missing ∨ fault = .notDirectory ∨ ∃ part ∈ parts, nameLimit < part.systemWidth := by
  induction parts generalizing place with
  | nil => cases fails
  | cons part rest ih =>
      have deeper {next : Place} (fails : tree.walk next rest = .error fault) :
          fault = .missing ∨ fault = .notDirectory ∨
            ∃ part' ∈ part :: rest, nameLimit < part'.systemWidth := by
        rcases ih fails with missing | notDirectory | ⟨part', member, long⟩
        · exact .inl missing
        · exact .inr (.inl notDirectory)
        · exact .inr (.inr ⟨part', List.mem_cons_of_mem _ member, long⟩)
      rw [walk] at fails
      split at fails
      · cases fails
        exact .inl rfl
      · cases fails
        exact .inr (.inl rfl)
      split at fails
      · next long => exact .inr (.inr ⟨part, List.mem_cons_self, long⟩)
      split at fails
      · split at fails
        · cases fails
          exact .inl rfl
        · exact deeper fails
      · exact deeper fails

theorem walk_names_fit {place dir : Place} {parts : List Text}
    (leads : tree.walk place parts = .ok dir) :
    ∀ part ∈ parts, part.systemWidth ≤ nameLimit := by
  induction parts generalizing place with
  | nil => exact List.forall_mem_nil _
  | cons part rest ih =>
      obtain ⟨-, fits, -, leads⟩ := walk_cons_eq_ok_iff.mp leads
      exact List.forall_mem_cons.mpr ⟨fits, ih leads⟩

theorem fits_of_resolve {place : Place} (leads : tree.resolve path = .ok place) : Fits path where
  whole := by
    unfold resolve at leads
    split at leads
    · cases leads
    split at leads
    · cases leads
    · next fits => exact Nat.le_of_not_lt fits
  names := walk_names_fit (walk_of_resolve leads)

/-- Only a path that is too long cannot be looked at. -/
theorem not_fits_of_find? {e : FileError} (unseen : tree.find? path = .error e) : ¬ Fits path := by
  intro fits
  unfold find? at unseen
  split at unseen
  · cases unseen
  · cases unseen
  · cases unseen
  · cases unseen
  next e' notMissing notNotDirectory notRefused failed =>
  rcases bind_eq_error_iff.mp failed with unresolved | ⟨place, -, empty⟩
  · unfold resolve at unresolved
    split at unresolved
    · cases unresolved
      exact notRefused _ rfl
    split at unresolved
    · next long => exact absurd fits.whole (Nat.not_le.mpr long)
    split at unresolved
    · cases unresolved
      exact notMissing _ rfl
    · obtain ⟨fault, fails, rfl⟩ := mapError_eq_error_iff.mp unresolved
      rcases walk_eq_error fails with rfl | rfl | ⟨part, member, long⟩
      · exact notMissing _ rfl
      · exact notNotDirectory _ rfl
      · exact absurd (fits.names part member) (Nat.not_le.mpr long)
  · split at empty
    · cases empty
    · cases empty
      exact notMissing _ rfl

/-- A path that is too long leads nowhere in any tree. -/
theorem names_of_not_fits (tooLong : ¬ Fits path) : tree.names path = [] := by
  refine List.eq_nil_iff_forall_not_mem.mpr fun name member => ?_
  rw [mem_names, child?] at member
  split at member
  · next place leads => exact tooLong (fits_of_resolve leads)
  · cases member

end NotebookAudit.FileTree

import NotebookAudit.Proofs.FileTree.Directory
import NotebookAudit.Proofs.Rule.Loading

/-!
The rules of a place.

`RulesPlace.Holds` states what the rules of a place are by its content alone: of the valid entries
of its rule files, those that end in `.yaml` before those that end in `.yml` and each group in the
order of the names, the first of each identifier. Loading a place either gives these rules
(`RulesPlace.holds_load`), or ends with a fault. The same content never gives other rules
(`RulesPlace.holds_unique`).
-/

namespace NotebookAudit

/-- What gives nothing may be left out. -/
theorem flatMap_filter_of_nil {α β : Type} {keep : α → Bool} {f : α → List β} {list : List α}
    (dropped : ∀ a ∈ list, keep a = false → f a = []) :
    (list.filter keep).flatMap f = list.flatMap f := by
  induction list with
  | nil => rfl
  | cons a rest ih =>
      rw [List.forall_mem_cons] at dropped
      cases kept : keep a with
      | true => rw [List.filter_cons_of_pos kept, List.flatMap_cons, List.flatMap_cons, ih dropped.2]
      | false =>
          rw [List.filter_cons_of_neg (by simp [kept]), List.flatMap_cons, dropped.1 kept,
            List.nil_append, ih dropped.2]

namespace RulesPlace

variable {tree tree' : FileTree} {place : RulesPlace}

/-- What is in the place under a name. -/
def child? (tree : FileTree) : RulesPlace → Text → Option FileNode
  | default, name =>
    if name = Text.ofString "default.yaml" then some (.file (Utf8.encode defaultRuleFile)) else none
  | directory path, name => tree.child? path name

/-- What opening a rule file of the place gives. -/
def openFile (tree : FileTree) : RulesPlace → Text → Except FileError Bytes
  | default, _ => .ok (Utf8.encode defaultRuleFile)
  | directory path, name => tree.read (path.child name)

/-- The names of a place with an ending, in increasing order. -/
structure Lists (tree : FileTree) (place : RulesPlace) (ending : Text) (names : List Text) :
    Prop where
  increasing : names.Pairwise (· < ·)
  mem_iff : ∀ name, name ∈ names ↔
    name.endsWith ending = true ∧ (place.child? tree name).isSome = true

/-- The name is that of a rule file. -/
def IsRuleFile (name : Text) : Prop :=
  name.endsWith (Text.ofString ".yaml") = true ∨ name.endsWith (Text.ofString ".yml") = true

/-- What is remarked about a rule file of the place that is left out. -/
def leftOut? (tree : FileTree) (place : RulesPlace) (name : Text) : Option StoreFileRemark :=
  StoredFile.leftOut? (place.openFile tree name)

/-- The reading of some rule file of the place breaks off. -/
def HasFatalFile (tree : FileTree) (place : RulesPlace) : Prop :=
  ∃ name bytes, IsRuleFile name ∧ (place.child? tree name).isSome = true ∧
    place.openFile tree name = .ok bytes ∧ RuleFile.IsFatal bytes

/-- The rules of the place: the first of each identifier in the valid entries of its files. -/
def Holds (tree : FileTree) (place : RulesPlace) (rules : List Rule) : Prop :=
  ∃ yaml yml, place.Lists tree (Text.ofString ".yaml") yaml ∧
    place.Lists tree (Text.ofString ".yml") yml ∧
    rules = Rule.firstOfEachId ((yaml ++ yml).flatMap fun name =>
      StoredFile.rules (place.openFile tree name))

/-! ## The files of a place -/

theorem files_eq (sound : tree.Sound) (place : RulesPlace) :
    ∃ yaml yml, place.Lists tree (Text.ofString ".yaml") yaml ∧
      place.Lists tree (Text.ofString ".yml") yml ∧
      place.files tree = (yaml ++ yml).map fun name => (name, place.openFile tree name) := by
  cases place with
  | default =>
      refine ⟨[Text.ofString "default.yaml"], [], ⟨List.pairwise_singleton _ _, fun name => ?_⟩,
        ⟨.nil, fun name => ?_⟩, rfl⟩
      · by_cases named : name = Text.ofString "default.yaml"
        · subst named
          exact iff_of_true (List.mem_singleton.mpr rfl) ⟨by decide, rfl⟩
        · simp [child?, named]
      · by_cases named : name = Text.ofString "default.yaml"
        · subst named
          exact iff_of_false List.not_mem_nil fun listed => absurd listed.1 (by decide)
        · simp [child?, named]
  | directory path =>
      have lists (ending : Text) : Lists tree (directory path) ending
          ((tree.names path).filter fun name => name.endsWith ending) :=
        { increasing := (FileTree.names_increasing sound path).filter _
          mem_iff := fun name => by
            rw [List.mem_filter, FileTree.mem_names, and_comm]
            rfl }
      exact ⟨_, _, lists _, lists _, rfl⟩

/-- The rule files of a directory whose names are in increasing order. -/
theorem files_of_increasing {path : FilePath} (dir : Place) (leads : tree.resolve path = .ok dir)
    (increasing : (tree.namesAt dir).Pairwise (· < ·)) :
    (directory path).files tree =
      (ruleFileNames (tree.namesAt dir)).map fun name => (name, tree.read (path.child name)) := by
  show (ruleFileNames (tree.names path)).map _ = _
  rw [FileTree.names_of_increasing leads increasing]

/-- A place whose content is the same lists the same names. -/
theorem Lists.unique {ending : Text} {names names' : List Text}
    (lists : place.Lists tree ending names) (lists' : place.Lists tree' ending names')
    (same : ∀ name, place.child? tree name = place.child? tree' name) : names = names' :=
  Text.increasing_unique lists.increasing lists'.increasing fun name => by
    rw [lists.mem_iff, lists'.mem_iff, same]

theorem Lists.isRuleFile {yaml yml : List Text}
    (yamlLists : place.Lists tree (Text.ofString ".yaml") yaml)
    (ymlLists : place.Lists tree (Text.ofString ".yml") yml) {name : Text} :
    name ∈ yaml ++ yml ↔ IsRuleFile name ∧ (place.child? tree name).isSome = true := by
  rw [List.mem_append, yamlLists.mem_iff, ymlLists.mem_iff, IsRuleFile, or_and_right]

/-- The rule files of a place are what is in it under names of rule files. -/
theorem mem_files (sound : tree.Sound) {f : Text × Except FileError Bytes} :
    f ∈ place.files tree ↔ IsRuleFile f.1 ∧ (place.child? tree f.1).isSome = true ∧
      place.openFile tree f.1 = f.2 := by
  obtain ⟨yaml, yml, yamlLists, ymlLists, files⟩ := files_eq sound place
  rw [files, List.mem_map, ← and_assoc]
  constructor
  · intro listed
    obtain ⟨name, member, rfl⟩ := listed
    exact ⟨(Lists.isRuleFile yamlLists ymlLists).mp member, rfl⟩
  · intro there
    exact ⟨f.1, (Lists.isRuleFile yamlLists ymlLists).mpr there.1, by rw [there.2]⟩

/-- Opening a rule file depends on the content of the place alone. -/
theorem openFile_congr {name : Text} (sound : tree.Sound) (sound' : tree'.Sound)
    (ruleFile : IsRuleFile name) (there : (place.child? tree name).isSome = true)
    (same : place.child? tree name = place.child? tree' name) :
    place.openFile tree name = place.openFile tree' name := by
  cases place with
  | default => rfl
  | directory path =>
      refine FileTree.read_child_congr sound sound' same there fun upwards => ?_
      rw [upwards] at ruleFile
      exact absurd ruleFile (by unfold IsRuleFile; decide)

/-- The same content gives the same rules. -/
theorem holds_unique {rules rules' : List Rule} (sound : tree.Sound) (sound' : tree'.Sound)
    (same : ∀ name, place.child? tree name = place.child? tree' name)
    (holds : place.Holds tree rules) (holds' : place.Holds tree' rules') : rules = rules' := by
  obtain ⟨yaml, yml, yamlLists, ymlLists, rfl⟩ := holds
  obtain ⟨yaml', yml', yamlLists', ymlLists', rfl⟩ := holds'
  obtain rfl := yamlLists.unique yamlLists' same
  obtain rfl := ymlLists.unique ymlLists' same
  congr 1
  refine List.flatMap_congr fun name member => ?_
  obtain ⟨ruleFile, there⟩ := (Lists.isRuleFile yamlLists ymlLists).mp member
  rw [openFile_congr sound sound' ruleFile there (same name)]

/-- The rules are the same if the files that are left out are not there. -/
theorem holds_of_absent {rules : List Rule} (sound : tree.Sound) (sound' : tree'.Sound)
    (absent : ∀ name, IsRuleFile name → place.child? tree' name =
      if (place.leftOut? tree name).isSome then none else place.child? tree name)
    (holds : place.Holds tree rules) : place.Holds tree' rules := by
  obtain ⟨yaml, yml, yamlLists, ymlLists, rfl⟩ := holds
  let kept (name : Text) : Bool := (place.leftOut? tree name).isNone
  have lists {ending : Text} {names : List Text} (ruleFile : ∀ name : Text,
      name.endsWith ending = true → IsRuleFile name) (lists : place.Lists tree ending names) :
      place.Lists tree' ending (names.filter kept) :=
    { increasing := lists.increasing.filter _
      mem_iff := fun name => by
        rw [List.mem_filter, lists.mem_iff, and_assoc]
        refine and_congr_right fun ends => ?_
        rw [absent name (ruleFile name ends)]
        cases left : place.leftOut? tree name <;> simp [kept, left] }
  refine ⟨_, _, lists (fun _ => .inl) yamlLists, lists (fun _ => .inr) ymlLists, ?_⟩
  rw [← List.filter_append]
  congr 1
  have same : (((yaml ++ yml).filter kept).flatMap fun name =>
        StoredFile.rules (place.openFile tree' name)) =
      ((yaml ++ yml).filter kept).flatMap fun name =>
        StoredFile.rules (place.openFile tree name) := by
    refine List.flatMap_congr fun name member => ?_
    obtain ⟨member, isKept⟩ := List.mem_filter.mp member
    obtain ⟨ruleFile, there⟩ := (Lists.isRuleFile yamlLists ymlLists).mp member
    have sameEntry := absent name ruleFile
    rw [Option.isNone_iff_eq_none.mp isKept] at sameEntry
    rw [openFile_congr sound sound' ruleFile there sameEntry.symm]
  rw [same, flatMap_filter_of_nil fun name _ dropped => ?_]
  cases leftOut : place.leftOut? tree name with
  | none => simp [kept, leftOut] at dropped
  | some remark => exact StoredFile.rules_of_leftOut leftOut

/-! ## Loading -/

/-- Only a directory has rule files. -/
theorem files_eq_nil (sound : tree.Sound) (elsewhere : place.find? tree ≠ .ok (some .directory)) :
    place.files tree = [] := by
  cases place with
  | default => exact absurd rfl elsewhere
  | directory path => rw [files, FileTree.names_eq_nil sound elsewhere]; rfl

/-- A place that cannot be looked at gives no rules and a fault. -/
theorem load_of_unseen {e : FileError} (unseen : place.find? tree = .error e) :
    place.load tree = ⟨[], [], some (.place e)⟩ := by
  rw [load, unseen]

/-- Any other place gives what its files give. -/
theorem load_of_seen (sound : tree.Sound) {found : Option FileNode}
    (seen : place.find? tree = .ok found) :
    (place.load tree).rules = (loadFiles [] (place.files tree)).rules ∧
      (place.load tree).fault = (loadFiles [] (place.files tree)).fault ∧
      ∀ name remark, .file name remark ∈ (loadFiles [] (place.files tree)).remarks →
        .file name remark ∈ (place.load tree).remarks := by
  rw [load, seen]
  cases found with
  | none =>
      have elsewhere : place.find? tree ≠ .ok (some .directory) := by
        rw [seen]
        exact fun same => nomatch same
      rw [files_eq_nil sound elsewhere]
      refine ⟨rfl, rfl, fun name remark member => ?_⟩
      cases List.mem_singleton.mp member
  | some node =>
      dsimp only
      split
      · next empty =>
        rw [empty]
        refine ⟨rfl, rfl, fun name remark member => ?_⟩
        cases List.mem_singleton.mp member
      · exact ⟨rfl, rfl, fun name remark member => List.mem_append_right _ member⟩

/-- A place that cannot be looked at in some tree gives no rules in any. -/
theorem load_rules_of_unseen {e : FileError} (unseen : place.find? tree = .error e)
    (sound : tree'.Sound) : (place.load tree').rules = [] := by
  cases place with
  | default => cases unseen
  | directory path =>
      cases seen : find? tree' (directory path) with
      | error e => rw [load_of_unseen seen]
      | ok found =>
          rw [(load_of_seen sound seen).1, files,
            FileTree.names_of_not_fits (FileTree.not_fits_of_find? unseen)]
          rfl

theorem goesOn_iff (sound : tree.Sound) :
    (∀ f ∈ place.files tree, StoredFile.GoesOn f.2) ↔ ¬ place.HasFatalFile tree := by
  constructor
  · intro goesOn fatal
    obtain ⟨name, bytes, ruleFile, there, content, isFatal⟩ := fatal
    obtain ⟨fault, breaksOff⟩ := RuleFile.breaksOff_iff.mpr isFatal
    exact goesOn (name, .ok bytes) ((mem_files sound).mpr ⟨ruleFile, there, content⟩) fault
      ⟨bytes, rfl, breaksOff⟩
  · intro harmless f member fault ends
    obtain ⟨ruleFile, there, content⟩ := (mem_files sound).mp member
    obtain ⟨bytes, opened, breaksOff⟩ := ends
    exact harmless ⟨f.1, bytes, ruleFile, there, content.trans opened,
      RuleFile.breaksOff_iff.mp ⟨fault, breaksOff⟩⟩

theorem load_fault_eq_none_iff (sound : tree.Sound) :
    (place.load tree).fault = none ↔
      (∃ found, place.find? tree = .ok found) ∧ ¬ place.HasFatalFile tree := by
  rw [← goesOn_iff sound]
  cases seen : place.find? tree with
  | error e => simp [load_of_unseen seen]
  | ok found =>
      rw [(load_of_seen sound seen).2.1, loadFiles_fault_eq_none_iff]
      simp

/-- A place that is loaded without a fault holds the rules that are loaded. -/
theorem holds_load (sound : tree.Sound) (faultless : (place.load tree).fault = none) :
    place.Holds tree (place.load tree).rules := by
  obtain ⟨⟨found, seen⟩, harmless⟩ := (load_fault_eq_none_iff sound).mp faultless
  have goesOn := (goesOn_iff sound).mpr harmless
  obtain ⟨yaml, yml, yamlLists, ymlLists, files⟩ := files_eq sound place
  refine ⟨yaml, yml, yamlLists, ymlLists, ?_⟩
  rw [(load_of_seen sound seen).1, (loadFiles_of_goesOn goesOn).1, files, List.flatMap_map]

/-- No identifier comes twice among rules that are loaded, also if a fault ends the loading. -/
theorem load_distinct (sound : tree.Sound) (place : RulesPlace) :
    ((place.load tree).rules.map (·.id)).Nodup := by
  cases seen : place.find? tree with
  | error e =>
      rw [load_of_unseen seen]
      exact .nil
  | ok found =>
      rw [(load_of_seen sound seen).1]
      rcases goesOn_or_first_end (place.files tree) with goesOn | ⟨before, f, after, fault, files,
        goesOn, ends⟩
      · rw [(loadFiles_of_goesOn goesOn).1]
        exact Rule.firstOfEachId_distinct _
      · rw [files, (loadFiles_of_ends goesOn ends).1]
        exact Rule.firstOfEachId_distinct _

theorem openAt_of_directory (seen : place.find? tree = .ok (some .directory)) :
    RuleStore.openAt tree place = place.load tree := by
  rw [RuleStore.openAt, seen]

/-- A store is opened as its place is loaded, unless a file is in its place. -/
theorem openAt_eq (tree : FileTree) (place : RulesPlace) :
    RuleStore.openAt tree place = place.load tree ∨
      (∃ content, place.find? tree = .ok (some (.file content))) ∧
        RuleStore.openAt tree place = ⟨[], [], some (.notDirectory place.text)⟩ := by
  unfold RuleStore.openAt
  split
  · next content seen => exact .inr ⟨⟨content, seen⟩, rfl⟩
  · exact .inl rfl

end RulesPlace

end NotebookAudit

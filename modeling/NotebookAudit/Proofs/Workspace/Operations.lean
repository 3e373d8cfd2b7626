import NotebookAudit.Proofs.Rule.Place
import NotebookAudit.Proofs.Workspace.Parts

/-!
What operations on a workspace may change.

An operation is quiet and leaves the files and the stores as they are (`Quiet`), or changes the
files and leaves all stores (`ChangesFiles`), or opens stores and leaves the files and the stores
that are there (`OpensStores`). Loading a store once more is none of these: it gives the store other
rules (`ReloadsStore`), also if it fails.
-/

namespace NotebookAudit

/-- The rules of the store are those that its place gives without a fault. -/
def RuleStore.IsLoaded (tree : FileTree) (s : RuleStore) : Prop :=
  ∃ remarks, s.place.load tree = ⟨s.rules, remarks, none⟩

theorem Workspace.openedStore?_eq_some_iff {w : Workspace} {index : Nat} {s : RuleStore} :
    w.openedStore? index = some s ↔ index ∈ w.opened ∧ w.stores[index]? = some s :=
  Option.ite_none_right_eq_some

/-- The number of the store opened last. -/
theorem Workspace.mem_opened_of_store {w : Workspace} {index : Nat} (current : w.store = some index) :
    index ∈ w.opened := List.mem_of_getLast? current

/-! ## What operations may change -/

/-- The files and the stores stay as they are. -/
structure Quiet (w after : Workspace) : Prop where
  files : after.files = w.files
  stores : after.stores = w.stores
  opened : after.opened = w.opened

/-- The files may be changed, but no store is. -/
structure ChangesFiles (w after : Workspace) : Prop where
  sound : w.files.Sound → after.files.Sound
  stores : after.stores = w.stores
  opened : after.opened = w.opened

/-- The files and the stores stay as they are, and stores may be opened. -/
structure OpensStores (w after : Workspace) : Prop where
  files : after.files = w.files
  stores : ∃ opened, after.stores = w.stores ++ opened ∧ ∀ s ∈ opened, s.IsLoaded w.files

instance : IsPreorder Workspace Quiet where
  refl _ := ⟨rfl, rfl, rfl⟩
  trans _ _ _ first second :=
    ⟨second.files.trans first.files, second.stores.trans first.stores,
      second.opened.trans first.opened⟩

instance : IsPreorder Workspace ChangesFiles where
  refl _ := ⟨id, rfl, rfl⟩
  trans _ _ _ first second :=
    ⟨second.sound ∘ first.sound, second.stores.trans first.stores, second.opened.trans first.opened⟩

instance : IsPreorder Workspace OpensStores where
  refl _ := ⟨rfl, [], (List.append_nil _).symm, fun _ member => nomatch member⟩
  trans _ _ _ first second := by
    obtain ⟨sameFiles, opened, first, loaded⟩ := first
    obtain ⟨sameFiles', opened', second, loaded'⟩ := second
    refine ⟨sameFiles'.trans sameFiles, opened ++ opened', ?_, ?_⟩
    · rw [second, first, List.append_assoc]
    · rw [sameFiles] at loaded'
      exact fun s member => (List.mem_append.mp member).elim (loaded s) (loaded' s)

theorem Quiet.changesFiles (w after : Workspace) (quiet : Quiet w after) : ChangesFiles w after :=
  ⟨fun sound => quiet.files ▸ sound, quiet.stores, quiet.opened⟩

theorem Quiet.opensStores (w after : Workspace) (quiet : Quiet w after) : OpensStores w after :=
  ⟨quiet.files, [], by rw [quiet.stores, List.append_nil], fun _ member => nomatch member⟩

theorem Quiet.ignoresLog : IgnoresLog Quiet := fun _ _ => ⟨rfl, rfl, rfl⟩

theorem ChangesFiles.ignoresLog : IgnoresLog ChangesFiles := fun _ _ => ⟨id, rfl, rfl⟩

namespace Workspace

/-! ## Operations that change files -/

theorem changeFiles_changes {change : FileTree → Except FileError FileTree}
    (keeps : ∀ tree after, tree.Sound → change tree = .ok after → after.Sound) :
    Leads ChangesFiles (changeFiles change) :=
  changeFiles_leads fun _ _ changed => ⟨fun sound => keeps _ _ sound changed, rfl, rfl⟩

theorem writeFile_changes (path : FilePath) (content : Bytes) :
    Leads ChangesFiles (writeFile path content) :=
  changeFiles_changes fun _ _ sound added => sound.addFile added

theorem makeDirectory_changes (path : FilePath) : Leads ChangesFiles (makeDirectory path) :=
  changeFiles_changes fun _ _ sound made => sound.makeDirectories made

theorem delete_changes (path : FilePath) : Leads ChangesFiles (delete path) :=
  changeFiles_changes fun _ _ sound deleted => sound.delete deleted

theorem save_sound {tree : FileTree} (sound : tree.Sound) (path : FilePath) (s : Settings) :
    (Settings.save tree path s).1.Sound := by
  unfold Settings.save
  split
  · next after written => exact sound.write written
  · exact sound

theorem saveConfig_changes : Leads ChangesFiles saveConfig :=
  saveConfig_leads ChangesFiles.ignoresLog fun _ _ _ =>
    ⟨fun sound => save_sound sound _ _, rfl, rfl⟩

theorem setRulesDirectory_changes (value : Json) :
    Leads ChangesFiles (setRulesDirectory value) :=
  setRulesDirectory_leads ChangesFiles.ignoresLog
    (fun _ _ _ => ⟨fun sound => save_sound sound _ _, rfl, rfl⟩) (fun _ _ => ⟨id, rfl, rfl⟩) value

/-! ## Operations that open stores -/

/-- Opening a store logs its loading, and adds the store if the loading has no fault. -/
theorem run_addStore (w : Workspace) (place : RulesPlace) :
    w.run (addStore place) =
      let loading := RuleStore.openAt w.files place
      let logged := { w with log := w.log ++ loading.remarks.map StoreRemark.line }
      match loading.fault with
      | some fault => (.error (.store fault), logged)
      | none =>
        (.ok w.stores.length, { logged with stores := w.stores ++ [⟨place, loading.rules⟩] }) := by
  simp only [addStore, run_bind, run_get, logLoading, addLog, run_modify, checkLoading]
  cases (RuleStore.openAt w.files place).fault <;> rfl

/-- A loading at the first opening that has no fault is that of the place. -/
theorem isLoaded_of_openAt {tree : FileTree} {place : RulesPlace}
    (faultless : (RuleStore.openAt tree place).fault = none) :
    RuleStore.IsLoaded tree ⟨place, (RuleStore.openAt tree place).rules⟩ := by
  rcases RulesPlace.openAt_eq tree place with same | ⟨-, fault⟩
  · rw [same] at faultless ⊢
    exact ⟨(place.load tree).remarks, by rw [← faultless]⟩
  · rw [fault] at faultless
    cases faultless

theorem addStore_opens (place : RulesPlace) : Leads OpensStores (addStore place) := by
  intro w
  rw [run_addStore]
  dsimp only
  split
  · exact Quiet.opensStores _ _ ⟨rfl, rfl, rfl⟩
  · next faultless =>
    refine ⟨rfl, [_], rfl, fun s member => ?_⟩
    cases List.mem_singleton.mp member
    exact isLoaded_of_openAt faultless

/-- Opening a store makes it the one opened last, unless its loading has a fault. -/
theorem run_openStore (w : Workspace) (directory : Option FilePath) :
    w.run (openStore directory) =
      let place := (directory.map RulesPlace.directory).getD w.environment.rulesPlace
      let loading := RuleStore.openAt w.files place
      let logged := { w with log := w.log ++ loading.remarks.map StoreRemark.line }
      match loading.fault with
      | some fault => (.error (.store fault), logged)
      | none =>
        (.ok (), { logged with
          stores := w.stores ++ [⟨place, loading.rules⟩]
          opened := w.opened ++ [w.stores.length] }) := by
  simp only [openStore, run_bind, run_get, run_addStore, run_modify]
  generalize (directory.map RulesPlace.directory).getD w.environment.rulesPlace = place
  cases (RuleStore.openAt w.files place).fault <;> rfl

theorem openStore_opens (directory : Option FilePath) : Leads OpensStores (openStore directory) :=
  .bind .get fun _ => .bind (addStore_opens _) fun _ =>
    .modify fun _ => ⟨rfl, [], (List.append_nil _).symm, fun _ member => nomatch member⟩

theorem serviceStore_opens (service : Service) : Leads OpensStores (serviceStore service) := by
  rw [serviceStore]
  split
  · exact .pure _
  · refine .bind .get fun _ => .bind (addStore_opens _) fun index => .bind (.modify fun w => ?_)
      fun _ => .pure _
    exact Quiet.opensStores _ _ ⟨rfl, rfl, rfl⟩

theorem snapshot_opens : Leads OpensStores snapshot := by
  refine .bind theService_leads fun service => ?_
  split
  · exact .pure _
  · exact .bind (serviceStore_opens _) fun _ => .bind .get fun _ => .bind (.require _) fun _ => .pure _

/-! ## Loading a store once more -/

/-- Loading a store once more logs the loading and sets the rules of the store also if the loading
has a fault. -/
theorem run_reloadStore {w : Workspace} {index : Nat} {s : RuleStore}
    (there : w.openedStore? index = some s) :
    w.run (reloadStore index) =
      let loading := s.reload w.files
      let after := { w with
        log := w.log ++ loading.remarks.map StoreRemark.line
        stores := w.stores.set index { s with rules := loading.rules } }
      match loading.fault with
      | some fault => (.error (.store fault), after)
      | none => (.ok (), after) := by
  simp only [reloadStore, run_bind, run_get, there, require, run_pure, logLoading, addLog, run_modify,
    checkLoading]
  cases (s.reload w.files).fault <;> rfl

/-- Without a store of the number nothing is loaded. -/
theorem run_reloadStore_of_none {w : Workspace} {index : Nat}
    (missing : w.openedStore? index = none) :
    w.run (reloadStore index) = (.error .notOpen, w) := by
  simp only [reloadStore, run_bind, run_get, missing, require, run_throw]

end Workspace

/-- The store of the number is given the rules of another loading. -/
def ReloadsStore (index : Nat) (w after : Workspace) : Prop :=
  ∃ s, w.openedStore? index = some s ∧ after.files = w.files ∧
    after.stores = w.stores.set index { s with rules := (s.place.load w.files).rules }

theorem Workspace.reloadStore_cases (w : Workspace) (index : Nat) :
    Quiet w (w.run (reloadStore index)).2 ∨ ReloadsStore index w (w.run (reloadStore index)).2 := by
  cases found : w.openedStore? index with
  | none =>
      rw [run_reloadStore_of_none found]
      exact .inl (refl_of Quiet w)
  | some s =>
      rw [run_reloadStore found]
      dsimp only
      split
      · exact .inr ⟨s, found, rfl, rfl⟩
      · exact .inr ⟨s, found, rfl, rfl⟩

end NotebookAudit

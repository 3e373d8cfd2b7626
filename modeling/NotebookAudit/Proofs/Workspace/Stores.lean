import NotebookAudit.Proofs.Workspace.Session

/-!
Rule stores in sessions.

In every session the rules of a store are those of its place when the store was last loaded without
a fault, and nothing but loading it once more changes them (`Workspace.stores_follow_files`).
-/

namespace NotebookAudit.Workspace

/-- A store that is opened without a fault is the last one and holds the rules of its place. -/
theorem openStore_holds {w after : Workspace} (sound : w.files.Sound) {directory : Option FilePath}
    (opened : w.run (openStore directory) = (.ok (), after)) :
    ∃ s, after.files = w.files ∧ after.stores = w.stores ++ [s] ∧
      after.store = some w.stores.length ∧
      s.place = (directory.map RulesPlace.directory).getD w.environment.rulesPlace ∧
      s.place.Holds w.files s.rules := by
  rw [run_openStore] at opened
  dsimp only at opened
  split at opened
  · cases opened
  · next faultless =>
    cases opened
    exact ⟨_, rfl, rfl, List.getLast?_concat, rfl, (isLoaded_of_openAt faultless).holds sound⟩

/-- A store that is loaded once more without a fault holds the rules of its place. -/
theorem reloadStore_holds {w after : Workspace} (sound : w.files.Sound) {index : Nat}
    (reloaded : w.run (reloadStore index) = (.ok (), after)) :
    ∃ s rules, index ∈ w.opened ∧ w.stores[index]? = some s ∧ after.files = w.files ∧
      after.stores = w.stores.set index { s with rules } ∧ s.place.Holds w.files rules := by
  cases found : w.openedStore? index with
  | none =>
      rw [run_reloadStore_of_none found] at reloaded
      cases reloaded
  | some s =>
      obtain ⟨opened, there⟩ := openedStore?_eq_some_iff.mp found
      rw [run_reloadStore found] at reloaded
      dsimp only at reloaded
      split at reloaded
      · cases reloaded
      · next faultless =>
        cases reloaded
        exact ⟨s, _, opened, there, rfl, rfl, RulesPlace.holds_load sound faultless⟩

/-- In every session the identifiers in a store are distinct. A store that is opened, or loaded once
more, without a fault holds the rules of its place, and no other operation changes the rules of a
store. The same content of a place, whatever led to it, gives the same rules. -/
theorem stores_follow_files (session : List Operation) :
    let w := after session
    (∀ s ∈ w.stores, (s.rules.map (·.id)).Nodup) ∧
    (∀ directory w', w.run (openStore directory) = (.ok (), w') →
      ∃ s, w'.files = w.files ∧ w'.stores = w.stores ++ [s] ∧ w'.store = some w.stores.length ∧
        s.place = (directory.map RulesPlace.directory).getD w.environment.rulesPlace ∧
        s.place.Holds w.files s.rules) ∧
    (∀ index w', w.run (reloadStore index) = (.ok (), w') →
      ∃ s rules, index ∈ w.opened ∧ w.stores[index]? = some s ∧ w'.files = w.files ∧
        w'.stores = w.stores.set index { s with rules } ∧ s.place.Holds w.files rules) ∧
    (∀ op : Operation, (∀ index, op ≠ .reloadStore index) →
      ∃ opened, (op.step w).stores = w.stores ++ opened ∧
        ∀ s ∈ opened, s.place.Holds w.files s.rules) ∧
    ∀ (session' : List Operation) (place : RulesPlace) (rules rules' : List Rule),
      (∀ name, place.child? w.files name = place.child? (after session').files name) →
      place.Holds w.files rules → place.Holds (after session').files rules' → rules = rules' := by
  intro w
  have sound : w.Sound := sound_after session
  refine ⟨fun s member => (sound.stores s member).distinct,
    fun directory w' opened => openStore_holds sound.files opened,
    fun index w' reloaded => reloadStore_holds sound.files reloaded, fun op other => ?_,
    fun session' place rules rules' same => ?_⟩
  · rcases op.step_cases w with changes | opens | ⟨index, isReload, -⟩
    · exact ⟨[], by rw [changes.stores, List.append_nil], List.forall_mem_nil _⟩
    · obtain ⟨opened, stores, loaded⟩ := opens.stores
      exact ⟨opened, stores, fun s member => (loaded s member).holds sound.files⟩
    · exact absurd isReload (other index)
  · exact RulesPlace.holds_unique sound.files (sound_after session').files same

/-- Two rule files with one identifier, a number in the one and a text in the other, of which the
second comes first by its name. -/
def sharedIdentifier : List Operation :=
  [.writeFile (.ofText "rules/b.yml")
      (Utf8.encode "rules: [{id: !!str 1, name: b, message: m, pattern: x}]"),
    .writeFile (.ofText "rules/a.yaml")
      (Utf8.encode "rules: [{id: 1, name: a, message: m, pattern: x}]")]

/-- The rule of the file `a.yaml` is kept. -/
theorem stores_follow_files_sharedIdentifier :
    ∃ w' s, (after sharedIdentifier).run (openStore (some (.ofText "rules"))) = (.ok (), w') ∧
      w'.stores = [s] ∧ s.place.Holds (after sharedIdentifier).files s.rules ∧
      s.rules = [⟨"1", "a", "m", "x", .warning, true⟩] := by
  have seen : RulesPlace.find? (after sharedIdentifier).files (.directory (.ofText "rules")) =
      .ok (some .directory) := by
    decide +kernel
  have loading : (RulesPlace.load (after sharedIdentifier).files
        (.directory (.ofText "rules"))).fault = none ∧
      (RulesPlace.load (after sharedIdentifier).files (.directory (.ofText "rules"))).rules =
        [⟨"1", "a", "m", "x", .warning, true⟩] := by
    rw [RulesPlace.load, seen, RulesPlace.files_of_increasing [Text.ofString "rules"]
      (by decide +kernel) (by decide +kernel)]
    decide +kernel
  have ran := run_openStore (after sharedIdentifier) (some (.ofText "rules"))
  dsimp only [Option.map_some, Option.getD_some] at ran
  rw [RulesPlace.openAt_of_directory seen, loading.1, loading.2] at ran
  obtain ⟨s, -, stores, -, -, holds⟩ := (stores_follow_files sharedIdentifier).2.1 _ _ ran
  cases List.append_cancel_left stores
  exact ⟨_, _, ran, rfl, holds, rfl⟩

end NotebookAudit.Workspace

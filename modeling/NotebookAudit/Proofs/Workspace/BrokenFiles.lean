import NotebookAudit.Proofs.Workspace.Services

/-!
Broken rule files in sessions.

A rule file that cannot be opened or is no YAML is remarked and left out, and what is loaded is the
same as if it were not there; a fatal file makes the loading fail (`Workspace.broken_files`). A
store that is loaded once more and fails keeps the rules of the files in front of the first fatal
one, and these are what its service sees from then on (`Workspace.failed_reload`).
-/

namespace NotebookAudit

/-- The operation loads the rules of the place into the store of the number: it opens that store, or loads
it once more. -/
inductive LoadsPlace (w : Workspace) (place : RulesPlace) : Nat → Operation → Prop
  | opening {directory : Option FilePath}
    (there : (directory.map RulesPlace.directory).getD w.environment.rulesPlace = place) :
    LoadsPlace w place w.stores.length (.openStore directory)
  | again {index : Nat} {s : RuleStore} (opened : w.openedStore? index = some s)
    (there : s.place = place) : LoadsPlace w place index (.reloadStore index)

namespace Workspace

variable {w w' : Workspace} {place : RulesPlace} {index : Nat} {op : Operation}

/-- In a directory the operation gives what the loading gives. -/
theorem run_eq_ok_iff (loads : LoadsPlace w place index op)
    (isDirectory : place.find? w.files = .ok (some .directory)) :
    (w.run op.action).1 = .ok () ↔ (place.load w.files).fault = none := by
  cases loads with
  | opening there =>
      rw [Operation.action, run_openStore, there]
      dsimp only
      rw [RulesPlace.openAt_of_directory isDirectory]
      cases (place.load w.files).fault <;> simp
  | @again _ s opened there =>
      subst there
      rw [Operation.action, run_reloadStore opened]
      have sameFault : (s.reload w.files).fault = (s.place.load w.files).fault := rfl
      dsimp only
      rw [sameFault]
      cases (s.place.load w.files).fault <;> simp

/-- An operation that loads a place without a fault leaves a store with what is loaded, and logs the
loading. -/
theorem store_of_run_eq_ok (loads : LoadsPlace w place index op)
    (ran : w.run op.action = (.ok (), w')) :
    (place.load w.files).fault = none ∧
      ∃ s, w'.openedStore? index = some s ∧ s.place = place ∧
        s.rules = (place.load w.files).rules ∧
        ∀ remark ∈ (place.load w.files).remarks, remark.line ∈ w'.log := by
  cases loads with
  | opening there =>
      rw [Operation.action, run_openStore, there] at ran
      dsimp only at ran
      split at ran
      · cases ran
      · next faultless =>
        cases ran
        rcases RulesPlace.openAt_eq w.files place with same | ⟨-, fault⟩
        · rw [same] at faultless ⊢
          refine ⟨faultless, ⟨place, (place.load w.files).rules⟩, ?_, rfl, rfl, ?_⟩
          · exact openedStore?_eq_some_iff.mpr
              ⟨List.mem_append_right _ List.mem_cons_self, List.getElem?_concat_length⟩
          · exact fun remark member => List.mem_append_right _ (List.mem_map_of_mem member)
        · rw [fault] at faultless
          cases faultless
  | @again _ s opened there =>
      obtain ⟨isOpened, stored⟩ := openedStore?_eq_some_iff.mp opened
      subst there
      rw [Operation.action, run_reloadStore opened] at ran
      dsimp only at ran
      split at ran
      · cases ran
      · next faultless =>
        cases ran
        refine ⟨faultless, { s with rules := (s.place.load w.files).rules }, ?_, rfl, rfl,
          fun remark member => ?_⟩
        · exact openedStore?_eq_some_iff.mpr
            ⟨isOpened, List.getElem?_set_self (List.getElem?_eq_some_iff.mp stored).1⟩
        · exact List.mem_append_right _ (List.mem_map_of_mem (List.mem_append_right _ member))

/-- In every session, a directory is loaded without a failure exactly if it has no fatal rule file.
Then every rule file that is left out is logged, and the rules are those that are loaded wherever
the files that are left out are not there. -/
theorem broken_files (session : List Operation) (index : Nat) (op : Operation) (path : FilePath)
    (isDirectory : (after session).files.find? path = .ok (some .directory))
    (loads : LoadsPlace (after session) (.directory path) index op) :
    let w := after session
    let place := RulesPlace.directory path
    ((w.run op.action).1 = .ok () ↔ ¬ place.HasFatalFile w.files) ∧
    ∀ w₁, w.run op.action = (.ok (), w₁) →
      ∃ s, w₁.openedStore? index = some s ∧ s.place = place ∧ place.Holds w.files s.rules ∧
        (∀ name remark, RulesPlace.IsRuleFile name → (place.child? w.files name).isSome = true →
          place.leftOut? w.files name = some remark →
          (StoreRemark.file name remark).line ∈ w₁.log) ∧
        ∀ (session' : List Operation) (index' : Nat) (op' : Operation) (w₂ : Workspace),
          (∀ name, RulesPlace.IsRuleFile name → place.child? (after session').files name =
            if (place.leftOut? w.files name).isSome then none else place.child? w.files name) →
          LoadsPlace (after session') place index' op' →
          (after session').run op'.action = (.ok (), w₂) →
          (w₂.openedStore? index').map (·.rules) = some s.rules := by
  intro w place
  have sound : w.Sound := sound_after session
  have seen : place.find? w.files = .ok (some .directory) := isDirectory
  have faultless_iff : (place.load w.files).fault = none ↔ ¬ place.HasFatalFile w.files := by
    rw [RulesPlace.load_fault_eq_none_iff sound.files]
    exact and_iff_right ⟨_, seen⟩
  refine ⟨(run_eq_ok_iff loads seen).trans faultless_iff, fun w₁ ran => ?_⟩
  obtain ⟨faultless, s, opened, there, rules, logged⟩ := store_of_run_eq_ok loads ran
  have holds := RulesPlace.holds_load sound.files faultless
  refine ⟨s, opened, there, rules ▸ holds, fun name remark ruleFile present leftOut => ?_,
    fun session' index' op' w₂ absent loads' ran' => ?_⟩
  · have goesOn := (RulesPlace.goesOn_iff sound.files).mpr (faultless_iff.mp faultless)
    have member := (RulesPlace.mem_files sound.files (f := (name, place.openFile w.files name))).mpr
      ⟨ruleFile, present, rfl⟩
    have remarked := (loadFiles_of_goesOn goesOn).2.2 _ member remark leftOut
    exact logged _ ((RulesPlace.load_of_seen sound.files seen).2.2 _ _ remarked)
  · have sound' := sound_after session'
    obtain ⟨faultless', s', opened', -, rules', -⟩ := store_of_run_eq_ok loads' ran'
    have holds' := RulesPlace.holds_load sound'.files faultless'
    have without := RulesPlace.holds_of_absent sound.files sound'.files absent holds
    rw [opened', Option.map_some, rules', rules,
      RulesPlace.holds_unique sound'.files sound'.files (fun _ => rfl) holds' without]

/-- A rule file that is no YAML, and one behind it that is a rule file. -/
def unclosedList : List Operation :=
  [.writeFile (.ofText "rules/b.yaml")
      (Utf8.encode "rules: [{id: 1, name: b, message: m, pattern: x}]"),
    .writeFile (.ofText "rules/a.yaml") (Utf8.encode "rules: [")]

/-- The file that is no YAML is logged and left out. -/
theorem broken_files_unclosedList :
    ∃ w₁ s, (after unclosedList).run (openStore (some (.ofText "rules"))) = (.ok (), w₁) ∧
      w₁.openedStore? 0 = some s ∧ s.rules = [⟨"1", "b", "m", "x", .warning, true⟩] ∧
      LogLine.error "Failed to parse a.yaml" ∈ w₁.log := by
  have seen : RulesPlace.find? (after unclosedList).files (.directory (.ofText "rules")) =
      .ok (some .directory) := by
    decide +kernel
  have loading : (RulesPlace.load (after unclosedList).files (.directory (.ofText "rules"))).fault =
        none ∧
      (RulesPlace.load (after unclosedList).files (.directory (.ofText "rules"))).rules =
        [⟨"1", "b", "m", "x", .warning, true⟩] := by
    rw [RulesPlace.load, seen, RulesPlace.files_of_increasing [Text.ofString "rules"]
      (by decide +kernel) (by decide +kernel)]
    decide +kernel
  have ran := run_openStore (after unclosedList) (some (.ofText "rules"))
  dsimp only [Option.map_some, Option.getD_some] at ran
  rw [RulesPlace.openAt_of_directory seen, loading.1, loading.2] at ran
  obtain ⟨s, opened, -, -, logged, -⟩ :=
    (broken_files unclosedList _ _ (.ofText "rules") seen (.opening rfl)).2 _ ran
  have line := logged (Text.ofString "a.yaml") .malformed (.inl (by decide)) (by decide +kernel)
    (by decide +kernel)
  cases opened
  exact ⟨_, _, ran, rfl, rfl, line⟩

/-- A rule file that is not UTF-8, and one in front of it that is a rule file. -/
def undecodableFile : List Operation :=
  [.writeFile (.ofText "rules/b.yaml") [0xff],
    .writeFile (.ofText "rules/a.yaml")
      (Utf8.encode "rules: [{id: 1, name: a, message: m, pattern: x}]")]

/-- The file that is not UTF-8 is not left out: the store cannot be opened. -/
theorem undecodable_file_stops :
    (after undecodableFile).files.find? (.ofText "rules") = .ok (some .directory) ∧
      ((after undecodableFile).run (openStore (some (.ofText "rules")))).1 =
        .error (.store (.file (.encoding ⟨0, [0xff], .start⟩))) := by
  have seen : RulesPlace.find? (after undecodableFile).files (.directory (.ofText "rules")) =
      .ok (some .directory) := by
    decide +kernel
  have loading : (RulesPlace.load (after undecodableFile).files
      (.directory (.ofText "rules"))).fault = some (.file (.encoding ⟨0, [0xff], .start⟩)) := by
    rw [RulesPlace.load, seen, RulesPlace.files_of_increasing [Text.ofString "rules"]
      (by decide +kernel) (by decide +kernel)]
    decide +kernel
  have ran := run_openStore (after undecodableFile) (some (.ofText "rules"))
  dsimp only [Option.map_some, Option.getD_some] at ran
  rw [RulesPlace.openAt_of_directory seen, loading] at ran
  exact ⟨seen, by rw [ran]⟩

/-- What a fault leaves of the rules of a store: nothing, if its place cannot be looked at, and
otherwise the rules of the files in front of the first whose reading breaks off. -/
theorem load_of_fault {tree : FileTree} {fault : StoreFault} (sound : tree.Sound)
    (faulty : (place.load tree).fault = some fault) :
    (∃ unseen, place.find? tree = .error unseen ∧ fault = .place unseen) ∨
    ∃ front f rest broken, fault = .file broken ∧ place.files tree = front ++ f :: rest ∧
      (∀ g ∈ front, StoredFile.GoesOn g.2) ∧ StoredFile.Ends f.2 broken ∧
      (place.load tree).rules =
        Rule.firstOfEachId (front.flatMap fun g => StoredFile.rules g.2) := by
  cases seen : place.find? tree with
  | error unseen =>
      rw [RulesPlace.load_of_unseen seen] at faulty
      cases faulty
      exact .inl ⟨unseen, rfl, rfl⟩
  | ok node =>
      obtain ⟨rules, sameFault, -⟩ := RulesPlace.load_of_seen sound seen
      rw [sameFault] at faulty
      rcases goesOn_or_first_end (place.files tree) with goesOn | ⟨front, f, rest, broken, files,
        goesOn, ends⟩
      · rw [(loadFiles_of_goesOn goesOn).2.1] at faulty
        cases faulty
      · rw [files, (loadFiles_of_ends goesOn ends).2] at faulty
        cases faulty
        refine .inr ⟨front, f, rest, broken, rfl, files, goesOn, ends, ?_⟩
        rw [rules, files, (loadFiles_of_ends goesOn ends).1]

/-- In every session, a store that is loaded once more and fails has the rules that it had before,
if its place cannot be looked at. Otherwise the reading of a rule file breaks off, the rules are
those of the files in front of the first such file, and the services on the store answer with
them. -/
theorem failed_reload (session : List Operation) (index : Nat) (e : WorkspaceError)
    (w' : Workspace) (failed : (after session).run (reloadStore index) = (.error e, w')) :
    let w := after session
    (w.openedStore? index = none ∧ e = .notOpen ∧ w' = w) ∨
    ∃ s, index ∈ w.opened ∧ w.stores[index]? = some s ∧ w'.files = w.files ∧
      ((∃ unseen, e = .store (.place unseen) ∧ w'.stores = w.stores) ∨
      ∃ front f rest broken rules, e = .store (.file broken) ∧
        s.place.files w.files = front ++ f :: rest ∧ (∀ g ∈ front, StoredFile.GoesOn g.2) ∧
        StoredFile.Ends f.2 broken ∧
        rules = Rule.firstOfEachId (front.flatMap fun g => StoredFile.rules g.2) ∧
        w'.stores = w.stores.set index { s with rules } ∧
        ∀ service, w'.service = some service → service.rules = none →
          service.store = some index → (w'.run snapshot).1 = .ok rules) := by
  have sound : (after session).Sound := sound_after session
  revert failed sound
  generalize after session = w
  intro failed sound
  cases found : w.openedStore? index with
  | none =>
      rw [run_reloadStore_of_none found] at failed
      cases failed
      exact .inl ⟨found, rfl, rfl⟩
  | some s =>
      obtain ⟨opened, there⟩ := openedStore?_eq_some_iff.mp found
      obtain ⟨inRange, isThere⟩ := List.getElem?_eq_some_iff.mp there
      rw [run_reloadStore found] at failed
      dsimp only at failed
      split at failed
      · next fault faulty =>
        cases failed
        refine .inr ⟨s, opened, there, rfl, ?_⟩
        have faulty : (s.place.load w.files).fault = some fault := faulty
        rcases load_of_fault sound.files faulty with ⟨unseen, notSeen, rfl⟩ |
          ⟨front, f, rest, broken, rfl, files, goesOn, ends, rules⟩
        · refine .inl ⟨unseen, rfl, ?_⟩
          have noRules : s.rules = [] :=
            (sound.stores s (List.mem_of_getElem? there)).unseen _ _ notSeen
          have same : { s with rules := (s.reload w.files).rules } = s := by
            show { s with rules := (s.place.load w.files).rules } = s
            rw [RulesPlace.load_of_unseen notSeen, ← noRules]
          show w.stores.set index { s with rules := (s.reload w.files).rules } = w.stores
          rw [same, ← isThere, List.set_getElem_self]
        · refine .inr ⟨front, f, rest, broken, _, rfl, files, goesOn, ends, rules, rfl, ?_⟩
          exact fun service served free bound => congrArg Prod.fst
            (run_snapshot_of_store served free bound (List.getElem?_set_self inRange))
      · cases failed

/-- A rule file with one rule. -/
def soundFile : List Operation :=
  [.writeFile (.ofText "rules/a.yaml")
    (Utf8.encode "rules: [{id: 1, name: a, message: m, pattern: x}]")]

/-- The store of its directory has the rule. -/
theorem run_openStore_soundFile :
    (after soundFile).run (openStore (some (.ofText "rules"))) =
      (.ok (), { after soundFile with
        log := [.loading "rules", .file "a.yaml" (.loaded 1), .total 1 1].map StoreRemark.line
        stores := [⟨.directory (.ofText "rules"), [⟨"1", "a", "m", "x", .warning, true⟩]⟩]
        opened := [0] }) := by
  have seen : RulesPlace.find? (after soundFile).files (.directory (.ofText "rules")) =
      .ok (some .directory) := by
    decide +kernel
  have loading : RulesPlace.load (after soundFile).files (.directory (.ofText "rules")) =
      ⟨[⟨"1", "a", "m", "x", .warning, true⟩],
        [.loading "rules", .file "a.yaml" (.loaded 1), .total 1 1], none⟩ := by
    rw [RulesPlace.load, seen, RulesPlace.files_of_increasing [Text.ofString "rules"]
      (by decide +kernel) (by decide +kernel)]
    decide +kernel
  have ran := run_openStore (after soundFile) (some (.ofText "rules"))
  dsimp only [Option.map_some, Option.getD_some] at ran
  rw [RulesPlace.openAt_of_directory seen, loading] at ran
  exact ran

/-- A service on the store of a directory whose one rule file is not UTF-8 any more. -/
def spoiledFile : List Operation :=
  soundFile ++ [.openStore (some (.ofText "rules")), .openService none true (some 1),
    .writeFile (.ofText "rules/a.yaml") [0xff]]

/-- The service, its store, and the files that loading the store once more reads. -/
theorem after_spoiledFile :
    (after spoiledFile).service = some ⟨none, some 0, some 1⟩ ∧
      (after spoiledFile).opened = [0] ∧
      (after spoiledFile).stores =
        [⟨.directory (.ofText "rules"), [⟨"1", "a", "m", "x", .warning, true⟩]⟩] ∧
      RulesPlace.files (after spoiledFile).files (.directory (.ofText "rules")) =
        [(Text.ofString "a.yaml", .ok [0xff])] ∧
      RulesPlace.find? (after spoiledFile).files (.directory (.ofText "rules")) =
        .ok (some .directory) := by
  have reached : after spoiledFile = Operation.step
      (Operation.step ((after soundFile).run (openStore (some (.ofText "rules")))).2
        (.openService none true (some 1)))
      (.writeFile (.ofText "rules/a.yaml") [0xff]) := rfl
  rw [run_openStore_soundFile] at reached
  rw [reached]
  refine ⟨by decide +kernel, by decide +kernel, by decide +kernel, ?_, by decide +kernel⟩
  rw [RulesPlace.files_of_increasing [Text.ofString "rules"] (by decide +kernel)
    (by decide +kernel)]
  decide +kernel

theorem run_reloadStore_spoiledFile :
    ∃ w', (after spoiledFile).run (reloadStore 0) =
        (.error (.store (.file (.encoding ⟨0, [0xff], .start⟩))), w') ∧
      w'.service = some ⟨none, some 0, some 1⟩ ∧
      w'.stores = [⟨.directory (.ofText "rules"), []⟩] := by
  obtain ⟨service, opened, stores, files, seen⟩ := after_spoiledFile
  have loading : RulesPlace.load (after spoiledFile).files (.directory (.ofText "rules")) =
      ⟨[], [.loading "rules"], some (.file (.encoding ⟨0, [0xff], .start⟩))⟩ := by
    rw [RulesPlace.load, seen, files]
    decide +kernel
  have ran := run_reloadStore (openedStore?_eq_some_iff.mpr
    ⟨by rw [opened]; exact List.mem_cons_self, by rw [stores]; rfl⟩)
  dsimp only [RuleStore.reload] at ran
  rw [loading, stores] at ran
  exact ⟨_, ran, service, rfl⟩

/-- The store has one rule, and when it is loaded once more it fails and loses that rule. -/
theorem failed_reload_loses_rules :
    (after spoiledFile).stores.map (·.rules) = [[⟨"1", "a", "m", "x", .warning, true⟩]] ∧
      ∃ w', (after spoiledFile).run (reloadStore 0) =
          (.error (.store (.file (.encoding ⟨0, [0xff], .start⟩))), w') ∧
        w'.stores.map (·.rules) = [[]] := by
  obtain ⟨w', ran, -, stores⟩ := run_reloadStore_spoiledFile
  exact ⟨by rw [after_spoiledFile.2.2.1]; rfl, w', ran, by rw [stores]; rfl⟩

/-- No file is in front of the one that is not UTF-8, so the service answers without rules. -/
theorem failed_reload_spoiledFile :
    ∃ w', (after spoiledFile).run (reloadStore 0) =
        (.error (.store (.file (.encoding ⟨0, [0xff], .start⟩))), w') ∧
      (w'.run snapshot).1 = .ok [] := by
  obtain ⟨w', ran, service, -⟩ := run_reloadStore_spoiledFile
  obtain ⟨-, -, stores, files, -⟩ := after_spoiledFile
  refine ⟨w', ran, ?_⟩
  rcases failed_reload spoiledFile 0 _ w' ran with ⟨-, notOpen, -⟩ | ⟨s, -, there, -,
    ⟨unseen, isUnseen, -⟩ | ⟨front, f, rest, broken, rules, -, split, -, -, rfl, -, served⟩⟩
  · cases notOpen
  · cases isUnseen
  · rw [stores] at there
    cases there
    rw [files] at split
    cases front with
    | nil => exact served _ service rfl rfl
    | cons g front => simp at split

end Workspace

end NotebookAudit

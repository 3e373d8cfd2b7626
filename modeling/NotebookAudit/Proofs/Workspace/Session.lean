import NotebookAudit.Proofs.Workspace.Operations

/-!
Sessions: operations on a workspace one after another.

A session starts in the empty workspace and goes on after operations that fail. What one operation
may change (`Operation.step_cases`) keeps the files sound and the identifiers of every store
distinct (`Operation.step_sound`), and so does every session (`Workspace.sound_after`).
-/

namespace NotebookAudit

/-- An operation on a workspace, with what it is given. -/
inductive Operation where
  | writeFile (path : FilePath) (content : Bytes)
  | makeDirectory (path : FilePath)
  | delete (path : FilePath)
  | readText (path : FilePath)
  | setEnvironment (name : Text) (value : Option Text)
  | openConfig (path : FilePath)
  | loadConfig
  | saveConfig
  | setRulesDirectory (value : Json)
  | rulesDirectory
  | workers
  | openStore (directory : Option FilePath)
  | reloadStore (index : Nat)
  | openService (rules : Option (List Rule)) (useStore : Bool) (workers : Option Int)
  | snapshot
  | compile (rules : Option (List Rule))
  | analyze (document : Document) (rules : Option (List Rule)) (useCompiled : Bool)
  | analyzeFile (path : FilePath) (name : Text) (rules : Option (List Rule)) (useCompiled : Bool)
  | analyzeDocuments (documents : List Document) (rules : Option (List Rule))
  | analyzePaths (paths : List FilePath) (rules : Option (List Rule))

namespace Operation

/-- What an operation does; what it gives does not matter here. -/
def action : Operation → WorkspaceM Unit
  | writeFile path content => Workspace.writeFile path content
  | makeDirectory path => Workspace.makeDirectory path
  | delete path => Workspace.delete path
  | readText path => do let _ ← Workspace.readText path
  | setEnvironment name value => Workspace.setEnvironment name value
  | openConfig path => Workspace.openConfig path
  | loadConfig => do let _ ← Workspace.loadConfig
  | saveConfig => Workspace.saveConfig
  | setRulesDirectory value => Workspace.setRulesDirectory value
  | rulesDirectory => do let _ ← Workspace.rulesDirectory
  | workers => do let _ ← Workspace.workers
  | openStore directory => Workspace.openStore directory
  | reloadStore index => Workspace.reloadStore index
  | openService rules useStore count => Workspace.openService rules useStore count
  | snapshot => do let _ ← Workspace.snapshot
  | compile rules => do let _ ← Workspace.compile rules
  | analyze document rules useCompiled => do
    let _ ← Workspace.analyze document rules useCompiled
  | analyzeFile path name rules useCompiled => do
    let _ ← Workspace.analyzeFile path name rules useCompiled
  | analyzeDocuments documents rules => do let _ ← Workspace.analyzeDocuments documents rules
  | analyzePaths paths rules => do let _ ← Workspace.analyzePaths paths rules

/-- The workspace after an operation. -/
def step (w : Workspace) (op : Operation) : Workspace := (w.run op.action).2

end Operation

/-- The workspace after a session. -/
def Workspace.after (session : List Operation) : Workspace := session.foldl Operation.step .empty

/-! ## Steps -/

/-- What one operation may change. -/
theorem Operation.step_cases (w : Workspace) (op : Operation) :
    ChangesFiles w (op.step w) ∨ OpensStores w (op.step w) ∨
      ∃ index, op = .reloadStore index ∧ ReloadsStore index w (op.step w) := by
  have quiet {m : WorkspaceM Unit} (leads : Leads Quiet m) : OpensStores w (w.run m).2 :=
    Quiet.opensStores _ _ (leads w)
  have reads {α : Type} {m : WorkspaceM α} (leads : Leads Quiet m) :
      OpensStores w (w.run (do let _ ← m)).2 := quiet (.bind leads fun _ => .pure _)
  have opens {α : Type} {m : WorkspaceM α} (leads : Leads OpensStores m) :
      Leads OpensStores (do let _ ← m) := .bind leads fun _ => .pure _
  have log := Quiet.ignoresLog
  have snapshot := Workspace.snapshot_opens
  cases op with
  | writeFile path content => exact .inl (Workspace.writeFile_changes path content w)
  | makeDirectory path => exact .inl (Workspace.makeDirectory_changes path w)
  | delete path => exact .inl (Workspace.delete_changes path w)
  | saveConfig => exact .inl (Workspace.saveConfig_changes w)
  | setRulesDirectory value => exact .inl (Workspace.setRulesDirectory_changes value w)
  | readText path => exact .inr (.inl (reads (Workspace.readText_leads path)))
  | setEnvironment name value =>
      exact .inr (.inl (quiet (Workspace.setEnvironment_leads (fun _ _ => ⟨rfl, rfl, rfl⟩) name value)))
  | openConfig path =>
      exact .inr (.inl (quiet (Workspace.openConfig_leads log (fun _ _ _ => ⟨rfl, rfl, rfl⟩) path)))
  | loadConfig => exact .inr (.inl (reads (Workspace.loadConfig_leads log)))
  | rulesDirectory => exact .inr (.inl (reads Workspace.rulesDirectory_leads))
  | workers => exact .inr (.inl (reads (Workspace.workers_leads log)))
  | openService rules useStore count =>
      exact .inr (.inl (quiet
        (Workspace.openService_leads log (fun _ _ => ⟨rfl, rfl, rfl⟩) rules useStore count)))
  | openStore directory => exact .inr (.inl (Workspace.openStore_opens directory w))
  | snapshot => exact .inr (.inl (opens snapshot w))
  | compile rules =>
      exact .inr (.inl (opens (Workspace.compile_leads snapshot
        (fun _ _ => Quiet.opensStores _ _ ⟨rfl, rfl, rfl⟩) rules) w))
  | analyze document rules useCompiled =>
      exact .inr (.inl (opens (Workspace.analyze_leads snapshot document rules useCompiled) w))
  | analyzeFile path name rules useCompiled =>
      exact .inr (.inl (opens (Workspace.analyzeFile_leads snapshot path name rules useCompiled) w))
  | analyzeDocuments documents rules =>
      exact .inr (.inl (opens (Workspace.analyzeDocuments_leads snapshot documents rules) w))
  | analyzePaths paths rules =>
      exact .inr (.inl (opens (Workspace.analyzePaths_leads snapshot paths rules) w))
  | reloadStore index =>
      rcases Workspace.reloadStore_cases w index with quiet | reloads
      · exact .inl (Quiet.changesFiles _ _ quiet)
      · exact .inr (.inr ⟨index, rfl, reloads⟩)

/-- No identifier comes twice in the store, and it has no rules if its place cannot be looked at. -/
structure RuleStore.Sound (s : RuleStore) : Prop where
  distinct : (s.rules.map (·.id)).Nodup
  unseen : ∀ tree e, s.place.find? tree = .error e → s.rules = []

theorem RuleStore.Sound.of_load {tree : FileTree} (sound : tree.Sound) (place : RulesPlace) :
    RuleStore.Sound ⟨place, (place.load tree).rules⟩ where
  distinct := RulesPlace.load_distinct sound place
  unseen _ _ unseen := RulesPlace.load_rules_of_unseen unseen sound

theorem RuleStore.IsLoaded.sound {tree : FileTree} {s : RuleStore} (loaded : s.IsLoaded tree)
    (sound : tree.Sound) : s.Sound := by
  obtain ⟨remarks, loaded⟩ := loaded
  have same : s = ⟨s.place, (s.place.load tree).rules⟩ := by rw [loaded]
  rw [same]
  exact .of_load sound s.place

theorem RuleStore.IsLoaded.holds {tree : FileTree} {s : RuleStore} (loaded : s.IsLoaded tree)
    (sound : tree.Sound) : s.place.Holds tree s.rules := by
  obtain ⟨remarks, loaded⟩ := loaded
  have faultless : (s.place.load tree).fault = none := by rw [loaded]
  have holds := RulesPlace.holds_load sound faultless
  rw [loaded] at holds
  exact holds

/-- The files and all stores are sound. -/
structure Workspace.Sound (w : Workspace) : Prop where
  files : w.files.Sound
  stores : ∀ s ∈ w.stores, s.Sound

/-- Every operation keeps a workspace sound. -/
theorem Operation.step_sound {w : Workspace} (sound : w.Sound) (op : Operation) :
    (op.step w).Sound := by
  rcases op.step_cases w with changes | opens | ⟨index, -, s, there, files, stores⟩
  · refine ⟨changes.sound sound.files, ?_⟩
    rw [changes.stores]
    exact sound.stores
  · obtain ⟨files, opened, stores, loaded⟩ := opens
    refine ⟨files ▸ sound.files, fun s member => ?_⟩
    rw [stores] at member
    rcases List.mem_append.mp member with old | new
    · exact sound.stores s old
    · exact (loaded s new).sound sound.files
  · refine ⟨files ▸ sound.files, fun t member => ?_⟩
    rw [stores] at member
    rcases List.mem_or_eq_of_mem_set member with old | rfl
    · exact sound.stores t old
    · exact .of_load sound.files s.place

/-- A sound workspace stays sound over operations one after another. -/
theorem Operation.foldl_sound {w : Workspace} (sound : w.Sound) (session : List Operation) :
    (session.foldl Operation.step w).Sound := by
  induction session generalizing w with
  | nil => exact sound
  | cons op rest ih => exact ih (op.step_sound sound)

/-- Every session leaves a sound workspace. -/
theorem Workspace.sound_after (session : List Operation) : (after session).Sound :=
  Operation.foldl_sound ⟨.empty, List.forall_mem_nil _⟩ session

end NotebookAudit

import NotebookAudit.Proofs.Workspace.Session

/-!
Services and their stores in sessions.

Most operations leave the service, the stores and the compiled rules as they are, except that they open
further stores, of which one may become the store of a service that had none (`GoesOn`). The others
change one thing each: a service is opened, rules are compiled, or a store that is not a service's own is
loaded once more (`Operation.step_spec`).
-/

namespace NotebookAudit

/-- Nothing is taken away: the stores and the compiled rules stay, and so does the service, which may be
given a store if it had neither rules nor a store. Whichever store is opened is a new one, and a service
keeps the one that it opens to itself. -/
structure GoesOn (w after : Workspace) : Prop where
  stores : ∃ added, after.stores = w.stores ++ added
  opened : ∃ new, after.opened = w.opened ++ new ∧
    ∀ index ∈ new, w.stores.length ≤ index ∧ index < after.stores.length
  service : after.service = w.service ∨
    ∃ service index, w.service = some service ∧ service.rules = none ∧ service.store = none ∧
      after.service = some { service with store := some index } ∧
      w.stores.length ≤ index ∧ index < after.stores.length ∧
      (index ∈ after.opened → index ∈ w.opened)
  compiled : after.compiled = w.compiled

theorem GoesOn.length_le {w after : Workspace} (goesOn : GoesOn w after) :
    w.stores.length ≤ after.stores.length := by
  obtain ⟨added, stores⟩ := goesOn.stores
  rw [stores, List.length_append]
  exact Nat.le_add_right _ _

/-- What leaves the stores, the service and the compiled rules as they are. -/
theorem GoesOn.of_same {w after : Workspace} (stores : after.stores = w.stores)
    (opened : after.opened = w.opened) (service : after.service = w.service)
    (compiled : after.compiled = w.compiled) : GoesOn w after :=
  ⟨⟨[], by rw [stores, List.append_nil]⟩,
    ⟨[], by rw [opened, List.append_nil], List.forall_mem_nil _⟩, .inl service, compiled⟩

/-- A store that is opened and is not new was opened before. -/
theorem GoesOn.mem_opened_of_lt {w after : Workspace} (goesOn : GoesOn w after) {index : Nat}
    (member : index ∈ after.opened) (old : index < w.stores.length) : index ∈ w.opened := by
  obtain ⟨new, opened, isNew⟩ := goesOn.opened
  rw [opened, List.mem_append] at member
  exact member.resolve_right fun member => absurd old (Nat.not_lt.mpr (isNew index member).1)

theorem GoesOn.trans {w mid after : Workspace} (first : GoesOn w mid) (second : GoesOn mid after) :
    GoesOn w after := by
  have grows := first.length_le
  have grows' := second.length_le
  refine ⟨?_, ?_, ?_, second.compiled.trans first.compiled⟩
  · obtain ⟨added, stores⟩ := first.stores
    obtain ⟨added', stores'⟩ := second.stores
    exact ⟨added ++ added', by rw [stores', stores, List.append_assoc]⟩
  · obtain ⟨new, opened, isNew⟩ := first.opened
    obtain ⟨new', opened', isNew'⟩ := second.opened
    refine ⟨new ++ new', by rw [opened', opened, List.append_assoc], fun index member => ?_⟩
    rcases List.mem_append.mp member with member | member
    · exact ⟨(isNew index member).1, Nat.lt_of_lt_of_le (isNew index member).2 grows'⟩
    · exact ⟨Nat.le_trans grows (isNew' index member).1, (isNew' index member).2⟩
  · rcases first.service with same | ⟨service, index, served, free, unbound, bound, new, inRange, own⟩
    · rcases second.service with same' | ⟨service, index, served, free, unbound, bound, new, inRange, own⟩
      · exact .inl (same'.trans same)
      · refine .inr ⟨service, index, same ▸ served, free, unbound, bound, Nat.le_trans grows new,
          inRange, fun member => ?_⟩
        obtain ⟨opened, isOpened, isOld⟩ := first.opened
        have before := own member
        rw [isOpened, List.mem_append] at before
        exact before.resolve_right fun member => absurd (isOld index member).2 (Nat.not_lt.mpr new)
    · rcases second.service with same' | ⟨service', index', served', -, unbound', -⟩
      · exact .inr ⟨service, index, served, free, unbound, same'.trans bound, new,
          Nat.lt_of_lt_of_le inRange grows', fun member => own (second.mem_opened_of_lt member inRange)⟩
      · rw [bound] at served'
        cases served'
        cases unbound'

instance : IsPreorder Workspace GoesOn where
  refl _ := .of_same rfl rfl rfl rfl
  trans _ _ _ := GoesOn.trans

theorem GoesOn.ignoresLog : IgnoresLog GoesOn := fun _ _ => .of_same rfl rfl rfl rfl

namespace Workspace

variable {w : Workspace} {service : Service}

/-! ## Snapshots -/

/-- A service that is bound to rules answers with them. -/
theorem run_snapshot_of_rules {rules : List Rule} (served : w.service = some service)
    (fixed : service.rules = some rules) : w.run snapshot = (.ok rules, w) := by
  simp only [snapshot, theService, run_bind, run_get, served, require, run_pure, fixed]

/-- A service on a store that is there answers with the rules of the store. -/
theorem run_snapshot_of_store {index : Nat} {s : RuleStore} (served : w.service = some service)
    (free : service.rules = none) (bound : service.store = some index)
    (there : w.stores[index]? = some s) : w.run snapshot = (.ok s.rules, w) := by
  simp only [snapshot, theService, run_bind, run_get, served, require, run_pure, free,
    serviceStore, bound, there]

theorem run_snapshot_of_missing {index : Nat} (served : w.service = some service)
    (free : service.rules = none) (bound : service.store = some index)
    (missing : w.stores[index]? = none) : w.run snapshot = (.error .notOpen, w) := by
  simp only [snapshot, theService, run_bind, run_get, served, require, run_pure, free,
    serviceStore, bound, missing, run_throw]

theorem run_snapshot_of_none (missing : w.service = none) :
    w.run snapshot = (.error .notOpen, w) := by
  simp only [snapshot, theService, run_bind, run_get, missing, require, run_throw]

/-- A service with neither rules nor a store opens a store where the environment says, and keeps it if
the loading has no fault. -/
theorem run_snapshot_of_unbound (served : w.service = some service) (free : service.rules = none)
    (unbound : service.store = none) :
    w.run snapshot =
      let place := w.environment.rulesPlace
      let loading := RuleStore.openAt w.files place
      let logged := { w with log := w.log ++ loading.remarks.map StoreRemark.line }
      match loading.fault with
      | some fault => (.error (.store fault), logged)
      | none =>
        (.ok loading.rules, { logged with
          stores := w.stores ++ [⟨place, loading.rules⟩]
          service := some { service with store := some w.stores.length } }) := by
  simp only [snapshot, theService, run_bind, run_get, served, require, run_pure, free, serviceStore,
    unbound, run_addStore]
  cases (RuleStore.openAt w.files w.environment.rulesPlace).fault with
  | some fault => rfl
  | none => simp

/-- A service that answers has the rules that it answers with, or its store has. -/
theorem source_of_run_snapshot {w' : Workspace} {rules : List Rule}
    (answered : w.run snapshot = (.ok rules, w')) :
    ∃ service, w'.service = some service ∧ (service.rules = some rules ∨
      service.rules = none ∧ ∃ index s, service.store = some index ∧ w'.stores[index]? = some s ∧
        s.rules = rules) := by
  cases served : w.service with
  | none =>
      rw [run_snapshot_of_none served] at answered
      cases answered
  | some service =>
      cases free : service.rules with
      | some fixed =>
          rw [run_snapshot_of_rules served free] at answered
          cases answered
          exact ⟨service, served, .inl free⟩
      | none =>
          cases unbound : service.store with
          | some index =>
              cases there : w.stores[index]? with
              | some s =>
                  rw [run_snapshot_of_store served free unbound there] at answered
                  cases answered
                  exact ⟨service, served, .inr ⟨free, index, s, unbound, there, rfl⟩⟩
              | none =>
                  rw [run_snapshot_of_missing served free unbound there] at answered
                  cases answered
          | none =>
              rw [run_snapshot_of_unbound served free unbound] at answered
              dsimp only at answered
              split at answered
              · cases answered
              · cases answered
                exact ⟨_, rfl, .inr ⟨free, _, _, rfl, List.getElem?_concat_length, rfl⟩⟩

/-! ## Operations that open stores -/

theorem snapshot_goesOn : Leads GoesOn snapshot := by
  intro w
  cases served : w.service with
  | none =>
      rw [run_snapshot_of_none served]
      exact refl_of GoesOn w
  | some service =>
      cases free : service.rules with
      | some rules =>
          rw [run_snapshot_of_rules served free]
          exact refl_of GoesOn w
      | none =>
          cases unbound : service.store with
          | some index =>
              cases there : w.stores[index]? with
              | some s =>
                  rw [run_snapshot_of_store served free unbound there]
                  exact refl_of GoesOn w
              | none =>
                  rw [run_snapshot_of_missing served free unbound there]
                  exact refl_of GoesOn w
          | none =>
              rw [run_snapshot_of_unbound served free unbound]
              dsimp only
              split
              · exact GoesOn.ignoresLog w _
              · refine ⟨⟨_, rfl⟩, ⟨[], (List.append_nil _).symm, List.forall_mem_nil _⟩,
                  .inr ⟨service, _, served, free, unbound, rfl, Nat.le_refl _, ?_, id⟩, rfl⟩
                rw [List.length_append]
                exact Nat.lt_succ_self _

theorem openStore_goesOn (directory : Option FilePath) : Leads GoesOn (openStore directory) := by
  intro w
  rw [run_openStore]
  dsimp only
  split
  · exact GoesOn.ignoresLog w _
  · refine ⟨⟨_, rfl⟩, ⟨_, rfl, List.forall_mem_singleton.mpr ⟨Nat.le_refl _, ?_⟩⟩, .inl rfl, rfl⟩
    rw [List.length_append]
    exact Nat.lt_succ_self _

/-! ## Opening a service and compiling rules -/

theorem run_workersOf (w : Workspace) (settings : Settings) :
    (∃ e, w.run (workersOf settings) = (.error e, w)) ∨
      ∃ count? log, w.run (workersOf settings) = (.ok count?, { w with log }) := by
  simp only [workersOf, run_bind, run_get]
  cases settings.workers w.environment with
  | error e => exact .inl ⟨.config e, rfl⟩
  | ok workers => exact .inr ⟨workers.count?, _, rfl⟩

/-- A service is opened, unless the number of workers cannot be told; nothing else is changed. -/
theorem run_openService (w : Workspace) (rules : Option (List Rule)) (useStore : Bool)
    (count : Option Int) :
    (∃ e, w.run (openService rules useStore count) = (.error e, w)) ∨
      ∃ workers log, w.run (openService rules useStore count) =
        (.ok (), { w with
          log, service := some ⟨rules, if useStore then w.store else none, workers⟩ }) := by
  cases count with
  | some n => exact .inr ⟨some n, w.log, rfl⟩
  | none =>
      simp only [openService, run_bind]
      rcases run_workersOf w .default with ⟨e, failed⟩ | ⟨count?, log, told⟩
      · rw [failed]
        exact .inl ⟨e, rfl⟩
      · rw [told]
        exact .inr ⟨count?, log, rfl⟩

/-- Rules that are compiled are kept, after what their snapshot leads to. -/
theorem run_compile (w : Workspace) (rules : Option (List Rule)) :
    ∃ mid, GoesOn w mid ∧
      ((∃ e, w.run (compile rules) = (.error e, mid)) ∨
        ∃ set, w.run (compile rules) = (.ok set, { mid with compiled := some set })) := by
  have goesOn := compileRules_leads snapshot_goesOn rules w
  refine ⟨_, goesOn, ?_⟩
  rw [compile, run_bind]
  rcases w.run (compileRules rules) with ⟨result, mid⟩
  cases result with
  | error e => exact .inl ⟨e, rfl⟩
  | ok set => exact .inr ⟨set, rfl⟩

end Workspace

/-! ## Steps -/

namespace Operation

/-- The operation opens a service. -/
def opensService : Operation → Bool
  | openService _ _ _ => true
  | _ => false

/-- The operation compiles rules and keeps them. -/
def compiles : Operation → Bool
  | compile _ => true
  | _ => false

/-- What one operation does to the service, the stores and the compiled rules. -/
inductive Step (w : Workspace) : Operation → Workspace → Prop
  | goesOn {op : Operation} {after : Workspace} (goesOn : GoesOn w after) : Step w op after
  | opensService {rules : Option (List Rule)} {useStore : Bool} {count : Option Int}
    {log : List LogLine} (workers : Option Int) :
    Step w (.openService rules useStore count)
      { w with log, service := some ⟨rules, if useStore then w.store else none, workers⟩ }
  | compiles {rules : Option (List Rule)} {mid : Workspace} {set : RuleSet} (goesOn : GoesOn w mid) :
    Step w (.compile rules) { mid with compiled := some set }
  | reloads {index : Nat} {s : RuleStore} {rules : List Rule} {log : List LogLine}
    (opened : index ∈ w.opened) (there : w.stores[index]? = some s) :
    Step w (.reloadStore index) { w with log, stores := w.stores.set index { s with rules } }

theorem step_openService (w : Workspace) (rules : Option (List Rule)) (useStore : Bool)
    (count : Option Int) :
    Step w (.openService rules useStore count) (step w (.openService rules useStore count)) := by
  rw [step, action]
  rcases w.run_openService rules useStore count with ⟨e, failed⟩ | ⟨workers, log, opened⟩
  · rw [failed]
    exact .goesOn (refl_of GoesOn w)
  · rw [opened]
    exact .opensService workers

theorem step_compile (w : Workspace) (rules : Option (List Rule)) :
    Step w (.compile rules) (step w (.compile rules)) := by
  obtain ⟨mid, goesOn, ⟨e, failed⟩ | ⟨set, compiled⟩⟩ := w.run_compile rules
  · rw [step, action, Workspace.run_bind, failed]
    exact .goesOn goesOn
  · rw [step, action, Workspace.run_bind, compiled]
    exact .compiles goesOn

theorem step_reloadStore (w : Workspace) (index : Nat) :
    Step w (.reloadStore index) (step w (.reloadStore index)) := by
  rw [step, action]
  cases found : w.openedStore? index with
  | none =>
      rw [Workspace.run_reloadStore_of_none found]
      exact .goesOn (refl_of GoesOn w)
  | some s =>
      obtain ⟨opened, there⟩ := Workspace.openedStore?_eq_some_iff.mp found
      rw [Workspace.run_reloadStore found]
      dsimp only
      split
      · exact .reloads opened there
      · exact .reloads opened there

/-- What one operation does to the service, the stores and the compiled rules. -/
theorem step_spec (w : Workspace) (op : Operation) : Step w op (op.step w) := by
  have goesOn {m : WorkspaceM Unit} (leads : Leads GoesOn m) : Step w op (w.run m).2 :=
    .goesOn (leads w)
  have gives {α : Type} {m : WorkspaceM α} (leads : Leads GoesOn m) :
      Step w op (w.run (do let _ ← m)).2 := goesOn (.bind leads fun _ => .pure _)
  have log := GoesOn.ignoresLog
  have snapshot := Workspace.snapshot_goesOn
  have changes {change : FileTree → Except FileError FileTree} :
      Leads GoesOn (Workspace.changeFiles change) :=
    Workspace.changeFiles_leads fun _ _ _ => .of_same rfl rfl rfl rfl
  have writes (path : FilePath) (content : Bytes) :
      Leads GoesOn (Workspace.writeFile path content) := changes
  have makes (path : FilePath) : Leads GoesOn (Workspace.makeDirectory path) := changes
  have deletes (path : FilePath) : Leads GoesOn (Workspace.delete path) := changes
  cases op with
  | writeFile path content => exact goesOn (writes path content)
  | makeDirectory path => exact goesOn (makes path)
  | delete path => exact goesOn (deletes path)
  | readText path => exact gives (Workspace.readText_leads path)
  | setEnvironment name value =>
      exact goesOn (Workspace.setEnvironment_leads (fun _ _ => .of_same rfl rfl rfl rfl) name value)
  | openConfig path =>
      exact goesOn (Workspace.openConfig_leads log (fun _ _ _ => .of_same rfl rfl rfl rfl) path)
  | loadConfig => exact gives (Workspace.loadConfig_leads log)
  | saveConfig => exact goesOn (Workspace.saveConfig_leads log fun _ _ _ => .of_same rfl rfl rfl rfl)
  | setRulesDirectory value =>
      exact goesOn (Workspace.setRulesDirectory_leads log (fun _ _ _ => .of_same rfl rfl rfl rfl)
        (fun _ _ => .of_same rfl rfl rfl rfl) value)
  | rulesDirectory => exact gives Workspace.rulesDirectory_leads
  | workers => exact gives (Workspace.workers_leads log)
  | openStore directory => exact goesOn (Workspace.openStore_goesOn directory)
  | reloadStore index => exact step_reloadStore w index
  | openService rules useStore count => exact step_openService w rules useStore count
  | snapshot => exact gives snapshot
  | compile rules => exact step_compile w rules
  | analyze document rules useCompiled =>
      exact gives (Workspace.analyze_leads snapshot document rules useCompiled)
  | analyzeFile path name rules useCompiled =>
      exact gives (Workspace.analyzeFile_leads snapshot path name rules useCompiled)
  | analyzeDocuments documents rules =>
      exact gives (Workspace.analyzeDocuments_leads snapshot documents rules)
  | analyzePaths paths rules =>
      exact gives (Workspace.analyzePaths_leads snapshot paths rules)

end Operation

end NotebookAudit

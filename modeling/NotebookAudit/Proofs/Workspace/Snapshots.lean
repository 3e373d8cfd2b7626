import NotebookAudit.Proofs.Workspace.BrokenFiles
import NotebookAudit.Proofs.Workspace.RuleLists

/-!
Snapshots in sessions.

A service answers with the rules that it is bound to, or with those that its store has now. A store that
a service opens for itself is known to nothing else, so nothing loads it once more, and the service
keeps to its first answer; a service on a store that it is given follows that store, whatever other
stores are opened. The list of rules that is handed out is a copy that neither a service nor a store
has, so it stays what it was, and so do rules that were compiled (`Workspace.snapshots_stable`).
-/

namespace NotebookAudit

namespace Workspace

/-! ## What services rely on -/

/-- The stores that no service opened for itself are there. -/
def HasOpened (w : Workspace) : Prop := ∀ index ∈ w.opened, index < w.stores.length

/-- The service is bound to the rules. -/
def ServesRules (rules : List Rule) (w : Workspace) : Prop :=
  ∃ service, w.service = some service ∧ service.rules = some rules

/-- The service takes its rules from the store of the number. -/
def ServesStore (index : Nat) (w : Workspace) : Prop :=
  ∃ service, w.service = some service ∧ service.rules = none ∧ service.store = some index ∧
    index < w.stores.length

/-- The service takes its rules from a store that it opens for itself. -/
def ServesItself (w : Workspace) : Prop :=
  w.HasOpened ∧ ∃ service, w.service = some service ∧ service.rules = none ∧
    ∀ index, service.store = some index → index < w.stores.length ∧ index ∉ w.opened

/-- The store of the number is there, and a service opened it for itself. -/
def Shelves (index : Nat) (s : RuleStore) (w : Workspace) : Prop :=
  w.stores[index]? = some s ∧ index ∉ w.opened

/-- The store of the number takes its rules from the place. -/
def HasPlace (index : Nat) (place : RulesPlace) (w : Workspace) : Prop :=
  ∃ s, w.stores[index]? = some s ∧ s.place = place

end Workspace

/-! ## What an operation preserves -/

namespace GoesOn

variable {w after : Workspace} {index : Nat} {s : RuleStore} {rules : List Rule}

theorem getElem?_stores (goesOn : GoesOn w after) (there : w.stores[index]? = some s) :
    after.stores[index]? = some s := by
  obtain ⟨opened, stores⟩ := goesOn.stores
  rw [stores, List.getElem?_append_left (List.getElem?_eq_some_iff.mp there).1, there]

theorem hasOpened (goesOn : GoesOn w after) (has : w.HasOpened) : after.HasOpened := by
  obtain ⟨new, opened, isNew⟩ := goesOn.opened
  intro index member
  rw [opened] at member
  rcases List.mem_append.mp member with old | new
  · exact Nat.lt_of_lt_of_le (has index old) goesOn.length_le
  · exact (isNew index new).2

theorem hasService (goesOn : GoesOn w after) (served : w.service.isSome = true) :
    after.service.isSome = true := by
  rcases goesOn.service with same | ⟨service, index, -, -, -, bound, -⟩
  · rw [same, served]
  · rw [bound]
    rfl

theorem servesRules (goesOn : GoesOn w after) (serves : w.ServesRules rules) :
    after.ServesRules rules := by
  obtain ⟨service, served, fixed⟩ := serves
  rcases goesOn.service with same | ⟨service', index, served', free, -⟩
  · exact ⟨service, same.trans served, fixed⟩
  · rw [served] at served'
    cases served'
    rw [fixed] at free
    cases free

theorem servesStore (goesOn : GoesOn w after) (serves : w.ServesStore index) :
    after.ServesStore index := by
  obtain ⟨service, served, free, bound, inRange⟩ := serves
  have inRange := Nat.lt_of_lt_of_le inRange goesOn.length_le
  rcases goesOn.service with same | ⟨service', index', served', -, unbound, -⟩
  · exact ⟨service, same.trans served, free, bound, inRange⟩
  · rw [served] at served'
    cases served'
    rw [bound] at unbound
    cases unbound

theorem servesItself (goesOn : GoesOn w after) (serves : w.ServesItself) : after.ServesItself := by
  obtain ⟨has, service, served, free, own⟩ := serves
  refine ⟨goesOn.hasOpened has, ?_⟩
  rcases goesOn.service with same | ⟨service', index, served', free', -, bound, new, inRange, isOpened⟩
  · refine ⟨service, same.trans served, free, fun index bound => ?_⟩
    obtain ⟨old, notOpened⟩ := own index bound
    exact ⟨Nat.lt_of_lt_of_le old goesOn.length_le,
      fun member => notOpened (goesOn.mem_opened_of_lt member old)⟩
  · refine ⟨_, bound, free', fun index' isIndex => ?_⟩
    cases isIndex
    exact ⟨inRange, fun member => absurd (has index (isOpened member)) (Nat.not_lt.mpr new)⟩

theorem shelves (goesOn : GoesOn w after) (shelved : w.Shelves index s) : after.Shelves index s := by
  obtain ⟨there, notOpened⟩ := shelved
  refine ⟨goesOn.getElem?_stores there, fun member => notOpened ?_⟩
  exact goesOn.mem_opened_of_lt member (List.getElem?_eq_some_iff.mp there).1

end GoesOn

namespace Operation.Step

variable {w after : Workspace} {op : Operation} {index : Nat} {s : RuleStore} {rules : List Rule}
  {place : RulesPlace}

theorem hasOpened (step : Step w op after) (has : w.HasOpened) : after.HasOpened := by
  cases step with
  | goesOn goesOn => exact goesOn.hasOpened has
  | opensService workers => exact has
  | compiles goesOn => exact goesOn.hasOpened has
  | reloads opened there =>
      intro index member
      rw [List.length_set]
      exact has index member

theorem hasService (step : Step w op after) (served : w.service.isSome = true) :
    after.service.isSome = true := by
  cases step with
  | goesOn goesOn => exact goesOn.hasService served
  | opensService workers => rfl
  | compiles goesOn => exact goesOn.hasService served
  | reloads opened there => exact served

theorem servesRules (step : Step w op after) (kept : op.opensService = false)
    (serves : w.ServesRules rules) : after.ServesRules rules := by
  cases step with
  | goesOn goesOn => exact goesOn.servesRules serves
  | opensService workers => cases kept
  | compiles goesOn => exact goesOn.servesRules serves
  | reloads opened there => exact serves

theorem servesStore (step : Step w op after) (kept : op.opensService = false)
    (serves : w.ServesStore index) : after.ServesStore index := by
  cases step with
  | goesOn goesOn => exact goesOn.servesStore serves
  | opensService workers => cases kept
  | compiles goesOn => exact goesOn.servesStore serves
  | reloads opened there =>
      obtain ⟨service, served, free, bound, inRange⟩ := serves
      exact ⟨service, served, free, bound, by rw [List.length_set]; exact inRange⟩

theorem servesItself (step : Step w op after) (kept : op.opensService = false)
    (serves : w.ServesItself) : after.ServesItself := by
  have has := step.hasOpened serves.1
  cases step with
  | goesOn goesOn => exact goesOn.servesItself serves
  | opensService workers => cases kept
  | compiles goesOn => exact goesOn.servesItself serves
  | reloads opened there =>
      obtain ⟨-, service, served, free, own⟩ := serves
      refine ⟨has, service, served, free, fun index bound => ?_⟩
      rw [List.length_set]
      exact own index bound

/-- A store that a service opened for itself is not loaded once more. -/
theorem shelves (step : Step w op after) (shelved : w.Shelves index s) : after.Shelves index s := by
  cases step with
  | goesOn goesOn => exact goesOn.shelves shelved
  | opensService workers => exact shelved
  | compiles goesOn => exact goesOn.shelves shelved
  | @reloads again t rules log opened there =>
      obtain ⟨there, notOpened⟩ := shelved
      have other : again ≠ index := fun same => notOpened (same ▸ opened)
      exact ⟨by rw [List.getElem?_set_ne other, there], notOpened⟩

theorem hasPlace (step : Step w op after) (has : w.HasPlace index place) :
    after.HasPlace index place := by
  obtain ⟨s, there, isPlace⟩ := has
  cases step with
  | goesOn goesOn => exact ⟨s, goesOn.getElem?_stores there, isPlace⟩
  | opensService workers => exact ⟨s, there, isPlace⟩
  | compiles goesOn => exact ⟨s, goesOn.getElem?_stores there, isPlace⟩
  | @reloads again t rules log opened there' =>
      by_cases same : again = index
      · subst same
        rw [there] at there'
        cases there'
        exact ⟨_, List.getElem?_set_self (List.getElem?_eq_some_iff.mp there).1, isPlace⟩
      · exact ⟨s, by rw [List.getElem?_set_ne same, there], isPlace⟩

theorem compiled (step : Step w op after) (kept : op.compiles = false) :
    after.compiled = w.compiled := by
  cases step with
  | goesOn goesOn => exact goesOn.compiled
  | opensService workers => rfl
  | compiles goesOn => cases kept
  | reloads opened there => rfl

end Operation.Step

namespace Operation

variable {P : Workspace → Prop} {w : Workspace} {operations : List Operation}

/-- What every operation of a kind preserves holds after all of them. -/
theorem foldl_preserves (allowed : Operation → Prop)
    (each : ∀ {w op after}, Step w op after → allowed op → P w → P after) (holds : P w)
    (all : ∀ op ∈ operations, allowed op) : P (operations.foldl step w) := by
  induction operations generalizing w with
  | nil => exact holds
  | cons op rest ih =>
      obtain ⟨first, others⟩ := List.forall_mem_cons.mp all
      exact ih (each (op.step_spec w) first holds) others

/-- What every operation preserves holds after any of them. -/
theorem foldl_keeps (each : ∀ {w op after}, Step w op after → P w → P after) (holds : P w) :
    P (operations.foldl step w) :=
  foldl_preserves (fun _ => True) (fun step _ => each step) holds fun _ _ => trivial

end Operation

namespace Shared

variable {s : Shared}

theorem step_hasService (served : s.workspace.service.isSome = true) (deed : Deed) :
    (s.step deed).workspace.service.isSome = true := by
  cases deed with
  | operation op => exact (op.step_spec s.workspace).hasService served
  | change list rules => exact served

theorem foldl_hasService (served : s.workspace.service.isSome = true) (deeds : List Deed) :
    (deeds.foldl step s).workspace.service.isSome = true := by
  induction deeds generalizing s with
  | nil => exact served
  | cons deed rest ih => exact ih (step_hasService served deed)

end Shared

/-! ## Answers -/

namespace Workspace

variable {w w' : Workspace} {index : Nat} {s : RuleStore} {rules : List Rule}

theorem run_snapshot_of_servesRules (serves : w.ServesRules rules) :
    w.run snapshot = (.ok rules, w) := by
  obtain ⟨service, served, fixed⟩ := serves
  exact run_snapshot_of_rules served fixed

theorem run_snapshot_of_servesStore (serves : w.ServesStore index)
    (there : w.stores[index]? = some s) : w.run snapshot = (.ok s.rules, w) := by
  obtain ⟨service, served, free, bound, -⟩ := serves
  exact run_snapshot_of_store served free bound there

/-- A service that opens a store for itself answers from a store that nothing else knows. -/
theorem ServesItself.of_run_snapshot (serves : w.ServesItself)
    (answered : w.run snapshot = (.ok rules, w')) :
    ∃ index s, s.rules = rules ∧ w'.ServesStore index ∧ w'.Shelves index s := by
  obtain ⟨has, service, served, free, own⟩ := serves
  cases unbound : service.store with
  | some index =>
      obtain ⟨inRange, notOpened⟩ := own index unbound
      have there := List.getElem?_eq_getElem inRange
      rw [run_snapshot_of_store served free unbound there] at answered
      cases answered
      exact ⟨index, _, rfl, ⟨service, served, free, unbound, inRange⟩, there, notOpened⟩
  | none =>
      rw [run_snapshot_of_unbound served free unbound] at answered
      dsimp only at answered
      split at answered
      · cases answered
      · cases answered
        refine ⟨w.stores.length, _, rfl, ⟨_, rfl, free, rfl, ?_⟩, List.getElem?_concat_length, ?_⟩
        · rw [List.length_append]
          exact Nat.lt_succ_self _
        · exact fun member => Nat.lt_irrefl _ (has _ member)

/-- Rules that are given are compiled as they are. -/
theorem run_analyze_given (served : w.service.isSome = true) (d : Document) (rules : List Rule) :
    w.run (analyze d (some rules) false) =
      ((RuleSet.compile rules).mapError .pattern >>= fun set => (d.analyze set).mapError .analysis,
        w) := by
  obtain ⟨service, served⟩ := Option.isSome_iff_exists.mp served
  simp only [analyze, ruleSet, compileRules, rulesOr, theService, run_bind, run_get, served, require,
    run_pure, run_lift]
  cases (RuleSet.compile rules).mapError WorkspaceError.pattern <;> rfl

/-- Rules that were compiled are not compiled again. -/
theorem run_analyze_compiled {set : RuleSet} (served : w.service.isSome = true)
    (compiled : w.compiled = some set) (d : Document) (given : Option (List Rule)) :
    w.run (analyze d given true) = ((d.analyze set).mapError .analysis, w) := by
  obtain ⟨service, served⟩ := Option.isSome_iff_exists.mp served
  simp only [analyze, ruleSet, theService, run_bind, run_get, served, compiled, require, run_pure,
    run_lift]

/-- In every session the stores that no service opened for itself are there. -/
theorem hasOpened_after (session : List Operation) : (after session).HasOpened :=
  Operation.foldl_keeps Operation.Step.hasOpened (List.forall_mem_nil _)

/-! ## Answers after further operations -/

section Later

variable {later : List Operation}

/-- A service that opens a store for itself keeps to its first answer. -/
theorem ServesItself.run_snapshot_later (serves : w.ServesItself)
    (answered : w.run snapshot = (.ok rules, w'))
    (kept : ∀ op ∈ later, op.opensService = false) :
    (later.foldl Operation.step w').run snapshot = (.ok rules, later.foldl Operation.step w') := by
  obtain ⟨index, s, rfl, serves, shelves⟩ := serves.of_run_snapshot answered
  have serves : (later.foldl Operation.step w').ServesStore index :=
    Operation.foldl_preserves _ Operation.Step.servesStore serves kept
  have shelves : (later.foldl Operation.step w').Shelves index s :=
    Operation.foldl_keeps Operation.Step.shelves shelves
  exact run_snapshot_of_servesStore serves shelves.1

/-- A service on a store answers with the rules that the store has by then. -/
theorem ServesStore.run_snapshot_later (serves : w.ServesStore index)
    (there : w.stores[index]? = some s) (kept : ∀ op ∈ later, op.opensService = false) :
    ∃ s', (later.foldl Operation.step w).stores[index]? = some s' ∧ s'.place = s.place ∧
      (later.foldl Operation.step w).run snapshot =
        (.ok s'.rules, later.foldl Operation.step w) := by
  have serves : (later.foldl Operation.step w).ServesStore index :=
    Operation.foldl_preserves _ Operation.Step.servesStore serves kept
  have hasPlace : (later.foldl Operation.step w).HasPlace index s.place :=
    Operation.foldl_keeps Operation.Step.hasPlace ⟨s, there, rfl⟩
  obtain ⟨s', there', place⟩ := hasPlace
  exact ⟨s', there', place, run_snapshot_of_servesStore serves there'⟩

/-- Rules that were compiled are there, and are what is searched for, until others are compiled. -/
theorem run_analyze_later {given : Option (List Rule)} {set : RuleSet}
    (served : w.service.isSome = true) (compiled : w.run (compile given) = (.ok set, w'))
    (kept : ∀ op ∈ later, op.compiles = false) :
    (later.foldl Operation.step w').compiled = some set ∧
      ∀ (d : Document) (other : Option (List Rule)),
        (later.foldl Operation.step w').run (analyze d other true) =
          ((d.analyze set).mapError .analysis, later.foldl Operation.step w') := by
  obtain ⟨mid, goesOn, ⟨e, failed⟩ | ⟨set', ran⟩⟩ := w.run_compile given
  · rw [failed] at compiled
    cases compiled
  · rw [ran] at compiled
    cases compiled
    have keeps : (later.foldl Operation.step { mid with compiled := some set }).compiled = some set :=
      Operation.foldl_preserves _ (fun step kept keeps => (step.compiled kept).trans keeps) rfl kept
    have served : ({ mid with compiled := some set } : Workspace).service.isSome = true :=
      goesOn.hasService served
    exact ⟨keeps, run_analyze_compiled (Operation.foldl_keeps Operation.Step.hasService served) keeps⟩

end Later

section Stable

variable {rules : Option (List Rule)} {useStore : Bool} {count : Option Int} {session : List Operation}

/-- A service that is opened is the one that was asked for, and nothing else is changed. -/
theorem of_run_openService (opened : w.run (openService rules useStore count) = (.ok (), w')) :
    ∃ workers, w'.service = some ⟨rules, if useStore then w.store else none, workers⟩ ∧
      w'.stores = w.stores ∧ w'.opened = w.opened := by
  rcases run_openService w rules useStore count with ⟨e, failed⟩ | ⟨workers, log, ran⟩
  · rw [failed] at opened
    cases opened
  · rw [ran] at opened
    cases opened
    exact ⟨workers, rfl, rfl, rfl⟩

/-- In every session, a service that is bound to rules answers with them as long as no other service is
opened. A service without rules and without a store keeps to its first answer. A service that is given
the store opened last answers with the rules that this store has, whatever stores are opened later.

Whatever a session did to the lists that it has, also to those that it bound services to, a snapshot is a
list of the session with the rules that the service answers with, and these stay in it, and give the same
findings, until the session itself changes this list. Rules that were compiled give the same findings
until others are compiled. -/
theorem snapshots_stable (opened : (after session).run (openService rules useStore count) = (.ok (), w))
    {later : List Operation} (kept : ∀ op ∈ later, op.opensService = false) :
    let w' := later.foldl Operation.step w
    (∀ fixed, rules = some fixed → w'.run snapshot = (.ok fixed, w')) ∧
    (rules = none → useStore = false ∨ (after session).store = none →
      ∀ first w₁, w'.run snapshot = (.ok first, w₁) →
        ∀ more : List Operation, (∀ op ∈ more, op.opensService = false) →
          let w₂ := more.foldl Operation.step w₁
          w₂.run snapshot = (.ok first, w₂)) ∧
    (rules = none → useStore = true → ∀ index, (after session).store = some index →
      ∃ s s', w.stores[index]? = some s ∧ w'.stores[index]? = some s' ∧ s'.place = s.place ∧
        w'.run snapshot = (.ok s'.rules, w')) ∧
    (∀ deeds : List Deed, (Shared.after deeds).workspace = w' →
      ∀ handed w₁, w'.run snapshot = (.ok handed, w₁) →
        let s := (Shared.after deeds).step (.operation .snapshot)
        s.workspace = w₁ ∧ ∃ list ∈ s.lists.ofSession, s.lists.contents[list]? = some handed ∧
          ∀ more : List Deed, (∀ deed ∈ more, ¬ deed.Changes list) →
            let s' := more.foldl Shared.step s
            s'.lists.contents[list]? = some handed ∧ ∀ d : Document,
              s'.workspace.run (analyze d s'.lists.contents[list]? false) =
                ((RuleSet.compile handed).mapError .pattern >>= fun set =>
                  (d.analyze set).mapError .analysis, s'.workspace)) ∧
    ∀ given set w₁, w'.run (compile given) = (.ok set, w₁) →
      ∀ more : List Operation, (∀ op ∈ more, op.compiles = false) →
        let w₂ := more.foldl Operation.step w₁
        w₂.compiled = some set ∧ ∀ (d : Document) (other : Option (List Rule)),
          w₂.run (analyze d other true) = ((d.analyze set).mapError .analysis, w₂) := by
  intro w'
  obtain ⟨workers, served, stores, sameOpened⟩ := of_run_openService opened
  have has : w.HasOpened := by
    rw [HasOpened, stores, sameOpened]
    exact hasOpened_after session
  have hasService : w'.service.isSome = true :=
    Operation.foldl_keeps Operation.Step.hasService (by rw [served]; rfl)
  refine ⟨?fixed, ?itself, ?given, ?handed, ?compiled⟩
  case fixed =>
    rintro fixed rfl
    have serves : w.ServesRules fixed := ⟨_, served, rfl⟩
    exact run_snapshot_of_servesRules
      (Operation.foldl_preserves _ Operation.Step.servesRules serves kept)
  case itself =>
    rintro rfl unbound first w₁ answered more keptOn
    have noStore : (if useStore then (after session).store else none) = none := by
      rcases unbound with notUsed | noStore
      · rw [notUsed]
        rfl
      · rw [noStore, ite_self]
    rw [noStore] at served
    have opens : w.ServesItself := ⟨has, _, served, rfl, fun index bound => by cases bound⟩
    have opens : w'.ServesItself :=
      Operation.foldl_preserves _ Operation.Step.servesItself opens kept
    exact opens.run_snapshot_later answered keptOn
  case given =>
    rintro rfl rfl index isCurrent
    rw [if_pos rfl, isCurrent] at served
    have inRange : index < w.stores.length := has index (sameOpened ▸ mem_opened_of_store isCurrent)
    have there := List.getElem?_eq_getElem inRange
    have serves : w.ServesStore index := ⟨_, served, rfl, rfl, inRange⟩
    obtain ⟨s', there', place, answered⟩ := serves.run_snapshot_later there kept
    exact ⟨_, s', there, there', place, answered⟩
  case handed =>
    intro deeds reached handed w₁ answered
    have hold := Shared.hold_after deeds
    rw [← reached] at answered hasService
    obtain ⟨reaches, list, has, holds⟩ := Shared.snapshot_given hold answered
    refine ⟨reaches, list, has, holds, fun more unchanged => ?_⟩
    have keeps := (Shared.foldl_keeps (Shared.step_hold hold _) has unchanged).same.trans holds
    refine ⟨keeps, fun d => ?_⟩
    rw [keeps]
    exact run_analyze_given (Shared.foldl_hasService (Shared.step_hasService hasService _) more) d handed
  case compiled =>
    intro given set w₁ compiled more keptOn
    exact run_analyze_later hasService compiled keptOn

end Stable

/-- A store with one rule. -/
def openedStore : List Operation := soundFile ++ [.openStore (some (.ofText "rules"))]

/-- The store is the one opened last, and no directory `none` is beside its own. -/
theorem after_openedStore :
    (after openedStore).store = some 0 ∧
      (after openedStore).stores =
        [⟨.directory (.ofText "rules"), [⟨"1", "a", "m", "x", .warning, true⟩]⟩] ∧
      RulesPlace.find? (after openedStore).files (.directory (.ofText "none")) = .ok none := by
  have reached : after openedStore =
      ((after soundFile).run (openStore (some (.ofText "rules")))).2 := rfl
  rw [run_openStore_soundFile] at reached
  rw [reached]
  exact ⟨rfl, rfl, by decide +kernel⟩

/-- The service on the store answers with its rule, also after a store without rules is opened. -/
theorem snapshots_stable_secondStore :
    ∃ w, (after openedStore).run (openService none true (some 1)) = (.ok (), w) ∧
      let w' := Operation.step w (.openStore (some (.ofText "none")))
      w'.store = some 1 ∧ w'.run snapshot = (.ok [⟨"1", "a", "m", "x", .warning, true⟩], w') := by
  obtain ⟨current, stores, seen⟩ := after_openedStore
  let w := { after openedStore with service := some ⟨none, (after openedStore).store, some 1⟩ }
  have opened : (after openedStore).run (openService none true (some 1)) = (.ok (), w) := rfl
  have kept : ∀ op ∈ [Operation.openStore (some (.ofText "none"))], op.opensService = false :=
    List.forall_mem_singleton.mpr rfl
  obtain ⟨s, s', there, there', -, answered⟩ :=
    (snapshots_stable opened kept).2.2.1 rfl rfl 0 current
  have same : s' = s := Option.some.inj
    (there'.symm.trans ((openStore_goesOn (some (.ofText "none")) w).getElem?_stores there))
  have isStore : w.stores[0]? = some
      ⟨.directory (.ofText "rules"), [⟨"1", "a", "m", "x", .warning, true⟩]⟩ := by
    show (after openedStore).stores[0]? = _
    rw [stores]
    rfl
  have rules : s'.rules = [⟨"1", "a", "m", "x", .warning, true⟩] := by
    rw [same, Option.some.inj (there.symm.trans isStore)]
  rw [rules] at answered
  refine ⟨w, opened, ?_, answered⟩
  have missing : (RuleStore.openAt w.files (.directory (.ofText "none"))).fault = none := by
    show (RuleStore.openAt (after openedStore).files _).fault = none
    rw [RuleStore.openAt, seen]
    dsimp only
    rw [RulesPlace.load, seen]
  have ran := run_openStore w (some (.ofText "none"))
  dsimp only [Option.map_some, Option.getD_some] at ran
  rw [missing] at ran
  show (w.run (openStore (some (.ofText "none")))).2.store = some 1
  rw [ran, store, List.getLast?_concat]
  show some (after openedStore).stores.length = some 1
  rw [stores]
  rfl

end Workspace

end NotebookAudit

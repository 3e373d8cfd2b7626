import NotebookAudit.Proofs.Workspace.Services

/-!
Lists of rules that can be changed in place.

A workspace says which rules a store or a service has. They stand in lists, and a list is not always
what it was: a store that is loaded once more empties its list and fills it again, and whoever is given a
list may change it. `RuleLists` says what is in each list and who has it, and `Shared.step` what becomes
of the lists in a session that also changes its own.

No list is had twice (`RuleLists.Hold`), because a service copies the rules that it is bound to and every
snapshot is a copy. So the lists of the stores and of the service hold the rules that the workspace says,
whatever the session does to its lists, and the list of a snapshot is changed by nothing but the session
(`Shared.foldl_keeps`).
-/

namespace NotebookAudit

/-- The lists of rules that were made, each known by its number, and who has which of them. -/
structure RuleLists where
  /-- The rules that are in each list. -/
  contents : List (List Rule)
  /-- The list of each store. -/
  ofStores : List Nat
  /-- The list of the service, if it is bound to rules. -/
  ofService : Option Nat
  /-- The lists that the session has: those that it bound services to, and those of its snapshots. -/
  ofSession : List Nat

namespace RuleLists

/-- No lists. -/
def empty : RuleLists := ⟨[], [], none, []⟩

/-- The lists of the service and of the stores. -/
def ofProgram (l : RuleLists) : List Nat := l.ofService.toList ++ l.ofStores

/-- Stores are opened. Each has a new list. -/
def openStores (l : RuleLists) (opened : List RuleStore) : RuleLists :=
  { l with
    contents := l.contents ++ opened.map (·.rules)
    ofStores := l.ofStores ++ List.range' l.contents.length opened.length }

/-- The list of a store is emptied and filled again. -/
def refill (l : RuleLists) (index : Nat) (rules : List Rule) : RuleLists :=
  match l.ofStores[index]? with
  | some list => { l with contents := l.contents.set list rules }
  | none => l

/-- A service is opened. Of the list of the session that it is bound to it has a copy. -/
def openService (l : RuleLists) : Option (List Rule) → RuleLists
  | some rules =>
    { l with
      contents := l.contents ++ [rules, rules]
      ofService := some (l.contents.length + 1)
      ofSession := l.ofSession ++ [l.contents.length] }
  | none => { l with ofService := none }

/-- The session is given a copy of a list. -/
def give (l : RuleLists) (source : Nat) : RuleLists :=
  { l with
    contents := l.contents ++ [l.contents.getD source []]
    ofSession := l.ofSession ++ [l.contents.length] }

/-- The session changes a list that it has. -/
def change (l : RuleLists) (list : Nat) (rules : List Rule) : RuleLists :=
  if list ∈ l.ofSession then { l with contents := l.contents.set list rules } else l

/-- The list of which a service gives a copy: its own, or that of its store. -/
def source? (l : RuleLists) (w : Workspace) : Option Nat := do
  let service ← w.service
  if service.rules.isSome then l.ofService else l.ofStores[← service.store]?

/-- The lists after an operation. -/
def after (l : RuleLists) (w : Workspace) (op : Operation) : RuleLists :=
  let w' := op.step w
  let l := l.openStores (w'.stores.drop w.stores.length)
  match op with
  | .reloadStore index =>
    match w.openedStore? index with
    | some s => l.refill index (s.reload w.files).rules
    | none => l
  | .openService rules _ _ =>
    match (w.run op.action).1 with
    | .ok _ => l.openService rules
    | .error _ => l
  | .snapshot =>
    match l.source? w' with
    | some source => l.give source
    | none => l
  | _ => l

end RuleLists

/-! ## Sessions that change their lists -/

/-- What a session does: an operation, or a change of a list that it has. -/
inductive Deed where
  | operation (op : Operation)
  | change (list : Nat) (rules : List Rule)

/-- The deed changes the list. -/
def Deed.Changes (list : Nat) : Deed → Prop
  | operation _ => False
  | change changed _ => changed = list

/-- A workspace, and the lists in which its rules are. -/
structure Shared where
  workspace : Workspace
  lists : RuleLists

namespace Shared

/-- Nothing is open, and no list is made. -/
def empty : Shared := ⟨.empty, .empty⟩

/-- The workspace and the lists after a deed. -/
def step (s : Shared) : Deed → Shared
  | .operation op => ⟨op.step s.workspace, s.lists.after s.workspace op⟩
  | .change list rules => { s with lists := s.lists.change list rules }

/-- The workspace and the lists after a session. -/
def after (deeds : List Deed) : Shared := deeds.foldl step empty

end Shared

/-! ## Who has a list -/

/-- The lists hold the rules that the workspace says, and no list of a store or of the service is had
twice. -/
structure RuleLists.Hold (l : RuleLists) (w : Workspace) : Prop where
  stores : l.ofStores.map (l.contents[·]?) = w.stores.map (some ·.rules)
  service : ∀ service rules, w.service = some service → service.rules = some rules →
    ∃ list, l.ofService = some list ∧ l.contents[list]? = some rules
  distinct : l.ofProgram.Nodup
  apart : ∀ list ∈ l.ofSession, list ∉ l.ofProgram
  made : ∀ list ∈ l.ofProgram ++ l.ofSession, list < l.contents.length

/-- A service that is bound to rules was so before. -/
def KeepsRules (w after : Workspace) : Prop :=
  ∀ service rules, after.service = some service → service.rules = some rules →
    ∃ before, w.service = some before ∧ before.rules = some rules

theorem GoesOn.keepsRules {w after : Workspace} (goesOn : GoesOn w after) : KeepsRules w after := by
  intro service rules served fixed
  rcases goesOn.service with same | ⟨before, index, -, free, -, bound, -⟩
  · exact ⟨service, same ▸ served, fixed⟩
  · rw [bound] at served
    cases served
    rw [free] at fixed
    cases fixed

namespace RuleLists.Hold

variable {l : RuleLists} {w after : Workspace} {index list : Nat} {s : RuleStore} {rules : List Rule}

theorem mem_ofProgram_of_store (member : list ∈ l.ofStores) : list ∈ l.ofProgram :=
  List.mem_append_right _ member

theorem mem_ofProgram_of_service (has : l.ofService = some list) : list ∈ l.ofProgram :=
  List.mem_append_left _ (Option.mem_toList.mpr has)

theorem made_of_program (hold : l.Hold w) (member : list ∈ l.ofProgram) : list < l.contents.length :=
  hold.made list (List.mem_append_left _ member)

theorem made_of_session (hold : l.Hold w) (member : list ∈ l.ofSession) : list < l.contents.length :=
  hold.made list (List.mem_append_right _ member)

/-- What is in the lists of the stores is not changed where other lists are made. -/
theorem map_stores_append (hold : l.Hold w) (new : List (List Rule)) :
    l.ofStores.map ((l.contents ++ new)[·]?) = w.stores.map (some ·.rules) := by
  rw [← hold.stores]
  refine List.map_congr_left fun list member => List.getElem?_append_left ?_
  exact hold.made_of_program (mem_ofProgram_of_store member)

/-- What holds the rules of a workspace holds those of one with the same stores, if its service is
bound to no other rules. -/
theorem of_stores (hold : l.Hold w) (stores : after.stores = w.stores) (keeps : KeepsRules w after) :
    l.Hold after where
  stores := stores ▸ hold.stores
  service service rules served fixed := by
    obtain ⟨before, servedBefore, fixedBefore⟩ := keeps service rules served fixed
    exact hold.service before rules servedBefore fixedBefore
  distinct := hold.distinct
  apart := hold.apart
  made := hold.made

/-- The stores that are opened are given lists that nobody has. -/
theorem openStores (hold : l.Hold w) {opened : List RuleStore}
    (stores : after.stores = w.stores ++ opened) (keeps : KeepsRules w after) :
    (l.openStores opened).Hold after where
  stores := by
    have new : (List.range' l.contents.length opened.length).map
        ((l.contents ++ opened.map (·.rules))[·]?) = opened.map (some ·.rules) := by
      refine List.ext_getElem? fun index => ?_
      by_cases inRange : index < opened.length <;> simp [inRange]
    rw [stores, List.map_append, ← hold.map_stores_append (opened.map (·.rules)), ← new]
    exact List.map_append
  service service rules served fixed := by
    obtain ⟨before, servedBefore, fixedBefore⟩ := keeps service rules served fixed
    obtain ⟨list, has, holds⟩ := hold.service before rules servedBefore fixedBefore
    refine ⟨list, has, ?_⟩
    rw [← holds]
    exact List.getElem?_append_left (List.getElem?_eq_some_iff.mp holds).1
  distinct := by
    show (l.ofService.toList ++ (l.ofStores ++ _)).Nodup
    rw [← List.append_assoc, List.nodup_append]
    refine ⟨hold.distinct, List.nodup_range', fun old isOld new isNew => ?_⟩
    have made := hold.made_of_program isOld
    have fresh := (List.mem_range'_1.mp isNew).1
    omega
  apart list has member := by
    have made := hold.made_of_session has
    rw [ofProgram, RuleLists.openStores, ← List.append_assoc, List.mem_append] at member
    rcases member with old | new
    · exact hold.apart list has old
    · have fresh := (List.mem_range'_1.mp new).1
      omega
  made list member := by
    have length : (l.openStores opened).contents.length = l.contents.length + opened.length := by
      simp [RuleLists.openStores]
    rw [length]
    rw [ofProgram, RuleLists.openStores, ← List.append_assoc, List.mem_append, List.mem_append] at member
    rcases member with (old | new) | session
    · exact Nat.lt_add_right _ (hold.made_of_program old)
    · exact (List.mem_range'_1.mp new).2
    · exact Nat.lt_add_right _ (hold.made_of_session session)

/-- What is done to the list of one holder is not seen in the lists of the others. -/
theorem change (hold : l.Hold w) (list : Nat) (rules : List Rule) : (l.change list rules).Hold w := by
  rw [RuleLists.change]
  split
  · next has =>
    have elsewhere {other : Nat} (member : other ∈ l.ofProgram) :
        (l.contents.set list rules)[other]? = l.contents[other]? := by
      refine List.getElem?_set_ne ?_
      rintro rfl
      exact hold.apart list has member
    refine ⟨?_, fun service fixed served isFixed => ?_, hold.distinct, hold.apart,
      fun other member => ?_⟩
    · rw [← hold.stores]
      exact List.map_congr_left fun other member => elsewhere (mem_ofProgram_of_store member)
    · obtain ⟨other, isService, holds⟩ := hold.service service fixed served isFixed
      exact ⟨other, isService, (elsewhere (mem_ofProgram_of_service isService)).trans holds⟩
    · rw [List.length_set]
      exact hold.made other member
  · exact hold

/-- The rules of a store are in its list. -/
theorem getElem?_store (hold : l.Hold w) (there : w.stores[index]? = some s) :
    ∃ list, l.ofStores[index]? = some list ∧ l.contents[list]? = some s.rules := by
  have same := congrArg (·[index]?) hold.stores
  simp only [List.getElem?_map, there, Option.map_some, Option.map_eq_some_iff] at same
  exact same

/-- A store that is loaded once more has the new rules in the list that it had. -/
theorem refill (hold : l.Hold w) (there : w.stores[index]? = some s) (rules : List Rule)
    (stores : after.stores = w.stores.set index { s with rules }) (keeps : KeepsRules w after) :
    (l.refill index rules).Hold after := by
  obtain ⟨list, isList, -⟩ := hold.getElem?_store there
  have has : list ∈ l.ofStores := List.mem_of_getElem? isList
  have distinct := List.nodup_append.mp hold.distinct
  have refilled : l.refill index rules = { l with contents := l.contents.set list rules } := by
    rw [RuleLists.refill, isList]
  rw [refilled]
  refine ⟨?_, fun service fixed served isFixed => ?_, hold.distinct, hold.apart, fun other member => ?_⟩
  · rw [stores, List.map_set, ← hold.stores]
    refine List.ext_getElem? fun other => ?_
    have inRange := (List.getElem?_eq_some_iff.mp isList).1
    by_cases same : index = other
    · subst same
      rw [List.getElem?_set_self (by rwa [List.length_map]), List.getElem?_map, isList, Option.map_some,
        List.getElem?_set_self (hold.made_of_program (mem_ofProgram_of_store has))]
    · rw [List.getElem?_set_ne same, List.getElem?_map, List.getElem?_map]
      cases isOther : l.ofStores[other]? with
      | none => rfl
      | some list' =>
          rw [Option.map_some, Option.map_some, List.getElem?_set_ne]
          rintro rfl
          exact same ((List.getElem?_inj inRange distinct.2.1).mp (isList.trans isOther.symm))
  · obtain ⟨before, servedBefore, fixedBefore⟩ := keeps service fixed served isFixed
    obtain ⟨own, isService, holds⟩ := hold.service before fixed servedBefore fixedBefore
    have apart : list ≠ own :=
      fun same => distinct.2.2 own (Option.mem_toList.mpr isService) list has same.symm
    exact ⟨own, isService, (List.getElem?_set_ne apart).trans holds⟩
  · rw [List.length_set]
    exact hold.made other member

/-- A service that is opened is bound to a list that nobody else has. -/
theorem openService (hold : l.Hold w) (service : Service) (served : after.service = some service)
    (stores : after.stores = w.stores) : (l.openService service.rules).Hold after := by
  have distinct := List.nodup_append.mp hold.distinct
  cases isRules : service.rules with
  | none =>
      refine ⟨stores ▸ hold.stores, fun again fixed servedAgain isFixed => ?_, distinct.2.1,
        fun list has member => hold.apart list has (List.mem_append_right _ member),
        fun list member => ?_⟩
      · rw [served] at servedAgain
        cases servedAgain
        rw [isRules] at isFixed
        cases isFixed
      · rcases List.mem_append.mp member with store | session
        · exact hold.made_of_program (List.mem_append_right _ store)
        · exact hold.made_of_session session
  | some rules =>
      have length : (l.openService (some rules)).contents.length = l.contents.length + 2 := by
        simp [RuleLists.openService]
      refine ⟨?_, fun again fixed servedAgain isFixed => ?_, ?_, fun list has member => ?_,
        fun list member => ?_⟩
      · rw [stores]
        exact hold.map_stores_append [rules, rules]
      · rw [served] at servedAgain
        cases servedAgain
        rw [isRules] at isFixed
        cases isFixed
        exact ⟨_, rfl, by simp [RuleLists.openService]⟩
      · refine List.nodup_cons.mpr ⟨fun member => ?_, distinct.2.1⟩
        have made := hold.made_of_program (mem_ofProgram_of_store member)
        omega
      · rcases List.mem_append.mp has with old | new
        · have made := hold.made_of_session old
          rcases List.mem_cons.mp member with rfl | store
          · omega
          · exact hold.apart list old (mem_ofProgram_of_store store)
        · cases List.mem_singleton.mp new
          rcases List.mem_cons.mp member with same | store
          · omega
          · exact Nat.lt_irrefl _ (hold.made_of_program (mem_ofProgram_of_store store))
      · rw [length]
        rcases List.mem_append.mp member with program | session
        · rcases List.mem_cons.mp program with rfl | store
          · omega
          · exact Nat.lt_add_right _ (hold.made_of_program (mem_ofProgram_of_store store))
        · rcases List.mem_append.mp session with old | new
          · exact Nat.lt_add_right _ (hold.made_of_session old)
          · cases List.mem_singleton.mp new
            omega

/-- A copy that the session is given is a list that nobody else has. -/
theorem give (hold : l.Hold w) (source : Nat) : (l.give source).Hold w := by
  have length : (l.give source).contents.length = l.contents.length + 1 := by simp [RuleLists.give]
  refine ⟨hold.map_stores_append [_], fun service fixed served isFixed => ?_, hold.distinct,
    fun list has member => ?_, fun list member => ?_⟩
  · obtain ⟨own, isService, holds⟩ := hold.service service fixed served isFixed
    refine ⟨own, isService, ?_⟩
    rw [← holds]
    exact List.getElem?_append_left (List.getElem?_eq_some_iff.mp holds).1
  · rcases List.mem_append.mp has with old | new
    · exact hold.apart list old member
    · cases List.mem_singleton.mp new
      exact Nat.lt_irrefl _ (hold.made_of_program member)
  · rw [length]
    rcases List.mem_append.mp member with program | session
    · exact Nat.lt_succ_of_lt (hold.made_of_program program)
    · rcases List.mem_append.mp session with old | new
      · exact Nat.lt_succ_of_lt (hold.made_of_session old)
      · cases List.mem_singleton.mp new
        exact Nat.lt_succ_self _

/-! ### Operations -/

theorem openStores_nil : l.openStores [] = l := by
  simp [RuleLists.openStores]

/-- An operation that neither opens a service nor loads a store once more opens stores at most. -/
theorem opened (hold : l.Hold w) {op : Operation} (kept : op.opensService = false)
    (other : ∀ index, op ≠ .reloadStore index) :
    (l.openStores ((op.step w).stores.drop w.stores.length)).Hold (op.step w) := by
  have step := op.step_spec w
  generalize op.step w = after at step ⊢
  cases step with
  | goesOn goesOn =>
      obtain ⟨added, stores⟩ := goesOn.stores
      rw [stores, List.drop_left]
      exact hold.openStores stores goesOn.keepsRules
  | @compiles _ mid _ goesOn =>
      obtain ⟨added, stores⟩ := goesOn.stores
      show (l.openStores (mid.stores.drop w.stores.length)).Hold _
      have new : mid.stores.drop w.stores.length = added := by rw [stores, List.drop_left]
      rw [new]
      refine (hold.openStores stores goesOn.keepsRules).of_stores rfl ?_
      exact fun service _ served fixed => ⟨service, served, fixed⟩
  | opensService workers => cases kept
  | reloads isOpened there => exact absurd rfl (other _)

theorem opened_snapshot (hold : l.Hold w) :
    (l.openStores ((Operation.step w .snapshot).stores.drop w.stores.length)).Hold
      (Operation.step w .snapshot) :=
  hold.opened rfl fun _ same => nomatch same

theorem step_reloadStore (found : w.openedStore? index = some s) :
    ∃ log, Operation.step w (.reloadStore index) =
      { w with log, stores := w.stores.set index { s with rules := (s.reload w.files).rules } } := by
  rw [Operation.step, Operation.action, Workspace.run_reloadStore found]
  dsimp only
  split <;> exact ⟨_, rfl⟩

/-- A store that is loaded once more is refilled, and none is opened. -/
theorem after_reloadStore_eq (found : w.openedStore? index = some s) :
    l.after w (.reloadStore index) = l.refill index (s.reload w.files).rules := by
  obtain ⟨log, reloads⟩ := step_reloadStore found
  have noneOpened : (w.stores.set index { s with rules := (s.reload w.files).rules }).drop
      w.stores.length = [] := List.drop_eq_nil_of_le (by rw [List.length_set])
  simp only [RuleLists.after, found, reloads, noneOpened, openStores_nil]

theorem after_reloadStore (hold : l.Hold w) (index : Nat) :
    (l.after w (.reloadStore index)).Hold (Operation.step w (.reloadStore index)) := by
  cases found : w.openedStore? index with
  | none =>
      have same : Operation.step w (.reloadStore index) = w := by
        rw [Operation.step, Operation.action, Workspace.run_reloadStore_of_none found]
      simp only [RuleLists.after, found, same, List.drop_length, openStores_nil]
      exact hold
  | some s =>
      obtain ⟨log, reloads⟩ := step_reloadStore found
      rw [after_reloadStore_eq found, reloads]
      have there := (Workspace.openedStore?_eq_some_iff.mp found).2
      exact hold.refill there _ rfl fun service _ served fixed => ⟨service, served, fixed⟩

theorem after_openService (hold : l.Hold w) (rules : Option (List Rule)) (useStore : Bool)
    (count : Option Int) :
    (l.after w (.openService rules useStore count)).Hold
      (Operation.step w (.openService rules useStore count)) := by
  rcases w.run_openService rules useStore count with ⟨e, failed⟩ | ⟨workers, log, opened⟩
  · simp only [RuleLists.after, Operation.step, Operation.action, failed, List.drop_length,
      openStores_nil]
    exact hold
  · simp only [RuleLists.after, Operation.step, Operation.action, opened, List.drop_length,
      openStores_nil]
    exact hold.openService ⟨rules, if useStore then w.store else none, workers⟩ rfl rfl

theorem after_snapshot (hold : l.Hold w) :
    (l.after w .snapshot).Hold (Operation.step w .snapshot) := by
  have opened := hold.opened_snapshot
  simp only [RuleLists.after]
  split
  · exact opened.give _
  · exact opened

/-- Every operation keeps it so. -/
theorem after_operation (hold : l.Hold w) (op : Operation) : (l.after w op).Hold (op.step w) := by
  cases op with
  | reloadStore index => exact hold.after_reloadStore index
  | openService rules useStore count => exact hold.after_openService rules useStore count
  | snapshot => exact hold.after_snapshot
  | _ => exact hold.opened rfl fun _ same => nomatch same

/-- The list of which a service gives a copy has the rules that the service answers with. -/
theorem exists_source (hold : l.Hold after) (answered : w.run Workspace.snapshot = (.ok rules, after)) :
    ∃ source, l.source? after = some source ∧ l.contents[source]? = some rules := by
  obtain ⟨service, served, fixed | ⟨free, index, s, bound, there, rfl⟩⟩ :=
    Workspace.source_of_run_snapshot answered
  · obtain ⟨list, isService, holds⟩ := hold.service service rules served fixed
    exact ⟨list, by simp [source?, served, fixed, isService], holds⟩
  · obtain ⟨list, isStore, holds⟩ := hold.getElem?_store there
    exact ⟨list, by simp [source?, served, free, bound, isStore], holds⟩

end RuleLists.Hold

/-! ## The lists of the session -/

/-- The session has the list still, with the same rules in it. -/
structure RuleLists.Keeps (list : Nat) (l after : RuleLists) : Prop where
  has : list ∈ after.ofSession
  same : after.contents[list]? = l.contents[list]?

namespace RuleLists

variable {l mid after : RuleLists} {w : Workspace} {list : Nat}

theorem Keeps.trans (first : Keeps list l mid) (second : Keeps list mid after) : Keeps list l after :=
  ⟨second.has, second.same.trans first.same⟩

/-- A list that was made stays what it is where others are made. -/
theorem Hold.keeps_of_append (hold : l.Hold w) (has : list ∈ l.ofSession) {more : List (List Rule)}
    {new : List Nat} (contents : after.contents = l.contents ++ more)
    (ofSession : after.ofSession = l.ofSession ++ new) : Keeps list l after where
  has := ofSession ▸ List.mem_append_left _ has
  same := by rw [contents, List.getElem?_append_left (hold.made_of_session has)]

theorem Hold.keeps_of_refill (hold : l.Hold w) (has : list ∈ l.ofSession) (index : Nat)
    (rules : List Rule) : Keeps list l (l.refill index rules) := by
  rw [RuleLists.refill]
  cases isList : l.ofStores[index]? with
  | none => exact ⟨has, rfl⟩
  | some other =>
      refine ⟨has, List.getElem?_set_ne ?_⟩
      rintro rfl
      exact hold.apart other has (Hold.mem_ofProgram_of_store (List.mem_of_getElem? isList))

theorem Hold.keeps_of_openService (hold : l.Hold w) (has : list ∈ l.ofSession)
    (rules : Option (List Rule)) : Keeps list l (l.openService rules) := by
  cases rules with
  | none => exact ⟨has, rfl⟩
  | some rules => exact hold.keeps_of_append has rfl rfl

theorem keeps_of_change (has : list ∈ l.ofSession) {other : Nat} (apart : other ≠ list)
    (rules : List Rule) : Keeps list l (l.change other rules) := by
  rw [RuleLists.change]
  split
  · exact ⟨has, List.getElem?_set_ne apart⟩
  · exact ⟨has, rfl⟩

/-- No operation changes a list of the session. -/
theorem Hold.keeps_of_after (hold : l.Hold w) (has : list ∈ l.ofSession) (op : Operation) :
    Keeps list l (l.after w op) := by
  have opens (opened : List RuleStore) : Keeps list l (l.openStores opened) :=
    hold.keeps_of_append has rfl (List.append_nil _).symm
  cases op with
  | reloadStore index =>
      cases found : w.openedStore? index with
      | none =>
          simp only [RuleLists.after, found]
          exact opens _
      | some s =>
          rw [Hold.after_reloadStore_eq found]
          exact hold.keeps_of_refill has index _
  | openService rules useStore count =>
      rcases w.run_openService rules useStore count with ⟨e, failed⟩ | ⟨workers, log, opened⟩
      · simp only [RuleLists.after, Operation.action, failed]
        exact opens _
      · simp only [RuleLists.after, Operation.step, Operation.action, opened, List.drop_length,
          openStores_nil]
        exact hold.keeps_of_openService has rules
  | snapshot =>
      have opened := hold.opened_snapshot
      simp only [RuleLists.after]
      split
      · exact (opens _).trans (opened.keeps_of_append has rfl rfl)
      · exact opens _
  | _ => exact opens _

end RuleLists

namespace Shared

variable {s : Shared} {list : Nat} {rules : List Rule} {deeds : List Deed}

/-- Every deed leaves lists that hold the rules of the workspace. -/
theorem step_hold (hold : s.lists.Hold s.workspace) (deed : Deed) :
    (s.step deed).lists.Hold (s.step deed).workspace := by
  cases deed with
  | operation op => exact hold.after_operation op
  | change list rules => exact hold.change list rules

theorem foldl_hold (hold : s.lists.Hold s.workspace) (deeds : List Deed) :
    (deeds.foldl step s).lists.Hold (deeds.foldl step s).workspace := by
  induction deeds generalizing s with
  | nil => exact hold
  | cons deed rest ih => exact ih (step_hold hold deed)

theorem hold_empty : empty.lists.Hold empty.workspace where
  stores := rfl
  service _ _ served := nomatch served
  distinct := .nil
  apart := List.forall_mem_nil _
  made := List.forall_mem_nil _

/-- In every session the lists hold the rules of the workspace. -/
theorem hold_after (deeds : List Deed) : (after deeds).lists.Hold (after deeds).workspace :=
  foldl_hold hold_empty deeds

/-- A snapshot is given to the session as a list of its own. -/
theorem snapshot_given (hold : s.lists.Hold s.workspace) {w : Workspace}
    (answered : s.workspace.run Workspace.snapshot = (.ok rules, w)) :
    (s.step (.operation .snapshot)).workspace = w ∧
      ∃ list ∈ (s.step (.operation .snapshot)).lists.ofSession,
        (s.step (.operation .snapshot)).lists.contents[list]? = some rules := by
  have reaches : Operation.step s.workspace .snapshot = w := by
    rw [Operation.step, Operation.action, Workspace.run_bind, answered]
    rfl
  have opened := hold.opened_snapshot
  rw [reaches] at opened
  obtain ⟨source, isSource, holds⟩ := opened.exists_source answered
  refine ⟨reaches, ?_⟩
  simp only [step, RuleLists.after, reaches, isSource]
  refine ⟨_, List.mem_append_right _ (List.mem_singleton_self _), ?_⟩
  simp [RuleLists.give, holds]

/-- A list of the session is changed by nothing but the session. -/
theorem step_keeps (hold : s.lists.Hold s.workspace) (has : list ∈ s.lists.ofSession) {deed : Deed}
    (unchanged : ¬ deed.Changes list) : s.lists.Keeps list (s.step deed).lists := by
  cases deed with
  | operation op => exact hold.keeps_of_after has op
  | change other rules => exact RuleLists.keeps_of_change has unchanged rules

theorem foldl_keeps (hold : s.lists.Hold s.workspace) (has : list ∈ s.lists.ofSession)
    (unchanged : ∀ deed ∈ deeds, ¬ deed.Changes list) :
    s.lists.Keeps list (deeds.foldl step s).lists := by
  induction deeds generalizing s with
  | nil => exact ⟨has, rfl⟩
  | cons deed rest ih =>
      obtain ⟨first, others⟩ := List.forall_mem_cons.mp unchanged
      have keeps := step_keeps hold has first
      exact keeps.trans (ih (step_hold hold deed) keeps.has others)

end Shared

end NotebookAudit

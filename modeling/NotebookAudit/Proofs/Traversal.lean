/-!
Lists that are mapped by a function which may fail, and lists that are put together from parts.

`List.mapM` in `Except` succeeds with the images of all items if every item succeeds, and it fails
if one item fails. `filter_flatMap_of_apart` takes one part out of a list again, by a test that the
other parts do not pass, and `flatMap_filter_perm` puts the parts together that distinct keys take out.
-/

namespace NotebookAudit

variable {ε α β : Type} {f : α → Except ε β}

theorem toOption_eq_some_iff {r : Except ε α} {a : α} : r.toOption = some a ↔ r = .ok a := by
  cases r with
  | ok b => simp [Except.toOption]
  | error e => simp [Except.toOption]

/-- A result that is an error under a condition, and a value without it, is a value exactly without
the condition. -/
theorem eq_ok_iff_of_cases {r : Except ε α} {a b : α} {broken : Prop}
    (fails : broken → ∃ e, r = .error e) (succeeds : ¬ broken → r = .ok a) :
    r = .ok b ↔ ¬ broken ∧ b = a := by
  by_cases isBroken : broken
  · obtain ⟨e, failed⟩ := fails isBroken
    rw [failed]
    constructor
    · intro same
      cases same
    · intro together
      exact absurd isBroken together.1
  · rw [succeeds isBroken]
    constructor
    · intro same
      exact ⟨isBroken, (Except.ok.inj same).symm⟩
    · intro together
      rw [together.2]

theorem mapM_eq_ok_map {g : α → β} {xs : List α} (succeeds : ∀ x ∈ xs, f x = .ok (g x)) :
    xs.mapM f = .ok (xs.map g) := by
  induction xs with
  | nil => rfl
  | cons x rest ih =>
      rw [List.forall_mem_cons] at succeeds
      rw [List.mapM_cons, succeeds.1, ih succeeds.2]
      rfl

/-- If a function gives the images of what another gives, so it does for all items of a list. -/
theorem mapM_eq_map_mapM {γ : Type} {g : α → Except ε γ} {k : β → γ} {xs : List α}
    (each : ∀ x ∈ xs, g x = (f x).map k) : xs.mapM g = (xs.mapM f).map (List.map k) := by
  induction xs with
  | nil => rfl
  | cons x rest ih =>
      rw [List.forall_mem_cons] at each
      rw [List.mapM_cons, List.mapM_cons, each.1, ih each.2]
      cases f x with
      | error e => rfl
      | ok y => cases rest.mapM f <;> rfl

theorem exists_mapM_eq_error {xs : List α} (fails : ∃ x ∈ xs, ∃ e, f x = .error e) :
    ∃ e, xs.mapM f = .error e := by
  induction xs with
  | nil =>
      obtain ⟨_, member, _⟩ := fails
      cases member
  | cons x rest ih =>
      rw [List.mapM_cons]
      cases first : f x with
      | error e => exact ⟨e, rfl⟩
      | ok y =>
          obtain ⟨z, member, failsAt⟩ := fails
          rcases List.mem_cons.mp member with rfl | member
          · obtain ⟨e, failed⟩ := failsAt
            rw [first] at failed
            cases failed
          · obtain ⟨e, failed⟩ := ih ⟨z, member, failsAt⟩
            exact ⟨e, by rw [failed]; rfl⟩

/-- What a list is mapped to, mapped back, is a part of the list in its order. -/
theorem map_filterMap_sublist {f : α → Option β} {g : β → α}
    (back : ∀ a b, f a = some b → g b = a) (xs : List α) :
    ((xs.filterMap f).map g).Sublist xs := by
  induction xs with
  | nil => exact .slnil
  | cons x rest ih =>
      rw [List.filterMap_cons]
      cases image : f x with
      | none => exact ih.cons x
      | some y =>
          rw [List.map_cons, back x y image]
          exact ih.cons_cons x

/-- If the items of a list are apart from each other, a test that holds of all of the part of one
item, and of nothing in the part of an item apart from it, gives back the part of this item. -/
theorem filter_flatMap_of_apart {g : α → List β} {test : β → Bool} {apart : α → α → Prop}
    {xs : List α} {x : α} (distinct : xs.Pairwise apart) (member : x ∈ xs)
    (own : ∀ b ∈ g x, test b = true)
    (other : ∀ y ∈ xs, apart x y ∨ apart y x → ∀ b ∈ g y, test b ≠ true) :
    (xs.flatMap g).filter test = g x := by
  induction xs with
  | nil => cases member
  | cons y rest ih =>
      rw [List.pairwise_cons] at distinct
      rw [List.forall_mem_cons] at other
      rw [List.flatMap_cons, List.filter_append]
      rcases List.mem_cons.mp member with rfl | later
      · have noneLater : (rest.flatMap g).filter test = [] := by
          rw [List.filter_flatMap, List.flatMap_eq_nil_iff]
          exact fun z inRest =>
            List.filter_eq_nil_iff.mpr (other.2 z inRest (.inl (distinct.1 z inRest)))
        rw [List.filter_eq_self.mpr own, noneLater, List.append_nil]
      · rw [List.filter_eq_nil_iff.mpr (other.1 (.inr (distinct.1 x later))),
          ih distinct.2 later other.2, List.nil_append]

/-- Items that are taken out by distinct keys are the items again, each as often as before. -/
theorem flatMap_filter_perm [DecidableEq β] {key : α → β} {keys : List β}
    {items : List α} (distinct : keys.Nodup) (covered : ∀ x ∈ items, key x ∈ keys) :
    (keys.flatMap fun k => items.filter (key · = k)).Perm items := by
  induction keys generalizing items with
  | nil =>
      have none : items = [] := List.eq_nil_iff_forall_not_mem.mpr fun x member =>
        List.not_mem_nil (covered x member)
      rw [none]
      exact .nil
  | cons k others ih =>
      rw [List.nodup_cons] at distinct
      -- the other keys find nothing among the items of the first
      have apart : (others.flatMap fun k' => items.filter (key · = k')) =
          others.flatMap fun k' => (items.filter fun x => !decide (key x = k)).filter (key · = k') := by
        rw [List.flatMap_def, List.flatMap_def]
        congr 1
        refine List.map_congr_left fun k' member => ?_
        rw [List.filter_filter]
        refine List.filter_congr fun x _ => ?_
        by_cases same : key x = k'
        · have other : k' ≠ k := fun again => distinct.1 (again ▸ member)
          simp [same, other]
        · simp [same]
      have rest : (others.flatMap fun k' => items.filter (key · = k')).Perm
          (items.filter fun x => !decide (key x = k)) := by
        rw [apart]
        refine ih distinct.2 fun x member => ?_
        rw [List.mem_filter] at member
        exact (List.mem_cons.mp (covered x member.1)).resolve_left (by simpa using member.2)
      rw [List.flatMap_cons]
      exact (List.Perm.append_left _ rest).trans (List.filter_append_perm _ _)

end NotebookAudit

import Mathlib.Data.List.Forall2

/-!
Results of computations that may fail: when a computation that is put together from others ends in a
value, and in which error.
-/

namespace NotebookAudit

variable {ε ε' α β : Type}

/-- A value after one computation and another comes from a value of the first. -/
theorem bind_eq_ok_iff {r : Except ε α} {f : α → Except ε β} {b : β} :
    r >>= f = .ok b ↔ ∃ a, r = .ok a ∧ f a = .ok b := by
  cases r with
  | ok a =>
      constructor
      · intro value
        exact ⟨a, rfl, value⟩
      · intro value
        obtain ⟨_, same, value⟩ := value
        cases same
        exact value
  | error e =>
      constructor
      · intro value
        cases value
      · intro value
        obtain ⟨_, same, -⟩ := value
        cases same

/-- An error of one computation and another is one of the first, or one of the second. -/
theorem bind_eq_error_iff {r : Except ε α} {f : α → Except ε β} {e : ε} :
    r >>= f = .error e ↔ r = .error e ∨ ∃ a, r = .ok a ∧ f a = .error e := by
  cases r with
  | ok a =>
      constructor
      · intro failed
        exact .inr ⟨a, rfl, failed⟩
      · intro failed
        rcases failed with failed | ⟨_, same, failed⟩
        · cases failed
        · cases same
          exact failed
  | error e' =>
      constructor
      · intro failed
        cases failed
        exact .inl rfl
      · intro failed
        rcases failed with failed | ⟨_, same, -⟩
        · cases failed
          rfl
        · cases same

theorem map_eq_ok_iff {r : Except ε α} {f : α → β} {b : β} :
    r.map f = .ok b ↔ ∃ a, r = .ok a ∧ f a = b := by
  cases r with
  | ok a => simp [Except.map]
  | error e => simp [Except.map]

theorem mapError_eq_ok_iff {r : Except ε α} {f : ε → ε'} {a : α} :
    r.mapError f = .ok a ↔ r = .ok a := by
  cases r with
  | ok a => simp [Except.mapError]
  | error e => simp [Except.mapError]

theorem mapError_eq_error_iff {r : Except ε α} {f : ε → ε'} {e' : ε'} :
    r.mapError f = .error e' ↔ ∃ e, r = .error e ∧ f e = e' := by
  cases r with
  | ok a => simp [Except.mapError]
  | error e => simp [Except.mapError]

/-- The items of a list each have an image exactly if the list has one, item by item. -/
theorem forall_exists_iff_forall₂ {R : α → β → Prop} {xs : List α} :
    (∀ x ∈ xs, ∃ y, R x y) ↔ ∃ ys, List.Forall₂ R xs ys := by
  induction xs with
  | nil => exact ⟨fun _ => ⟨[], .nil⟩, fun _ => List.forall_mem_nil _⟩
  | cons x rest ih =>
      rw [List.forall_mem_cons, ih]
      constructor
      · intro images
        obtain ⟨⟨y, first⟩, ys, others⟩ := images
        exact ⟨y :: ys, .cons first others⟩
      · intro images
        obtain ⟨_, images⟩ := images
        cases images with
        | cons first others => exact ⟨⟨_, first⟩, _, others⟩

/-- Lists that are put together from parts agree item by item if the parts do. -/
theorem forall₂_flatMap {γ : Type} {R : β → γ → Prop} {f : α → List β} {g : α → List γ}
    {xs : List α} (parts : ∀ x ∈ xs, List.Forall₂ R (f x) (g x)) :
    List.Forall₂ R (xs.flatMap f) (xs.flatMap g) := by
  induction xs with
  | nil => exact .nil
  | cons x rest ih =>
      rw [List.forall_mem_cons] at parts
      rw [List.flatMap_cons, List.flatMap_cons]
      exact List.rel_append parts.1 (ih parts.2)

/-- A list is mapped to the results of its items, if every item has one. -/
theorem mapM_eq_ok_iff {f : α → Except ε β} {xs : List α} {ys : List β} :
    xs.mapM f = .ok ys ↔ List.Forall₂ (fun x y => f x = .ok y) xs ys := by
  induction xs generalizing ys with
  | nil =>
      rw [List.forall₂_nil_left_iff, List.mapM_nil]
      exact ⟨fun same => (Except.ok.inj same).symm, fun empty => by rw [empty]; rfl⟩
  | cons x rest ih =>
      rw [List.mapM_cons, bind_eq_ok_iff, List.forall₂_cons_left_iff]
      constructor
      · intro value
        obtain ⟨y, first, value⟩ := value
        obtain ⟨more, others, value⟩ := bind_eq_ok_iff.mp value
        exact ⟨y, more, first, ih.mp others, (Except.ok.inj value).symm⟩
      · intro images
        obtain ⟨y, more, first, others, rfl⟩ := images
        exact ⟨y, first, bind_eq_ok_iff.mpr ⟨more, ih.mpr others, rfl⟩⟩

/-- A list that is mapped up to an item which fails fails as this item does. -/
theorem mapM_eq_error {f : α → Except ε β} {before after : List α} {x : α} {e : ε}
    (succeeds : ∀ y ∈ before, ∃ b, f y = .ok b) (fails : f x = .error e) :
    (before ++ x :: after).mapM f = .error e := by
  induction before with
  | nil =>
      rw [List.nil_append, List.mapM_cons, fails]
      rfl
  | cons y rest ih =>
      rw [List.forall_mem_cons] at succeeds
      obtain ⟨b, first⟩ := succeeds.1
      rw [List.cons_append, List.mapM_cons, first, bind_eq_error_iff]
      exact .inr ⟨b, rfl, bind_eq_error_iff.mpr (.inl (ih succeeds.2))⟩

end NotebookAudit

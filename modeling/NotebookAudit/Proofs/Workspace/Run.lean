import Mathlib.Order.Defs.Unbundled
import NotebookAudit.Workspace

/-!
Runs of operations on a workspace.

`Workspace.run` says what an operation gives in a workspace and which workspace it leaves, also when
it fails. `Leads R` says that every run of an operation relates the two workspaces by `R`; for a
preorder this follows from the parts of the operation (`Leads.bind`).
-/

namespace NotebookAudit

variable {α β : Type}

namespace Workspace

/-- What an operation gives in a workspace, and the workspace after it. -/
def run (w : Workspace) (m : WorkspaceM α) : Except WorkspaceError α × Workspace :=
  StateT.run (ExceptT.run m) w

@[simp] theorem run_pure (w : Workspace) (a : α) : w.run (pure a) = (.ok a, w) := rfl

@[simp] theorem run_throw (w : Workspace) (e : WorkspaceError) :
    w.run (throw e : WorkspaceM α) = (.error e, w) := rfl

@[simp] theorem run_get (w : Workspace) : w.run get = (.ok w, w) := rfl

@[simp] theorem run_modify (w : Workspace) (f : Workspace → Workspace) :
    w.run (modify f) = (.ok (), f w) := rfl

@[simp] theorem run_lift {ε : Type} (w : Workspace) (wrap : ε → WorkspaceError) (r : Except ε α) :
    w.run (lift wrap r) = (r.mapError wrap, w) := by
  cases r <;> rfl

/-- An operation goes on in the workspace that its first part leaves, unless that part fails. -/
theorem run_bind (w : Workspace) (m : WorkspaceM α) (f : α → WorkspaceM β) :
    w.run (m >>= f) =
      match w.run m with
      | (.ok a, after) => after.run (f a)
      | (.error e, after) => (.error e, after) := by
  show StateT.run (ExceptT.run (m >>= f)) w = _
  rw [ExceptT.run_bind, StateT.run_bind]
  show (match StateT.run (ExceptT.run m) w with | (r, after) => _) = _
  rw [run]
  rcases StateT.run (ExceptT.run m) w with ⟨r, after⟩
  cases r <;> rfl

end Workspace

/-- Every run of the operation relates the workspace before it to the one after it, also a run that
fails. -/
def Leads (R : Workspace → Workspace → Prop) (m : WorkspaceM α) : Prop := ∀ w, R w (w.run m).2

namespace Leads

variable {R : Workspace → Workspace → Prop} [IsPreorder Workspace R]

theorem pure (a : α) : Leads R (Pure.pure a : WorkspaceM α) := fun w => refl_of R w

theorem throw (e : WorkspaceError) : Leads R (throw e : WorkspaceM α) := fun w => refl_of R w

theorem get : Leads R (get : WorkspaceM Workspace) := fun w => refl_of R w

omit [IsPreorder Workspace R] in
/-- An operation that starts by looking at the workspace may use what it sees. -/
theorem get_bind {f : Workspace → WorkspaceM α} (next : ∀ w, R w (w.run (f w)).2) :
    Leads R (MonadState.get >>= f : WorkspaceM α) := next

omit [IsPreorder Workspace R] in
theorem modify {f : Workspace → Workspace} (changes : ∀ w, R w (f w)) :
    Leads R (modify f : WorkspaceM Unit) := changes

theorem bind {m : WorkspaceM α} {f : α → WorkspaceM β} (first : Leads R m)
    (next : ∀ a, Leads R (f a)) : Leads R (m >>= f) := by
  intro w
  rw [Workspace.run_bind]
  have before := first w
  split
  · next a after ran =>
    rw [ran] at before
    exact trans_of R before (next a after)
  · next e after ran =>
    rw [ran] at before
    exact before

theorem lift {ε : Type} (wrap : ε → WorkspaceError) (result : Except ε α) :
    Leads R (Workspace.lift wrap result) := by
  cases result with
  | ok a => exact pure a
  | error e => exact throw (wrap e)

theorem require (found : Option α) : Leads R (Workspace.require found) := by
  cases found with
  | some a => exact pure a
  | none => exact throw .notOpen

theorem mapM {γ : Type} {f : γ → WorkspaceM α} (each : ∀ c, Leads R (f c)) (list : List γ) :
    Leads R (list.mapM f) := by
  induction list with
  | nil => exact pure []
  | cons c rest ih =>
      rw [List.mapM_cons]
      exact bind (each c) fun _ => bind ih fun _ => pure _

end Leads

end NotebookAudit

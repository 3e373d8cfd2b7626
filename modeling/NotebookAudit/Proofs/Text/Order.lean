import Mathlib.Data.List.Lex
import NotebookAudit.Text.Basic

/-!
The order of texts.

Texts are compared code point by code point, which is the lexicographic order of lists. Sorting
different texts therefore gives the one list of them in which every text is less than those after it
(`Text.sort_increasing`, `Text.increasing_unique`).
-/

namespace NotebookAudit.Text

/-- The comparison of texts is their lexicographic order. -/
theorem isAtMost_iff {s t : Text} : isAtMost s t = true ↔ s ≤ t := by
  rw [← not_lt]
  induction s generalizing t with
  | nil => simp [isAtMost]
  | cons a s ih =>
      cases t with
      | nil => simp [isAtMost]
      | cons b t =>
          rw [isAtMost, List.cons_lt_cons_iff, Bool.or_eq_true, Bool.and_eq_true, ih,
            decide_eq_true_iff, beq_iff_eq]
          grind

theorem sort_perm (ts : List Text) : (sort ts).Perm ts := List.mergeSort_perm ts _

@[simp] theorem mem_sort {t : Text} {ts : List Text} : t ∈ sort ts ↔ t ∈ ts :=
  (sort_perm ts).mem_iff

/-- A sorted list of different texts is increasing. -/
theorem sort_increasing {ts : List Text} (distinct : ts.Nodup) : (sort ts).Pairwise (· < ·) := by
  have ordered : (sort ts).Pairwise fun s t => isAtMost s t = true := by
    refine List.pairwise_mergeSort ?_ ?_ ts
    · intro s t u first second
      exact isAtMost_iff.mpr ((isAtMost_iff.mp first).trans (isAtMost_iff.mp second))
    · intro s t
      rw [Bool.or_eq_true, isAtMost_iff, isAtMost_iff]
      exact le_total s t
  have different : (sort ts).Pairwise (· ≠ ·) := (sort_perm ts).nodup_iff.mpr distinct
  exact (ordered.and different).imp fun both =>
    lt_of_le_of_ne (isAtMost_iff.mp both.1) both.2

/-- Texts in increasing order stay as they are. -/
theorem sort_of_increasing {ts : List Text} (increasing : ts.Pairwise (· < ·)) : sort ts = ts :=
  List.mergeSort_of_pairwise (increasing.imp fun less => isAtMost_iff.mpr less.le)

/-- There is one increasing list of given texts. -/
theorem increasing_unique {ss ts : List Text} (first : ss.Pairwise (· < ·))
    (second : ts.Pairwise (· < ·)) (same : ∀ t, t ∈ ss ↔ t ∈ ts) : ss = ts := by
  have perm : ss.Perm ts :=
    (List.perm_ext_iff_of_nodup (first.imp fun less => less.ne) (second.imp fun less => less.ne)).mpr
      same
  exact perm.eq_of_pairwise (fun s t _ _ less more => absurd less more.asymm) first second

end NotebookAudit.Text

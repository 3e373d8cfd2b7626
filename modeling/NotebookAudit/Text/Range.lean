import NotebookAudit.Text.Basic

/-!
Membership in a table of ranges.

A character property is a list of ranges in ascending order, both ends included.
-/

namespace NotebookAudit.CodePoint

/-- Whether `c` lies in one of the ranges, which ascend. -/
def inRanges (c : CodePoint) : List (Nat × Nat) → Bool
  | [] => false
  | (lo, hi) :: rest => if c < lo then false else if c ≤ hi then true else inRanges c rest

end NotebookAudit.CodePoint

import NotebookAudit.Notebook.Basic

/-!
The code lines of a notebook, by their places.

`Notebook.mem_codeLines` says which lines they are: those of the code cells, each with the index of
its cell and its index there. `Notebook.codeLines_pairwise` says that they come in the order of
their places, no place twice.
-/

namespace NotebookAudit

/-- A line comes before another: in an earlier cell, or earlier in the same cell. -/
def PlacedLine.Before (l m : PlacedLine) : Prop :=
  l.cell < m.cell ∨ l.cell = m.cell ∧ l.line < m.line

namespace Notebook

/-- The code cells are the cells whose kind is code, each with its index. -/
theorem mem_codeCells {n : Notebook} {p : Cell × Nat} :
    p ∈ n.codeCells ↔ n.cells[p.2]? = some p.1 ∧ p.1.isCode = true := by
  rw [codeCells, List.mem_filter, List.mem_zipIdx_iff_getElem?]

/-- The code lines are the lines of the code cells, each with its place. -/
theorem mem_codeLines {n : Notebook} {l : PlacedLine} :
    l ∈ n.codeLines ↔
      ∃ c, n.cells[l.cell]? = some c ∧ c.isCode = true ∧ c.lines[l.line]? = some l.text := by
  simp only [codeLines, List.mem_flatMap, List.mem_map, mem_codeCells]
  constructor
  · intro member
    obtain ⟨⟨c, i⟩, ⟨cellAt, code⟩, ⟨t, j⟩, lineIn, rfl⟩ := member
    exact ⟨c, cellAt, code, List.mem_zipIdx_iff_getElem?.mp lineIn⟩
  · intro placed
    obtain ⟨c, cellAt, code, lineAt⟩ := placed
    exact ⟨(c, l.cell), ⟨cellAt, code⟩, (l.text, l.line),
      List.mem_zipIdx_iff_getElem?.mpr lineAt, rfl⟩

/-- The items of a list come in the order of their indices. -/
theorem zipIdx_pairwise {α : Type} (xs : List α) :
    xs.zipIdx.Pairwise fun p q => p.2 < q.2 := by
  have indices : (xs.zipIdx.map Prod.snd).Pairwise (· < ·) := by
    rw [List.zipIdx_map_snd]
    exact List.pairwise_lt_range'
  exact List.pairwise_map.mp indices

/-- The code lines come in the order of their places. -/
theorem codeLines_pairwise (n : Notebook) : n.codeLines.Pairwise PlacedLine.Before := by
  rw [codeLines, List.pairwise_flatMap]
  constructor
  · intro p _
    rw [List.pairwise_map]
    exact (zipIdx_pairwise p.1.lines).imp fun before => .inr ⟨rfl, before⟩
  · refine ((zipIdx_pairwise n.cells).filter _).imp ?_
    intro p q before l lineIn m otherIn
    obtain ⟨_, _, rfl⟩ := List.mem_map.mp lineIn
    obtain ⟨_, _, rfl⟩ := List.mem_map.mp otherIn
    exact .inl before

end Notebook

end NotebookAudit

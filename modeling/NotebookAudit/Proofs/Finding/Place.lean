import NotebookAudit.Notebook.Frame
import NotebookAudit.Proofs.Notebook.Lines

/-!
Where findings point.

`Finding.PointsInto` says what the numbers of a finding promise of a notebook: the cell is there,
the text shown is that of the cell, a line is a line of a code cell, and the content is that line or
the first line of the cell. There are three kinds of findings, on a whole document, on a line and on
a whole cell, and each keeps the promise if its line or cell is in the notebook.
-/

namespace NotebookAudit

/-! ## What the numbers of a finding promise -/

/-- The cell and the line that a finding names are in the notebook, and it shows what stands
there. -/
structure Finding.PointsInto (n : Notebook) (f : Finding) : Prop where
  cell : ∀ k, f.cellNumber = some k → 1 ≤ k ∧ k ≤ n.cells.length
  cellText : ∀ t, f.cellText = some t →
    ∃ k c, f.cellNumber = some k ∧ n.cells[k - 1]? = some c ∧ t = c.text
  line : ∀ j, f.lineNumber = some j →
    ∃ k c line, f.cellNumber = some k ∧ n.cells[k - 1]? = some c ∧ c.isCode = true ∧
      1 ≤ j ∧ j ≤ c.lines.length ∧ c.lines[j - 1]? = some line ∧ f.content = some line.trim
  content : ∀ t, f.content = some t → f.lineNumber = none →
    ∃ k c, f.cellNumber = some k ∧ n.cells[k - 1]? = some c ∧ t = c.firstLine
  unplaced : f.cellNumber = none →
    f.lineNumber = none ∧ f.content = none ∧ f.cellText = none

/-- A finding of a document that points into its notebook. -/
structure Finding.Concerns (n : Notebook) (document : Text) (f : Finding) : Prop where
  document : f.document = document
  pointsInto : f.PointsInto n

/-- The line of a finding comes before that of another. -/
def Finding.Before (f g : Finding) : Prop :=
  ∃ i j i' j', f.cellNumber = some i ∧ f.lineNumber = some j ∧ g.cellNumber = some i' ∧
    g.lineNumber = some j' ∧ (i < i' ∨ i = i' ∧ j < j')

/-- The line of a finding is that of another or comes before it. -/
def Finding.NotAfter (f g : Finding) : Prop :=
  ∃ i j i' j', f.cellNumber = some i ∧ f.lineNumber = some j ∧ g.cellNumber = some i' ∧
    g.lineNumber = some j' ∧ (i < i' ∨ i = i' ∧ j ≤ j')

/-- A finding on a line of a notebook: it has the numbers of the line and shows the line and its
cell. -/
structure Finding.OnLine (n : Notebook) (l : PlacedLine) (f : Finding) : Prop where
  cellNumber : f.cellNumber = some (l.cell + 1)
  lineNumber : f.lineNumber = some (l.line + 1)
  content : f.content = some l.text.trim
  cellText : f.cellText = some (n.cellText l.cell)

namespace Finding

variable {n : Notebook} {f g : Finding} {l m : PlacedLine}

theorem Before.of_onLine (first : f.OnLine n l) (second : g.OnLine n m) (before : l.Before m) :
    f.Before g := by
  refine ⟨_, _, _, _, first.cellNumber, first.lineNumber, second.cellNumber, second.lineNumber, ?_⟩
  rcases before with earlierCell | ⟨sameCell, earlierLine⟩
  · exact .inl (Nat.succ_lt_succ earlierCell)
  · exact .inr ⟨congrArg _ sameCell, Nat.succ_lt_succ earlierLine⟩

theorem NotAfter.of_before (before : f.Before g) : f.NotAfter g := by
  obtain ⟨i, j, i', j', cell, line, cell', line', order⟩ := before
  refine ⟨i, j, i', j', cell, line, cell', line', ?_⟩
  rcases order with earlierCell | ⟨sameCell, earlierLine⟩
  · exact .inl earlierCell
  · exact .inr ⟨sameCell, Nat.le_of_lt earlierLine⟩

theorem NotAfter.of_same_line (first : f.OnLine n l) (second : g.OnLine n l) : f.NotAfter g :=
  ⟨_, _, _, _, first.cellNumber, first.lineNumber, second.cellNumber, second.lineNumber,
    .inr ⟨rfl, Nat.le_refl _⟩⟩

/-! ## The kinds of findings -/

/-- A finding of a whole document names no place. -/
theorem ofDocument_pointsInto (n : Notebook) (document kind details : Text)
    (severity : Severity) : (ofDocument document kind details severity).PointsInto n where
  cell := fun _ placed => nomatch placed
  cellText := fun _ shown => nomatch shown
  line := fun _ placed => nomatch placed
  content := fun _ shown => nomatch shown
  unplaced := fun _ => ⟨rfl, rfl, rfl⟩

/-- A finding on a code line of the notebook keeps the promise of its numbers. -/
theorem OnLine.pointsInto (onLine : f.OnLine n l) (member : l ∈ n.codeLines) :
    f.PointsInto n := by
  obtain ⟨c, cellAt, code, lineAt⟩ := Notebook.mem_codeLines.mp member
  obtain ⟨cellIn, -⟩ := List.getElem?_eq_some_iff.mp cellAt
  obtain ⟨lineIn, -⟩ := List.getElem?_eq_some_iff.mp lineAt
  obtain ⟨cellNumber, lineNumber, content, cellText⟩ := onLine
  constructor
  · intro k placed
    rw [cellNumber] at placed
    cases placed
    exact ⟨Nat.succ_le_succ (Nat.zero_le _), cellIn⟩
  · intro t shown
    rw [cellText, Notebook.cellText, cellAt] at shown
    cases shown
    exact ⟨_, c, cellNumber, cellAt, rfl⟩
  · intro j placed
    rw [lineNumber] at placed
    cases placed
    exact ⟨_, c, l.text, cellNumber, cellAt, code, Nat.succ_le_succ (Nat.zero_le _), lineIn,
      lineAt, content⟩
  · intro t _ noLine
    rw [lineNumber] at noLine
    cases noLine
  · intro noCell
    rw [cellNumber] at noCell
    cases noCell

end Finding

/-- A finding on a whole cell of the notebook keeps the promise of its number. -/
theorem Cell.finding_pointsInto {n : Notebook} {c : Cell} {index : Nat}
    (cellAt : n.cells[index]? = some c) (document kind details : Text) (severity : Severity) :
    (c.finding index document kind details severity).PointsInto n := by
  obtain ⟨cellIn, -⟩ := List.getElem?_eq_some_iff.mp cellAt
  constructor
  · intro k placed
    cases placed
    exact ⟨Nat.succ_le_succ (Nat.zero_le _), cellIn⟩
  · intro t shown
    cases shown
    exact ⟨_, c, rfl, cellAt, rfl⟩
  · intro j placed
    cases placed
  · intro t shown _
    cases shown
    exact ⟨_, c, rfl, cellAt, rfl⟩
  · intro noCell
    cases noCell

end NotebookAudit

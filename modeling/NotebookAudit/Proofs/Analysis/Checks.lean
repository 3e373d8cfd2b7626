import NotebookAudit.Proofs.Finding.Place
import NotebookAudit.Proofs.Rule.Scan
import NotebookAudit.Symbol.Usage

/-!
The findings of the checks of a notebook, check by check.

For the header, the declarations that are not used, the footer, the rules and their failures this
says what kind of findings the check gives, that they are findings of the document, that they point
into the notebook, and how many they are or in which order they come.
-/

namespace NotebookAudit

variable {n : Notebook} {document : Text} {f : Finding}

/-! ## The header -/

namespace Notebook

/-- The header gives at most one finding, a warning on the first cell. -/
theorem headerFindings_length (n : Notebook) (document : Text) :
    (n.headerFindings document).length ≤ 1 := by
  unfold headerFindings
  split
  · exact Nat.zero_le _
  · dsimp only
    split
    · exact Nat.zero_le _
    · exact Nat.le_refl _

theorem of_mem_headerFindings (member : f ∈ n.headerFindings document) :
    f.Concerns n document ∧ f.kind = "Header Incorrecto" ∧ f.severity = .warning := by
  unfold headerFindings at member
  split at member
  · cases member
  · next first rest cells =>
    dsimp only at member
    split at member
    · cases member
    · rw [List.mem_singleton] at member
      subst member
      have cellAt : n.cells[0]? = some first := by rw [cells]; rfl
      exact ⟨⟨rfl, Cell.finding_pointsInto cellAt _ _ _ _⟩, rfl, rfl⟩

/-! ## Declarations that are not used -/

/-- A declaration stands on a code line, from which its symbol is read. -/
theorem mem_declarations {symbol? : Text → Option Text} {d : Declaration} :
    d ∈ n.declarations symbol? ↔
      ∃ l ∈ n.codeLines, ∃ s, symbol? l.text = some s ∧ d = ⟨s, l.cell, l.line, l.text.trim⟩ := by
  simp only [declarations, List.mem_filterMap, Option.map_eq_some_iff]
  constructor
  · intro declared
    obtain ⟨l, member, s, read, rfl⟩ := declared
    exact ⟨l, member, s, read, rfl⟩
  · intro declared
    obtain ⟨l, member, s, read, rfl⟩ := declared
    exact ⟨l, member, s, read, rfl⟩

/-- The finding on a declaration is one on the line that declares it. -/
theorem unusedFinding_onLine {symbol? : Text → Option Text} {d : Declaration}
    (member : d ∈ n.declarations symbol?) (document kind details : Text) :
    ∃ l ∈ n.codeLines, (d.unusedFinding n document kind details).OnLine n l := by
  obtain ⟨l, lineIn, s, -, rfl⟩ := mem_declarations.mp member
  exact ⟨l, lineIn, rfl, rfl, rfl, rfl⟩

/-- Declarations come in the order of their lines, no two from one line. -/
theorem declarations_pairwise (symbol? : Text → Option Text) (n : Notebook) :
    (n.declarations symbol?).Pairwise fun d e =>
      d.cell < e.cell ∨ d.cell = e.cell ∧ d.line < e.line := by
  refine n.codeLines_pairwise.filterMap _ ?_
  intro l m before d readFirst e readSecond
  obtain ⟨s, -, rfl⟩ := Option.map_eq_some_iff.mp readFirst
  obtain ⟨t, -, rfl⟩ := Option.map_eq_some_iff.mp readSecond
  exact before

section Unused

variable (symbol? : Text → Option Text) (keep : Declaration → Bool) (document kind : Text)
  (details : Declaration → Text)

/-- A finding on a declaration is a warning on the line that declares it. -/
theorem of_mem_unused (member : f ∈ ((n.declarations symbol?).filter keep).map fun d =>
      d.unusedFinding n document kind (details d)) :
    f.Concerns n document ∧ f.kind = kind ∧ f.severity = .warning := by
  obtain ⟨d, kept, rfl⟩ := List.mem_map.mp member
  obtain ⟨l, lineIn, onLine⟩ :=
    unusedFinding_onLine (List.mem_filter.mp kept).1 document kind (details d)
  exact ⟨⟨rfl, onLine.pointsInto lineIn⟩, rfl, rfl⟩

/-- The findings on declarations come in the order of their lines. -/
theorem unused_pairwise (n : Notebook) :
    (((n.declarations symbol?).filter keep).map fun d =>
      d.unusedFinding n document kind (details d)).Pairwise Finding.Before := by
  rw [List.pairwise_map]
  refine ((declarations_pairwise symbol? n).filter keep).imp ?_
  intro d e before
  refine ⟨_, _, _, _, rfl, rfl, rfl, rfl, ?_⟩
  rcases before with earlierCell | ⟨sameCell, earlierLine⟩
  · exact .inl (Nat.succ_lt_succ earlierCell)
  · exact .inr ⟨congrArg _ sameCell, Nat.succ_lt_succ earlierLine⟩

end Unused

theorem of_mem_unusedImports (member : f ∈ n.unusedImports document) :
    f.Concerns n document ∧ f.kind = "Importación no usada" ∧ f.severity = .warning :=
  of_mem_unused _ _ _ _ _ member

theorem unusedImports_pairwise (n : Notebook) (document : Text) :
    (n.unusedImports document).Pairwise Finding.Before :=
  unused_pairwise _ _ _ _ _ n

theorem of_mem_unusedWidgetVariables (member : f ∈ n.unusedWidgetVariables document) :
    f.Concerns n document ∧ f.kind = "Variable de widget no usada" ∧ f.severity = .warning :=
  of_mem_unused _ _ _ _ _ member

theorem unusedWidgetVariables_pairwise (n : Notebook) (document : Text) :
    (n.unusedWidgetVariables document).Pairwise Finding.Before :=
  unused_pairwise _ _ _ _ _ n

/-! ## The footer -/

/-- The index of the last closing cell is that of a closing cell. -/
theorem of_closingIndex?_eq_some {closing : Nat} (found : n.closingIndex? = some closing) :
    ∃ c, n.cells[closing]? = some c ∧ c.isClosing = true := by
  obtain ⟨p, last, rfl⟩ := Option.map_eq_some_iff.mp found
  have member := List.mem_filter.mp (List.mem_of_getLast? last)
  exact ⟨p.1, List.mem_zipIdx_iff_getElem?.mp member.1, member.2⟩

theorem exitFindings_length (exit : Cell) (index : Nat) (document : Text) :
    (exitFindings exit index document).length ≤ 1 := by
  unfold exitFindings
  split
  · exact Nat.zero_le _
  · exact Nat.le_refl _

theorem trailingFindings_length (after : List Cell) (index : Nat) (document : Text) :
    (trailingFindings after index document).length ≤ 1 := by
  unfold trailingFindings
  split
  · exact Nat.zero_le _
  · exact Nat.le_refl _

/-- The footer gives at most two findings. -/
theorem footerFindings_length (n : Notebook) (document : Text) :
    (n.footerFindings document).length ≤ 2 := by
  unfold footerFindings
  split
  · exact Nat.le_succ 1
  · split
    · exact Nat.le_succ 1
    · rw [List.length_append]
      exact Nat.add_le_add (exitFindings_length _ _ _) (trailingFindings_length _ _ _)

/-- The kinds of findings on the footer. -/
def footerKinds : List Text :=
  ["Footer Faltante", "Footer Incorrecto", "Código posterior al final"]

theorem of_mem_exitFindings {exit : Cell} {index : Nat} (cellAt : n.cells[index]? = some exit)
    (member : f ∈ exitFindings exit index document) :
    f.Concerns n document ∧ f.kind ∈ footerKinds ∧ f.severity = .info := by
  unfold exitFindings at member
  split at member
  · cases member
  · rw [List.mem_singleton] at member
    subst member
    exact ⟨⟨rfl, Cell.finding_pointsInto cellAt _ _ _ _⟩, .tail _ (.head _), rfl⟩

theorem of_mem_trailingFindings {after : List Cell} {index : Nat}
    (cellsAt : n.cells.drop index = after) (member : f ∈ trailingFindings after index document) :
    f.Concerns n document ∧ f.kind ∈ footerKinds ∧ f.severity = .info := by
  unfold trailingFindings at member
  split at member
  · cases member
  · next c rest =>
    rw [List.mem_singleton] at member
    subst member
    have cellAt : n.cells[index]? = some c := by
      rw [← List.head?_drop, cellsAt]
      rfl
    exact ⟨⟨rfl, Cell.finding_pointsInto cellAt _ _ _ _⟩, .tail _ (.tail _ (.head _)), rfl⟩

/-- The finding on a closing cell that ends the notebook names that cell and shows nothing of it. -/
theorem noExitFinding_pointsInto {closing : Nat} {c : Cell}
    (cellAt : n.cells[closing]? = some c) (document : Text) :
    (noExitFinding closing document).PointsInto n := by
  obtain ⟨cellIn, -⟩ := List.getElem?_eq_some_iff.mp cellAt
  constructor
  · intro k placed
    cases placed
    exact ⟨Nat.succ_le_succ (Nat.zero_le _), cellIn⟩
  · intro t shown
    cases shown
  · intro j placed
    cases placed
  · intro t shown
    cases shown
  · intro noCell
    cases noCell

/-- A finding on the footer is an info on the notebook or on one of its last cells. -/
theorem of_mem_footerFindings (member : f ∈ n.footerFindings document) :
    f.Concerns n document ∧ f.kind ∈ footerKinds ∧ f.severity = .info := by
  unfold footerFindings at member
  split at member
  · rw [List.mem_singleton] at member
    subst member
    exact ⟨⟨rfl, Finding.ofDocument_pointsInto _ _ _ _ _⟩, .head _, rfl⟩
  · next closing found =>
    obtain ⟨marked, closingAt, -⟩ := of_closingIndex?_eq_some found
    split at member
    · rw [List.mem_singleton] at member
      subst member
      exact ⟨⟨rfl, noExitFinding_pointsInto closingAt _⟩, .tail _ (.head _), rfl⟩
    · next exit after cellsAfter =>
      have exitAt : n.cells[closing + 1]? = some exit := by
        rw [← List.head?_drop, cellsAfter]
        rfl
      have afterAt : n.cells.drop (closing + 2) = after := by
        rw [← List.tail_drop, cellsAfter]
        rfl
      rcases List.mem_append.mp member with onExit | onTrailing
      · exact of_mem_exitFindings exitAt onExit
      · exact of_mem_trailingFindings afterAt onTrailing

end Notebook

/-! ## The rules -/

namespace RuleSet

variable {set : RuleSet}

/-- A finding of a rule carries its name, its message and its severity, and points to a line. -/
theorem of_mem_matchFindings (member : f ∈ set.matchFindings n document) :
    f.Concerns n document ∧
      ∃ c ∈ set.rules, f.kind = c.rule.name ∧ f.details = c.rule.message ∧
        f.severity = c.rule.severity := by
  obtain ⟨l, lineIn, c, inSet, -, -, rfl⟩ := mem_matchFindings.mp member
  have onLine : (c.rule.finding n document l).OnLine n l := ⟨rfl, rfl, rfl, rfl⟩
  exact ⟨⟨rfl, onLine.pointsInto lineIn⟩, c, inSet, rfl, rfl, rfl⟩

/-- The findings of rules come in the order of their lines. -/
theorem matchFindings_pairwise (set : RuleSet) (n : Notebook) (document : Text) :
    (set.matchFindings n document).Pairwise Finding.NotAfter := by
  have onLine {l : PlacedLine} {f : Finding}
      (member : f ∈ set.rules.flatMap (CompiledRule.hits n document l)) : f.OnLine n l := by
    obtain ⟨c, -, hit⟩ := List.mem_flatMap.mp member
    obtain ⟨-, -, rfl⟩ := CompiledRule.mem_hits.mp hit
    exact ⟨rfl, rfl, rfl, rfl⟩
  rw [matchFindings, List.pairwise_flatMap]
  constructor
  · intro l _
    exact List.pairwise_of_forall_mem_list fun f first g second =>
      .of_same_line (onLine first) (onLine second)
  · refine n.codeLines_pairwise.imp ?_
    intro l m before f first g second
    exact .of_before (.of_onLine (onLine first) (onLine second) before)

/-- A failure gives a critical finding on the document. -/
theorem of_mem_failureFindings (n : Notebook) (member : f ∈ set.failureFindings document) :
    f.Concerns n document ∧ f.kind = "Error de Regla" ∧ f.severity = .critical := by
  obtain ⟨failure, -, rfl⟩ := List.mem_map.mp member
  exact ⟨⟨rfl, Finding.ofDocument_pointsInto _ _ _ _ _⟩, rfl, rfl⟩

end RuleSet

end NotebookAudit

import Mathlib.Data.List.InsertIdx
import NotebookAudit.Proofs.Analysis.Checks
import NotebookAudit.Proofs.Notebook.Renumbering

/-!
Only the code cells count.

A cell that is not code puts the cells behind it one index further and does nothing else
(`Notebook.renumbers_insertIdx`). To insert such a cell, to delete one, or to put another one in its
place therefore leaves the findings of the symbol checks and of every rule set as they are, up to the
numbers of the cells behind it: `Notebook.onlyCode_counts`.
-/

namespace NotebookAudit

theorem Cell.isCode_eq_false_iff {c : Cell} : c.isCode = false ↔ c.kind ≠ .code :=
  beq_eq_false_iff_ne

namespace Notebook

variable {n m : Notebook} {c : Cell} {k : Nat}

/-! ## The code lines beside an inserted cell -/

/-- The index that a cell has after a cell is inserted at index `k`. -/
def behind (k i : Nat) : Nat := if i < k then i else i + 1

theorem behind_injective (k : Nat) : Function.Injective (behind k) := by
  intro i j same
  unfold behind at same
  split at same <;> split at same <;> omega

/-- The code cells in front of an inserted cell keep their indices, and those behind it move on. -/
theorem codeCells_insertIdx (nonCode : c.isCode = false) (k start : Nat) (cells : List Cell) :
    ((cells.insertIdx k c).zipIdx start).filter (fun p => p.1.isCode) =
      ((cells.zipIdx start).filter fun p => p.1.isCode).map
        (Prod.map id (behind (start + k))) := by
  induction k generalizing start cells with
  | zero =>
      rw [List.insertIdx_zero, List.zipIdx_cons, List.filter_cons_of_neg (by simp [nonCode]),
        List.zipIdx_succ, List.filter_map]
      refine List.map_congr_left fun p kept => ?_
      have notBefore := List.le_snd_of_mem_zipIdx (List.mem_filter.mp kept).1
      have movesOn : behind start p.2 = p.2 + 1 := if_neg (Nat.not_lt.mpr notBefore)
      exact congrArg (Prod.mk p.1) movesOn.symm
  | succ k ih =>
      cases cells with
      | nil => rfl
      | cons first rest =>
          have sameIndex : behind (start + (k + 1)) start = start := if_pos (by omega)
          have sameStart : start + 1 + k = start + (k + 1) := by omega
          rw [List.insertIdx_succ_cons, List.zipIdx_cons, List.zipIdx_cons, List.filter_cons,
            List.filter_cons, ih, sameStart]
          split
          · simp [sameIndex]
          · rfl

/-- A cell that is not code only moves the cells behind it. -/
theorem renumbers_insertIdx (nonCode : c.isCode = false) (n : Notebook) (k : Nat) :
    Renumbers (behind k) n ⟨n.cells.insertIdx k c⟩ where
  injective := behind_injective k
  lines := by
    rw [codeLines, codeLines, codeCells, codeCells, codeCells_insertIdx nonCode, Nat.zero_add,
      List.flatMap_map, List.map_flatMap]
    simp only [List.map_map]
    rfl
  text := by
    intro l _
    rw [cellText, cellText, List.getElem?_insertIdx]
    unfold behind
    split
    · rfl
    · rw [if_neg (by omega), if_neg (by omega), Nat.add_sub_cancel]

/-! ## Notebooks with the same findings -/

/-- The symbol checks and every rule set report the same on both notebooks, up to the numbers of the
cells. A search that breaks off does so in both, with the same error. -/
structure SameFindings (number : Nat → Nat) (n m : Notebook) : Prop where
  imports : ∀ document,
    m.unusedImports document = (n.unusedImports document).map (Finding.renumber number)
  widgetVariables : ∀ document,
    m.unusedWidgetVariables document =
      (n.unusedWidgetVariables document).map (Finding.renumber number)
  rules : ∀ (set : RuleSet) document,
    set.scan m document = (set.scan n document).map (List.map (Finding.renumber number))

theorem Renumbers.sameFindings {f number : Nat → Nat} (renumbers : Renumbers f n m)
    (numbers : ∀ i, number (i + 1) = f i + 1) : SameFindings number n m where
  imports := renumbers.unusedImports numbers
  widgetVariables := renumbers.unusedWidgetVariables numbers
  rules := renumbers.scan numbers

namespace SameFindings

variable {number number' : Nat → Nat}

/-- What renumbers the cells back gives the findings on the first notebook. -/
theorem symm (same : SameFindings number n m) (back : number' ∘ number = id) :
    SameFindings number' m n where
  imports document := by
    rw [same.imports, List.map_map, Finding.renumber_comp, back, Finding.renumber_id, List.map_id]
  widgetVariables document := by
    rw [same.widgetVariables, List.map_map, Finding.renumber_comp, back, Finding.renumber_id,
      List.map_id]
  rules set document := by
    rw [same.rules]
    cases set.scan n document with
    | error e => rfl
    | ok findings =>
        refine congrArg Except.ok ?_
        rw [List.map_map, Finding.renumber_comp, back, Finding.renumber_id, List.map_id]

/-- Two notebooks with the findings of a third one, renumbered in the same way, have equal findings. -/
theorem of_common {n' : Notebook} (first : SameFindings number n' n)
    (second : SameFindings number n' m) : SameFindings id n m where
  imports document := by
    rw [second.imports, first.imports, Finding.renumber_id, List.map_id]
  widgetVariables document := by
    rw [second.widgetVariables, first.widgetVariables, Finding.renumber_id, List.map_id]
  rules set document := by
    rw [second.rules, first.rules, Finding.renumber_id]
    cases set.scan n' document with
    | error e => rfl
    | ok findings => exact congrArg Except.ok (List.map_id _).symm

end SameFindings

/-! ## Inserting, deleting and replacing -/

/-- The number that a cell has after a cell is inserted at index `k`; cells count from one. -/
def numberBehind (k number : Nat) : Nat := if number ≤ k then number else number + 1

/-- The number that a cell has after the cell at index `k` is deleted. -/
def numberWithout (k number : Nat) : Nat := if number ≤ k + 1 then number else number - 1

theorem numberWithout_comp_numberBehind (k : Nat) : numberWithout k ∘ numberBehind k = id := by
  funext number
  simp only [Function.comp_apply, numberWithout, numberBehind, id]
  split <;> split <;> omega

theorem sameFindings_insertIdx (nonCode : c.isCode = false) (n : Notebook) (k : Nat) :
    SameFindings (numberBehind k) n ⟨n.cells.insertIdx k c⟩ := by
  refine (renumbers_insertIdx nonCode n k).sameFindings fun i => ?_
  unfold numberBehind behind
  split <;> split <;> omega

theorem sameFindings_eraseIdx (cellAt : n.cells[k]? = some c) (nonCode : c.isCode = false) :
    SameFindings (numberWithout k) n ⟨n.cells.eraseIdx k⟩ := by
  obtain ⟨inRange, rfl⟩ := List.getElem?_eq_some_iff.mp cellAt
  have inserted := sameFindings_insertIdx nonCode ⟨n.cells.eraseIdx k⟩ k
  rw [List.insertIdx_eraseIdx_getElem inRange] at inserted
  exact inserted.symm (numberWithout_comp_numberBehind k)

theorem sameFindings_set (cellAt : n.cells[k]? = some c) (nonCode : c.isCode = false) {c' : Cell}
    (nonCode' : c'.isCode = false) : SameFindings id n ⟨n.cells.set k c'⟩ := by
  obtain ⟨inRange, rfl⟩ := List.getElem?_eq_some_iff.mp cellAt
  have first := sameFindings_insertIdx nonCode ⟨n.cells.eraseIdx k⟩ k
  have second := sameFindings_insertIdx nonCode' ⟨n.cells.eraseIdx k⟩ k
  rw [List.insertIdx_eraseIdx_getElem inRange] at first
  rw [List.insertIdx_eraseIdx_self (Nat.ne_of_lt inRange)] at second
  exact first.of_common second

/-! ## Lines of code cells -/

/-- The place is a line of the notebook whose cell is code, and the line has the text. -/
def IsCodeLine (n : Notebook) (i j : Nat) (t : Text) : Prop :=
  ∃ c, n.cells[i]? = some c ∧ c.kind = .code ∧ c.lines[j]? = some t

theorem isCodeLine_of_mem {l : PlacedLine} (lineIn : l ∈ n.codeLines) :
    n.IsCodeLine l.cell l.line l.text := by
  obtain ⟨c, cellAt, code, lineAt⟩ := mem_codeLines.mp lineIn
  exact ⟨c, cellAt, beq_iff_eq.mp code, lineAt⟩

/-- A symbol is declared on a line of a code cell. -/
theorem declarations_onCode {symbol? : Text → Option Text} {d : Declaration}
    (declared : d ∈ n.declarations symbol?) :
    ∃ t, n.IsCodeLine d.cell d.line t ∧ symbol? t = some d.symbol := by
  obtain ⟨l, lineIn, s, read, rfl⟩ := mem_declarations.mp declared
  exact ⟨l.text, isCodeLine_of_mem lineIn, read⟩

/-- A symbol is used on a line of a code cell. -/
theorem isUsed_onCode {d : Declaration} {ignored : List Text} (used : d.isUsed n ignored = true) :
    ∃ i j t, n.IsCodeLine i j t ∧ d.isSearched ignored ⟨i, j, t⟩ = true ∧
      t.mentions d.symbol = true := by
  obtain ⟨l, lineIn, counts⟩ := List.any_eq_true.mp used
  rw [Bool.and_eq_true] at counts
  exact ⟨l.cell, l.line, l.text, isCodeLine_of_mem lineIn, counts⟩

/-- What a search for rules finds besides the failures of the set is on lines of code cells. -/
theorem scan_onCode {set : RuleSet} {document : Text} {findings : List Finding}
    (searched : set.scan n document = .ok findings) {f : Finding} (found : f ∈ findings) :
    f ∈ set.failureFindings document ∨
      ∃ i j t, n.IsCodeLine i j t ∧ ∃ r ∈ set.rules, r.pattern.search t = .found ∧
        f = r.rule.finding n document ⟨i, j, t⟩ := by
  obtain ⟨-, rfl⟩ := RuleSet.scan_eq_ok_iff.mp searched
  rcases List.mem_append.mp found with onLine | ofFailure
  · obtain ⟨l, lineIn, r, inSet, -, isFound, rfl⟩ := RuleSet.mem_matchFindings.mp onLine
    exact .inr ⟨l.cell, l.line, l.text, isCodeLine_of_mem lineIn, r, inSet, isFound, rfl⟩
  · exact .inl ofFailure

/-- A search for rules that breaks off does so on a line of a code cell. -/
theorem scan_breaks_onCode {set : RuleSet} {document : Text} {e : BrokenMatch}
    (broken : set.scan n document = .error e) :
    ∃ i j t, n.IsCodeLine i j t ∧ ∃ r ∈ set.rules, r.pattern.search t = .brokenGroup := by
  obtain ⟨l, lineIn, r, inSet, -, answer⟩ := RuleSet.exists_scan_eq_error_iff.mp ⟨e, broken⟩
  exact ⟨l.cell, l.line, l.text, isCodeLine_of_mem lineIn, r, inSet, answer⟩

/-- Only the code cells count for the symbol checks and for the rules. To insert a cell of another kind
moves the numbers of the cells behind it by one, and the findings are the same otherwise; to delete one
moves them back; to put another one in its place changes nothing. Every declaration, every use and
every match of a rule is on a line of a code cell. -/
theorem onlyCode_counts (n : Notebook) (k : Nat) :
    (∀ c, c.kind ≠ .code → SameFindings (numberBehind k) n ⟨n.cells.insertIdx k c⟩) ∧
    (∀ c, n.cells[k]? = some c → c.kind ≠ .code →
      SameFindings (numberWithout k) n ⟨n.cells.eraseIdx k⟩ ∧
      ∀ c', c'.kind ≠ .code → SameFindings id n ⟨n.cells.set k c'⟩) ∧
    (∀ d ∈ n.imports, ∃ t, n.IsCodeLine d.cell d.line t ∧
      Declaration.importedSymbol? t = some d.symbol) ∧
    (∀ d ∈ n.widgetVariables, ∃ t, n.IsCodeLine d.cell d.line t ∧
      Declaration.widgetSymbol? t = some d.symbol) ∧
    (∀ (d : Declaration) ignored, d.isUsed n ignored = true →
      ∃ i j t, n.IsCodeLine i j t ∧ d.isSearched ignored ⟨i, j, t⟩ = true ∧
        t.mentions d.symbol = true) ∧
    ∀ (set : RuleSet) document,
      (∀ findings, set.scan n document = .ok findings → ∀ f ∈ findings,
        f ∈ set.failureFindings document ∨
          ∃ i j t, n.IsCodeLine i j t ∧ ∃ r ∈ set.rules, r.pattern.search t = .found ∧
            f = r.rule.finding n document ⟨i, j, t⟩) ∧
      ∀ e, set.scan n document = .error e →
        ∃ i j t, n.IsCodeLine i j t ∧ ∃ r ∈ set.rules, r.pattern.search t = .brokenGroup := by
  refine ⟨?inserted, ?changed, fun d => declarations_onCode, fun d => declarations_onCode,
    fun d ignored => isUsed_onCode, fun set document => ⟨?found, fun e => scan_breaks_onCode⟩⟩
  case inserted =>
    intro c nonCode
    exact sameFindings_insertIdx (Cell.isCode_eq_false_iff.mpr nonCode) n k
  case changed =>
    intro c cellAt nonCode
    have notCode := Cell.isCode_eq_false_iff.mpr nonCode
    refine ⟨sameFindings_eraseIdx cellAt notCode, fun c' nonCode' => ?_⟩
    exact sameFindings_set cellAt notCode (Cell.isCode_eq_false_iff.mpr nonCode')
  case found =>
    intro findings searched f member
    exact scan_onCode searched member

/-- Two imports with a note between them that mentions both. -/
def importsWithNote : Notebook :=
  ⟨[⟨.code, ["import os"]⟩, ⟨.markdown, ["os, re"]⟩, ⟨.code, ["import re"]⟩]⟩

/-- The note is no use of the imports, and without it the second one is in the second cell. -/
theorem onlyCode_counts_importsWithNote :
    importsWithNote.cells[1]? = some ⟨.markdown, ["os, re"]⟩ ∧ CellKind.markdown ≠ .code ∧
      (importsWithNote.unusedImports "a.ipynb").map (·.cellNumber) = [some 1, some 3] ∧
      ((⟨importsWithNote.cells.eraseIdx 1⟩ : Notebook).unusedImports "a.ipynb").map (·.cellNumber) =
        [some 1, some 2] := by
  have cellAt : importsWithNote.cells[1]? = some ⟨.markdown, ["os, re"]⟩ := rfl
  have nonCode : CellKind.markdown ≠ .code := by decide
  have deleted := ((onlyCode_counts importsWithNote 1).2.1 _ cellAt nonCode).1
  refine ⟨cellAt, nonCode, by decide +kernel, ?_⟩
  rw [deleted.imports]
  decide +kernel

end Notebook

end NotebookAudit

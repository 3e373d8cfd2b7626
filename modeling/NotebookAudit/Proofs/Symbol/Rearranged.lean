import Mathlib.Data.List.NodupEquivFin
import NotebookAudit.Proofs.Analysis.Checks
import NotebookAudit.Proofs.Notebook.Renumbering

/-!
Uses of symbols in notebooks with more cells, or with the same cells in another order.

`Notebook.Embeds f n m` says that the cells of `n` are cells of `m`, where `f` gives their new indices.
What is declared in `n` is then declared in `m`, and what is used stays used (`Embeds.isUsed`), so the
cells that are added make nothing unused. `Notebook.Permutes e n m` says that both have the same cells;
then they have the same findings, up to their order and the numbers of the cells (`Permutes.unused`).
`Notebook.uses_rearranged` puts this together.
-/

namespace NotebookAudit

variable {f g : Nat → Nat} {e : Equiv.Perm Nat} {n m : Notebook} {d : Declaration}
  {ignored more : List Text}

/-! ## Lists in another order -/

/-- A permutation of the indices that leaves the first one as it is. -/
def behindFirst (e : Equiv.Perm Nat) : Equiv.Perm Nat where
  toFun
    | 0 => 0
    | i + 1 => e i + 1
  invFun
    | 0 => 0
    | i + 1 => e.symm i + 1
  left_inv := by rintro (- | i) <;> simp
  right_inv := by rintro (- | i) <;> simp

/-- In a list with the same items in another order each item has a new index. -/
theorem exists_perm_getElem? {α : Type} {xs ys : List α} (permuted : xs.Perm ys) :
    ∃ e : Equiv.Perm Nat, ∀ i : Nat, ys[e i]? = xs[i]? := by
  induction permuted with
  | nil => exact ⟨Equiv.refl Nat, fun i => rfl⟩
  | cons x _ ih =>
      obtain ⟨e, sameItems⟩ := ih
      refine ⟨behindFirst e, ?_⟩
      rintro (- | i)
      · rfl
      · exact sameItems i
  | swap x y xs =>
      refine ⟨Equiv.swap 0 1, ?_⟩
      rintro (- | - | i)
      · rfl
      · rfl
      · rw [Equiv.swap_apply_of_ne_of_ne (by omega) (by omega)]
        rfl
  | trans _ _ ih ih' =>
      obtain ⟨e, sameItems⟩ := ih
      obtain ⟨e', sameItems'⟩ := ih'
      exact ⟨e.trans e', fun i => (sameItems' (e i)).trans (sameItems i)⟩

/-! ## Ignored lines -/

/-- To ignore more lines makes nothing used. -/
theorem Declaration.isUsed_of_ignored_subset (fewer : ignored ⊆ more)
    (used : d.isUsed n more = true) : d.isUsed n ignored = true := by
  obtain ⟨l, lineIn, counts⟩ := List.any_eq_true.mp used
  refine List.any_eq_true.mpr ⟨l, lineIn, ?_⟩
  simp only [isSearched, Bool.and_eq_true, Bool.not_eq_true', List.any_eq_false] at counts ⊢
  obtain ⟨⟨elsewhere, notIgnored⟩, mentioned⟩ := counts
  exact ⟨⟨elsewhere, fun start member => notIgnored start (fewer member)⟩, mentioned⟩

theorem Declaration.renumber_symm (e : Equiv.Perm Nat) (d : Declaration) :
    (d.renumber e).renumber e.symm = d := by
  simp [renumber]

namespace Notebook

/-- The number of a cell whose index is given by `f`; cells count from one. -/
def numberBy (f : Nat → Nat) (number : Nat) : Nat := f (number - 1) + 1

/-! ## More cells -/

/-- Each cell of the first notebook is a cell of the second one, where `f` gives its index. -/
structure Embeds (f : Nat → Nat) (n m : Notebook) : Prop where
  injective : Function.Injective f
  cellAt : ∀ i c, n.cells[i]? = some c → m.cells[f i]? = some c

/-- A notebook to which cells are added, in front, behind or between, has the old ones in their order. -/
theorem exists_embeds (added : n.cells.Sublist m.cells) : ∃ f, StrictMono f ∧ Embeds f n m := by
  obtain ⟨f, sameCells⟩ := List.sublist_iff_exists_orderEmbedding_getElem?_eq.mp added
  exact ⟨f, f.strictMono, f.injective, fun i c cellAt => (sameCells i).symm.trans cellAt⟩

namespace Embeds

theorem mem_codeLines (embeds : Embeds f n m) {l : PlacedLine} (lineIn : l ∈ n.codeLines) :
    l.renumber f ∈ m.codeLines := by
  obtain ⟨c, cellAt, code, lineAt⟩ := Notebook.mem_codeLines.mp lineIn
  exact Notebook.mem_codeLines.mpr ⟨c, embeds.cellAt _ c cellAt, code, lineAt⟩

/-- What is declared in the first notebook is declared in the second. -/
theorem mem_declarations (embeds : Embeds f n m) {symbol? : Text → Option Text}
    (declared : d ∈ n.declarations symbol?) : d.renumber f ∈ m.declarations symbol? := by
  obtain ⟨l, lineIn, s, read, rfl⟩ := Notebook.mem_declarations.mp declared
  exact Notebook.mem_declarations.mpr ⟨_, embeds.mem_codeLines lineIn, s, read, rfl⟩

/-- What is declared in the second notebook in a cell of the first is declared there. -/
theorem of_mem_declarations (embeds : Embeds f n m) {symbol? : Text → Option Text}
    (declared : d ∈ m.declarations symbol?) {i : Nat} (old : i < n.cells.length)
    (inCell : d.cell = f i) :
    ∃ d' ∈ n.declarations symbol?, d'.cell = i ∧ d = d'.renumber f := by
  obtain ⟨⟨_, j, t⟩, lineIn, s, read, rfl⟩ := Notebook.mem_declarations.mp declared
  dsimp only at inCell
  subst inCell
  obtain ⟨c, cellAt, code, lineAt⟩ := Notebook.mem_codeLines.mp lineIn
  have oldCell := List.getElem?_eq_getElem old
  rw [embeds.cellAt i _ oldCell] at cellAt
  have oldLine : ⟨i, j, t⟩ ∈ n.codeLines :=
    Notebook.mem_codeLines.mpr ⟨c, oldCell.trans cellAt, code, lineAt⟩
  exact ⟨⟨s, i, j, t.trim⟩, Notebook.mem_declarations.mpr ⟨_, oldLine, s, read, rfl⟩, rfl, rfl⟩

/-- What is used in the first notebook is used in the second. -/
theorem isUsed (embeds : Embeds f n m) (used : d.isUsed n ignored = true) :
    (d.renumber f).isUsed m ignored = true := by
  obtain ⟨l, lineIn, counts⟩ := List.any_eq_true.mp used
  refine List.any_eq_true.mpr ⟨_, embeds.mem_codeLines lineIn, ?_⟩
  rw [Declaration.isSearched_renumber embeds.injective]
  exact counts

theorem cellText (embeds : Embeds f n m) {i : Nat} (old : i < n.cells.length) :
    m.cellText (f i) = n.cellText i := by
  have oldCell := List.getElem?_eq_getElem old
  rw [Notebook.cellText, Notebook.cellText, oldCell, embeds.cellAt i _ oldCell]

/-- What is found in an old cell was found there before cells were added. -/
theorem of_mem_unused (embeds : Embeds f n m) {symbol? : Text → Option Text} {ignored : List Text}
    {document kind : Text} {details : Text → Text} {i : Nat} (old : i < n.cells.length)
    {x : Finding} (found : x ∈ m.unused symbol? ignored document kind details)
    (inCell : x.cellNumber = some (f i + 1)) :
    x ∈ (n.unused symbol? ignored document kind details).map (Finding.renumber (numberBy f)) := by
  obtain ⟨d, kept, rfl⟩ := List.mem_map.mp found
  obtain ⟨declared, unused⟩ := List.mem_filter.mp kept
  obtain ⟨d', declared', rfl, rfl⟩ :=
    embeds.of_mem_declarations declared old (Nat.succ.inj (Option.some.inj inCell))
  have unused' : (!d'.isUsed n ignored) = true := by
    rw [Bool.not_eq_true', ← Bool.not_eq_true] at unused ⊢
    exact fun used => unused (embeds.isUsed used)
  refine List.mem_map.mpr ⟨d'.unusedFinding n document kind (details d'.symbol),
    List.mem_map_of_mem (List.mem_filter.mpr ⟨declared', unused'⟩), ?_⟩
  simp only [Declaration.unusedFinding, Finding.renumber, Declaration.renumber, Option.map_some,
    numberBy, Nat.add_sub_cancel, embeds.cellText old]

end Embeds

/-! ## The same cells in another order -/

/-- Both notebooks have the same cells, where `e` gives the new index of each. -/
def Permutes (e : Equiv.Perm Nat) (n m : Notebook) : Prop := ∀ i : Nat, m.cells[e i]? = n.cells[i]?

namespace Permutes

theorem embeds (permutes : Permutes e n m) : Embeds e n m where
  injective := e.injective
  cellAt i _ cellAt := (permutes i).trans cellAt

theorem symm (permutes : Permutes e n m) : Permutes e.symm m n := by
  intro i
  rw [← permutes, Equiv.apply_symm_apply]

/-- A symbol is used in both notebooks or in none. -/
theorem isUsed (permutes : Permutes e n m) (d : Declaration) (ignored : List Text) :
    (d.renumber e).isUsed m ignored = d.isUsed n ignored := by
  rw [Bool.eq_iff_iff]
  constructor
  · intro used
    have usedBefore := permutes.symm.embeds.isUsed used
    rwa [Declaration.renumber_symm] at usedBefore
  · exact permutes.embeds.isUsed

/-- Both notebooks declare the same. -/
theorem declarations (permutes : Permutes e n m) (symbol? : Text → Option Text) :
    (m.declarations symbol?).Perm ((n.declarations symbol?).map (Declaration.renumber e)) := by
  have distinct (k : Notebook) : (k.declarations symbol?).Nodup := by
    refine (declarations_pairwise symbol? k).imp ?_
    rintro d _ before rfl
    omega
  have distinct' : ((n.declarations symbol?).map (Declaration.renumber e)).Nodup := by
    refine (distinct n).map fun d d' same => ?_
    have back := congrArg (Declaration.renumber e.symm) same
    rwa [Declaration.renumber_symm, Declaration.renumber_symm] at back
  rw [List.perm_ext_iff_of_nodup (distinct m) distinct']
  intro d
  constructor
  · intro declared
    exact List.mem_map.mpr ⟨_, permutes.symm.embeds.mem_declarations declared,
      Declaration.renumber_symm e.symm d⟩
  · intro declared
    obtain ⟨d', declared', rfl⟩ := List.mem_map.mp declared
    exact permutes.embeds.mem_declarations declared'

/-- The findings on declarations without a use are the same up to their order and the numbers of the
cells. -/
theorem unused (permutes : Permutes e n m) (symbol? : Text → Option Text) (ignored : List Text)
    (document kind : Text) (details : Text → Text) :
    (m.unused symbol? ignored document kind details).Perm
      ((n.unused symbol? ignored document kind details).map (Finding.renumber (numberBy e))) := by
  have sameText (i : Nat) : m.cellText (e i) = n.cellText i := by
    rw [cellText, cellText, permutes]
  have sameFindings := unused_renumber (g := numberBy e)
    (fun d (_ : d ∈ n.declarations symbol?) => permutes.isUsed d ignored)
    (fun d _ => sameText d.cell) (fun i => rfl) document kind details
  rw [Notebook.unused, Notebook.unused, ← sameFindings]
  exact ((permutes.declarations symbol?).filter _).map _

end Permutes

/-! ## Both together -/

/-- If cells are added to a notebook, its declarations are those in its old cells, what is used stays
used, and nothing new is found there. If the cells are put in another order, the findings are the same
up to their order and the numbers of the cells. And to ignore more lines makes nothing used. -/
theorem uses_rearranged (n m : Notebook) (document : Text) :
    (n.cells.Sublist m.cells → ∃ f, StrictMono f ∧ Embeds f n m) ∧
    (∀ f, Embeds f n m →
      (∀ d ∈ n.imports, d.renumber f ∈ m.imports) ∧
      (∀ d ∈ n.widgetVariables, d.renumber f ∈ m.widgetVariables) ∧
      (∀ (d : Declaration) ignored, d.isUsed n ignored = true →
        (d.renumber f).isUsed m ignored = true) ∧
      ∀ i < n.cells.length,
        (∀ x ∈ m.unusedImports document, x.cellNumber = some (f i + 1) →
          x ∈ (n.unusedImports document).map (Finding.renumber (numberBy f))) ∧
        ∀ x ∈ m.unusedWidgetVariables document, x.cellNumber = some (f i + 1) →
          x ∈ (n.unusedWidgetVariables document).map (Finding.renumber (numberBy f))) ∧
    (n.cells.Perm m.cells → ∃ e, Permutes e n m) ∧
    (∀ e, Permutes e n m →
      (m.unusedImports document).Perm
        ((n.unusedImports document).map (Finding.renumber (numberBy e))) ∧
      (m.unusedWidgetVariables document).Perm
        ((n.unusedWidgetVariables document).map (Finding.renumber (numberBy e)))) ∧
    ∀ (d : Declaration) (ignored more : List Text), ignored ⊆ more →
      d.isUsed n ignored = false → d.isUsed n more = false := by
  simp only [unusedImports_eq, unusedWidgetVariables_eq]
  refine ⟨exists_embeds, ?added, exists_perm_getElem?, ?permuted, ?ignored⟩
  case added =>
    intro f embeds
    exact ⟨fun d => embeds.mem_declarations, fun d => embeds.mem_declarations,
      fun d ignored => embeds.isUsed,
      fun i old => ⟨fun x => embeds.of_mem_unused old, fun x => embeds.of_mem_unused old⟩⟩
  case permuted =>
    intro e permutes
    exact ⟨permutes.unused .., permutes.unused ..⟩
  case ignored =>
    intro d ignored more fewer unused
    rw [← Bool.not_eq_true] at unused ⊢
    exact fun used => unused (Declaration.isUsed_of_ignored_subset fewer used)

/-- Two imports, one of which is used. -/
def importsWithUse : Notebook := ⟨[⟨.code, ["import os", "import re"]⟩, ⟨.code, ["os.x"]⟩]⟩

/-- The import that is used stays used behind a note. With the cells in the other order the import
without a use is found in the second cell. -/
theorem uses_rearranged_importsWithUse :
    (∃ f, StrictMono f ∧ Embeds f importsWithUse ⟨⟨.markdown, ["re"]⟩ :: importsWithUse.cells⟩ ∧
      ((⟨"os", 0, 0, "import os"⟩ : Declaration).renumber f).isUsed
        ⟨⟨.markdown, ["re"]⟩ :: importsWithUse.cells⟩ [] = true) ∧
    (∃ e, Permutes e importsWithUse ⟨importsWithUse.cells.reverse⟩) ∧
    Permutes (Equiv.swap 0 1) importsWithUse ⟨importsWithUse.cells.reverse⟩ ∧
    ((⟨importsWithUse.cells.reverse⟩ : Notebook).unusedImports "a.ipynb").map (·.cellNumber) =
      [some 2] ∧
    (⟨"re", 0, 1, "import re"⟩ : Declaration).isUsed importsWithUse ["import"] = false := by
  obtain ⟨exists_embeds, added, -, -, ignoring⟩ :=
    uses_rearranged importsWithUse ⟨⟨.markdown, ["re"]⟩ :: importsWithUse.cells⟩ "a.ipynb"
  obtain ⟨-, -, exists_permutes, permuted, -⟩ :=
    uses_rearranged importsWithUse ⟨importsWithUse.cells.reverse⟩ "a.ipynb"
  obtain ⟨f, increasing, embeds⟩ := exists_embeds (List.sublist_cons_self _ _)
  have swapped : Permutes (Equiv.swap 0 1) importsWithUse ⟨importsWithUse.cells.reverse⟩ := by
    rintro (- | - | i)
    · rfl
    · rfl
    · rw [Equiv.swap_apply_of_ne_of_ne (by omega) (by omega)]
      rfl
  have sameFindings := (permuted _ swapped).1
  have onlyOne : importsWithUse.unusedImports "a.ipynb" =
      [(⟨"re", 0, 1, "import re"⟩ : Declaration).unusedFinding importsWithUse "a.ipynb"
        "Importación no usada"
        "La librería o módulo 're' se importa pero no se utiliza en el notebook."] := by
    decide +kernel
  rw [onlyOne] at sameFindings
  refine ⟨⟨f, increasing, embeds, ?_⟩, exists_permutes (List.reverse_perm _).symm, swapped, ?_, ?_⟩
  · exact (added f embeds).2.2.1 _ _ (by decide +kernel)
  · rw [List.perm_singleton.mp sameFindings]
    rfl
  · exact ignoring _ [] _ (List.nil_subset _) (by decide +kernel)

end Notebook

end NotebookAudit

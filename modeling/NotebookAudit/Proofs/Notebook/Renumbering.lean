import Mathlib.Logic.Function.Defs
import NotebookAudit.Proofs.Rule.Scan
import NotebookAudit.Symbol.Usage

/-!
Notebooks with the same code lines in cells of other indices.

`Notebook.Renumbers f n m` says that the code lines of `m` are those of `n` in the same order, and that
the cell of index `i` has become that of index `f i`. The symbol checks and the rules look at nothing
else, so their findings are the same up to the numbers of the cells: `Renumbers.unusedImports`,
`Renumbers.unusedWidgetVariables` and `Renumbers.scan`.
-/

namespace NotebookAudit

variable {f g : Nat → Nat} {n m : Notebook}

/-! ## Renumbering -/

/-- A line in the cell of another index. -/
def PlacedLine.renumber (f : Nat → Nat) (l : PlacedLine) : PlacedLine := { l with cell := f l.cell }

/-- A declaration in the cell of another index. -/
def Declaration.renumber (f : Nat → Nat) (d : Declaration) : Declaration := { d with cell := f d.cell }

/-- A finding on the cell of another number. One that names no cell is left as it is. -/
def Finding.renumber (g : Nat → Nat) (x : Finding) : Finding :=
  { x with cellNumber := x.cellNumber.map g }

@[simp] theorem Finding.renumber_id : Finding.renumber id = id := by
  funext x
  simp [renumber]

theorem Finding.renumber_comp (g g' : Nat → Nat) :
    Finding.renumber g ∘ Finding.renumber g' = Finding.renumber (g ∘ g') := by
  funext x
  simp [renumber, Option.map_map]

/-- Another index of its cell does not change whether a line counts. -/
theorem Declaration.isSearched_renumber (injective : Function.Injective f) (d : Declaration)
    (ignored : List Text) (l : PlacedLine) :
    (d.renumber f).isSearched ignored (l.renumber f) = d.isSearched ignored l := by
  have sameCell : (f l.cell == f d.cell) = (l.cell == d.cell) := by
    rw [Bool.eq_iff_iff, beq_iff_eq, beq_iff_eq]
    exact injective.eq_iff
  rw [Declaration.isSearched, Declaration.isSearched]
  show (!(f l.cell == f d.cell && _) && _) = _
  rw [sameCell]
  rfl

namespace Notebook

/-! ## Declarations that are not used -/

/-- The findings on the declarations of one form that are not used. -/
def unused (symbol? : Text → Option Text) (ignored : List Text) (document kind : Text)
    (details : Text → Text) (n : Notebook) : List Finding :=
  ((n.declarations symbol?).filter fun d => !d.isUsed n ignored).map fun d =>
    d.unusedFinding n document kind (details d.symbol)

theorem unusedImports_eq (n : Notebook) (document : Text) :
    n.unusedImports document = n.unused Declaration.importedSymbol? [] document
      "Importación no usada" fun s =>
        "La librería o módulo '" ++ s ++ "' se importa pero no se utiliza en el notebook." :=
  rfl

theorem unusedWidgetVariables_eq (n : Notebook) (document : Text) :
    n.unusedWidgetVariables document = n.unused Declaration.widgetSymbol? echoStarts document
      "Variable de widget no usada" fun s =>
        "La variable '" ++ s ++ "' se obtiene de un widget pero no se usa posteriormente "
          ++ "(ignorando prints y spark.conf.set)." :=
  rfl

/-- If the same declarations are used in two notebooks, and their cells have the same texts, the
findings on those without a use are the same up to the numbers of the cells. -/
theorem unused_renumber {declared : List Declaration} {ignored : List Text}
    (sameUses : ∀ d ∈ declared, (d.renumber f).isUsed m ignored = d.isUsed n ignored)
    (sameText : ∀ d ∈ declared, m.cellText (f d.cell) = n.cellText d.cell)
    (number : ∀ i, g (i + 1) = f i + 1) (document kind : Text) (details : Text → Text) :
    ((declared.map (Declaration.renumber f)).filter fun d => !d.isUsed m ignored).map
        (fun d => d.unusedFinding m document kind (details d.symbol)) =
      ((declared.filter fun d => !d.isUsed n ignored).map
        fun d => d.unusedFinding n document kind (details d.symbol)).map (Finding.renumber g) := by
  have sameKept : declared.filter ((fun d => !d.isUsed m ignored) ∘ Declaration.renumber f) =
      declared.filter fun d => !d.isUsed n ignored :=
    List.filter_congr fun d member => congrArg not (sameUses d member)
  rw [List.filter_map, List.map_map, List.map_map, sameKept]
  refine List.map_congr_left fun d kept => ?_
  have sameText := sameText d (List.mem_filter.mp kept).1
  simp only [Function.comp_apply, Declaration.unusedFinding, Finding.renumber, Declaration.renumber,
    Option.map_some, number, sameText]

/-! ## The same code lines -/

/-- The code lines of the second notebook are those of the first, and a cell that has some has another
index and the same text. -/
structure Renumbers (f : Nat → Nat) (n m : Notebook) : Prop where
  injective : Function.Injective f
  lines : m.codeLines = n.codeLines.map (PlacedLine.renumber f)
  text : ∀ l ∈ n.codeLines, m.cellText (f l.cell) = n.cellText l.cell

namespace Renumbers

theorem declarations (renumbers : Renumbers f n m) (symbol? : Text → Option Text) :
    m.declarations symbol? = (n.declarations symbol?).map (Declaration.renumber f) := by
  rw [Notebook.declarations, Notebook.declarations, renumbers.lines, List.filterMap_map,
    List.map_filterMap]
  congr 1
  funext l
  show (symbol? l.text).map _ = _
  rw [Option.map_map]
  rfl

/-- A symbol is used in both notebooks or in none. -/
theorem isUsed (renumbers : Renumbers f n m) (d : Declaration) (ignored : List Text) :
    (d.renumber f).isUsed m ignored = d.isUsed n ignored := by
  rw [Declaration.isUsed, Declaration.isUsed, renumbers.lines, List.any_map]
  congr 1
  funext l
  show ((d.renumber f).isSearched ignored (l.renumber f) && _) = _
  rw [Declaration.isSearched_renumber renumbers.injective]
  rfl

/-- The findings on declarations without a use are the same up to the numbers of the cells. -/
theorem unused (renumbers : Renumbers f n m) (number : ∀ i, g (i + 1) = f i + 1)
    (symbol? : Text → Option Text) (ignored : List Text) (document kind : Text)
    (details : Text → Text) :
    m.unused symbol? ignored document kind details =
      (n.unused symbol? ignored document kind details).map (Finding.renumber g) := by
  rw [Notebook.unused, renumbers.declarations]
  refine unused_renumber (fun d _ => renumbers.isUsed d ignored) ?_ number document kind details
  intro d member
  obtain ⟨l, lineIn, declared⟩ := List.mem_filterMap.mp member
  obtain ⟨s, -, rfl⟩ := Option.map_eq_some_iff.mp declared
  exact renumbers.text l lineIn

theorem unusedImports (renumbers : Renumbers f n m) (number : ∀ i, g (i + 1) = f i + 1)
    (document : Text) :
    m.unusedImports document = (n.unusedImports document).map (Finding.renumber g) := by
  rw [unusedImports_eq, unusedImports_eq, renumbers.unused number]

theorem unusedWidgetVariables (renumbers : Renumbers f n m) (number : ∀ i, g (i + 1) = f i + 1)
    (document : Text) :
    m.unusedWidgetVariables document =
      (n.unusedWidgetVariables document).map (Finding.renumber g) := by
  rw [unusedWidgetVariables_eq, unusedWidgetVariables_eq, renumbers.unused number]

/-! ## Rules -/

/-- The search for the rules ends in the same way, with the same findings up to the numbers of the
cells. -/
theorem scan (renumbers : Renumbers f n m) (number : ∀ i, g (i + 1) = f i + 1) (set : RuleSet)
    (document : Text) :
    set.scan m document = (set.scan n document).map (List.map (Finding.renumber g)) := by
  refine RuleSet.scan_map renumbers.lines (fun _ => rfl) ?_ ?_
  · intro l lineIn r
    have sameText := renumbers.text l lineIn
    simp only [Rule.finding, PlacedLine.renumber, Finding.renumber, Option.map_some, number, sameText]
  · rw [RuleSet.failureFindings, List.map_map]
    rfl

end Renumbers

end Notebook

end NotebookAudit

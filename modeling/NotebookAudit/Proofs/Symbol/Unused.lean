import NotebookAudit.Proofs.Analysis.Checks
import NotebookAudit.Proofs.Symbol.WholeWord

/-!
Which declarations are reported as unused.

A declaration has a use if its symbol stands as a whole word on some code line other than its own that
is not left out (`Declaration.HasUse`). The search decides this (`Declaration.isUsed_iff`), and the
reports on imports and on widget variables are exact: they name the declarations without a use, each
once and in the order of their lines, and no others (`Notebook.unused_reported`).
-/

namespace NotebookAudit

variable {n : Notebook} {d : Declaration} {ignored : List Text}

namespace Declaration

/-- The line is a use of the symbol that is declared: it is not the line of the declaration, its
trimmed text starts with none of the ignored texts, and the symbol stands in it as a whole word. -/
structure UsedOn (d : Declaration) (ignored : List Text) (l : PlacedLine) : Prop where
  elsewhere : ¬ (l.cell = d.cell ∧ l.line = d.line)
  counts : ∀ start ∈ ignored, ¬ start <+: l.text.trim
  wholeWord : l.text.HasWholeWord d.symbol

/-- Some line of some code cell is a use of the symbol that is declared. -/
def HasUse (d : Declaration) (n : Notebook) (ignored : List Text) : Prop :=
  ∃ i j c t, n.cells[i]? = some c ∧ c.kind = .code ∧ c.lines[j]? = some t ∧
    d.UsedOn ignored ⟨i, j, t⟩

/-- A declaration comes before another: in an earlier cell, or earlier in the same cell. -/
def Before (d e : Declaration) : Prop := d.cell < e.cell ∨ d.cell = e.cell ∧ d.line < e.line

theorem isSearched_iff {l : PlacedLine} :
    d.isSearched ignored l = true ↔
      ¬ (l.cell = d.cell ∧ l.line = d.line) ∧ ∀ start ∈ ignored, ¬ start <+: l.text.trim := by
  rw [isSearched, Bool.and_eq_true, Bool.not_eq_true', Bool.not_eq_true', ← Bool.not_eq_true,
    Bool.and_eq_true, beq_iff_eq, beq_iff_eq, List.any_eq_false]
  simp only [Text.startsWith, List.isPrefixOf_iff_prefix]

/-- A symbol that starts and ends with a word character is used exactly if some code line is a use of
it. -/
theorem isUsed_iff (wordAtEnds : d.symbol.WordAtEnds) :
    d.isUsed n ignored = true ↔ d.HasUse n ignored := by
  simp only [isUsed, List.any_eq_true, Bool.and_eq_true, isSearched_iff,
    Text.mentions_iff wordAtEnds, Notebook.mem_codeLines, Cell.isCode, beq_iff_eq]
  constructor
  · intro used
    obtain ⟨l, ⟨c, cellAt, code, lineAt⟩, ⟨elsewhere, counts⟩, wholeWord⟩ := used
    exact ⟨l.cell, l.line, c, l.text, cellAt, code, lineAt, elsewhere, counts, wholeWord⟩
  · intro used
    obtain ⟨i, j, c, t, cellAt, code, lineAt, elsewhere, counts, wholeWord⟩ := used
    exact ⟨⟨i, j, t⟩, ⟨c, cellAt, code, lineAt⟩, ⟨elsewhere, counts⟩, wholeWord⟩

end Declaration

namespace Notebook

/-- The findings report those of the declarations that have no use, each once and in their order. -/
def ReportsUnused (n : Notebook) (declared : List Declaration) (ignored : List Text)
    (report : Declaration → Finding) (findings : List Finding) : Prop :=
  ∃ unused : List Declaration, unused.Sublist declared ∧ (∀ d ∈ declared, d ∈ unused ↔ ¬ d.HasUse n ignored) ∧
    findings = unused.map report

/-- To leave out what is used is to report what has no use, if all symbols that are declared start and
end with a word character. -/
theorem reportsUnused_filter {declared : List Declaration} {report : Declaration → Finding}
    (wordAtEnds : ∀ d ∈ declared, d.symbol.WordAtEnds) :
    n.ReportsUnused declared ignored report
      ((declared.filter fun d => !d.isUsed n ignored).map report) := by
  refine ⟨_, List.filter_sublist, fun d member => ?_, rfl⟩
  rw [List.mem_filter, ← Declaration.isUsed_iff (wordAtEnds d member), Bool.not_eq_true',
    Bool.not_eq_true]
  exact and_iff_right member

/-- The symbols of declarations start and end with a word character, if those that are read from lines
are identifiers. -/
theorem declarations_wordAtEnds {symbol? : Text → Option Text}
    (identifier : ∀ {line s}, symbol? line = some s → Declaration.IsIdentifier s) :
    ∀ d ∈ n.declarations symbol?, d.symbol.WordAtEnds := by
  intro d member
  obtain ⟨l, -, s, read, rfl⟩ := mem_declarations.mp member
  exact (identifier read).wordAtEnds

/-- A symbol that starts and ends with a word character is used exactly if it stands as a whole word on
a code line that is not its own and not left out. For the imports, in the order of their lines, there
is one warning for each without a use; so there is for the widget variables, where lines that print
the value or hand it on to the configuration do not count. -/
theorem unused_reported (n : Notebook) (document : Text) :
    (∀ (d : Declaration) (ignored : List Text), d.symbol.WordAtEnds →
      (d.isUsed n ignored = true ↔ d.HasUse n ignored)) ∧
    n.imports.Pairwise Declaration.Before ∧
    n.ReportsUnused n.imports []
      (fun d => d.unusedFinding n document "Importación no usada"
        ("La librería o módulo '" ++ d.symbol ++ "' se importa pero no se utiliza en el notebook."))
      (n.unusedImports document) ∧
    n.widgetVariables.Pairwise Declaration.Before ∧
    n.ReportsUnused n.widgetVariables ["print(", "spark.conf.set("]
      (fun d => d.unusedFinding n document "Variable de widget no usada"
        ("La variable '" ++ d.symbol ++ "' se obtiene de un widget pero no se usa posteriormente "
          ++ "(ignorando prints y spark.conf.set)."))
      (n.unusedWidgetVariables document) ∧
    ∀ f ∈ n.unusedImports document ++ n.unusedWidgetVariables document, f.severity = .warning := by
  refine ⟨fun d ignored wordAtEnds => Declaration.isUsed_iff wordAtEnds, ?_, ?_, ?_, ?_, ?_⟩
  · exact declarations_pairwise _ n
  · exact reportsUnused_filter (declarations_wordAtEnds Declaration.importedSymbol?_isIdentifier)
  · exact declarations_pairwise _ n
  · exact reportsUnused_filter (declarations_wordAtEnds Declaration.widgetSymbol?_isIdentifier)
  · intro f member
    rcases List.mem_append.mp member with onImport | onWidget
    · exact (of_mem_unusedImports onImport).2.2
    · exact (of_mem_unusedWidgetVariables onWidget).2.2

/-- A variable of a widget that is printed, and whose name is a part of another name. -/
def printedVariable : Notebook :=
  ⟨[⟨.code, ["v = dbutils.widgets.get('a')"]⟩, ⟨.markdown, ["v"]⟩,
    ⟨.code, ["va = v2 + \"ñv\"", "  print(v)"]⟩]⟩

/-- The variable is used on the line that prints it, and on no other. -/
theorem unused_reported_printedVariable :
    (⟨"v", 0, 0, []⟩ : Declaration).symbol.WordAtEnds ∧
      (⟨"v", 0, 0, []⟩ : Declaration).HasUse printedVariable [] ∧
      ¬ (⟨"v", 0, 0, []⟩ : Declaration).HasUse printedVariable ["print(", "spark.conf.set("] := by
  have wordAtEnds : (⟨"v", 0, 0, []⟩ : Declaration).symbol.WordAtEnds :=
    ⟨⟨0x76, rfl, by decide⟩, ⟨0x76, rfl, by decide⟩⟩
  have exact := (unused_reported printedVariable "a.ipynb").1 ⟨"v", 0, 0, []⟩
  refine ⟨wordAtEnds, (exact [] wordAtEnds).mp (by decide +kernel), ?_⟩
  rw [← exact _ wordAtEnds]
  decide +kernel

end Notebook

end NotebookAudit

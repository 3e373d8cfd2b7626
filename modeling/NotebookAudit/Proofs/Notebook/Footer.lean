import NotebookAudit.Proofs.Analysis.Checks
import NotebookAudit.Proofs.Notebook.Renumbering

/-!
Which notebooks the check of the footer accepts.

The check looks for the last closing cell and then at what stands behind it
(`Notebook.footerFindings_of_split`). So it accepts a notebook exactly if its last two cells are a
closing cell and an exit cell, it misses the footer exactly if no cell closes, and cells in front of a
closing cell only move the findings on (`Notebook.footer_accepts`).
-/

namespace NotebookAudit

/-! ## Closing cells and exit cells -/

namespace Cell

/-- A markdown cell whose lines, one right after another, hold the closing marker. -/
structure Closes (c : Cell) : Prop where
  markdown : c.kind = .markdown
  marked : closingMarker <:+: c.lines.flatten

/-- A code cell whose text holds the exit call. -/
structure Exits (c : Cell) : Prop where
  code : c.kind = .code
  calls : exitCall <:+: c.text

theorem isClosing_iff {c : Cell} : c.isClosing = true ↔ c.Closes := by
  rw [isClosing, isMarkdown, Bool.and_eq_true, beq_iff_eq, Text.contains_iff]
  exact ⟨fun both => ⟨both.1, both.2⟩, fun closes => ⟨closes.markdown, closes.marked⟩⟩

theorem isClosing_eq_false_iff {c : Cell} : c.isClosing = false ↔ ¬ c.Closes := by
  rw [← isClosing_iff, Bool.not_eq_true]

theorem isExit_iff {c : Cell} : c.isExit = true ↔ c.Exits := by
  rw [isExit, isCode, Bool.and_eq_true, beq_iff_eq, Text.contains_iff]
  exact ⟨fun both => ⟨both.1, both.2⟩, fun exits => ⟨exits.code, exits.calls⟩⟩

instance (c : Cell) : Decidable c.Closes := decidable_of_iff _ isClosing_iff

/-- No cell both closes and exits a notebook. -/
theorem Exits.not_closes {c : Cell} (exits : c.Exits) : ¬ c.Closes := by
  intro closes
  have both := exits.code.symm.trans closes.markdown
  cases both

end Cell

namespace Notebook

variable {n : Notebook} {document : Text} {c : Cell} {before after cells : List Cell} {k : Nat}

/-! ## The last closing cell -/

/-- There is no last closing cell exactly if no cell is one. -/
theorem closingIndex?_eq_none_iff :
    n.closingIndex? = none ↔ ∀ c ∈ n.cells, c.isClosing = false := by
  rw [closingIndex?, Option.map_eq_none_iff, List.getLast?_eq_none_iff, List.filter_eq_nil_iff]
  constructor
  · intro noneCloses c member
    obtain ⟨i, inRange, rfl⟩ := List.getElem_of_mem member
    have placed : (n.cells[i], i) ∈ n.cells.zipIdx :=
      List.mem_zipIdx_iff_getElem?.mpr (List.getElem?_eq_getElem inRange)
    exact Bool.eq_false_iff.mpr (noneCloses _ placed)
  · intro noneCloses p member
    exact Bool.eq_false_iff.mp (noneCloses p.1 (List.fst_mem_of_mem_zipIdx member))

theorem footerFindings_of_noClosing (noClosing : ∀ c ∈ n.cells, c.isClosing = false) :
    n.footerFindings document = [noClosingFinding document] := by
  rw [footerFindings, closingIndex?_eq_none_iff.mpr noClosing]

/-- If a cell closes, there is a last one that does. -/
theorem exists_lastClosing (closes : ∃ c ∈ cells, c.Closes) :
    ∃ before c after, cells = before ++ c :: after ∧ c.Closes ∧ ∀ d ∈ after, ¬ d.Closes := by
  induction cells with
  | nil =>
      obtain ⟨c, member, -⟩ := closes
      cases member
  | cons first rest ih =>
      by_cases later : ∃ c ∈ rest, c.Closes
      · obtain ⟨before, c, after, split, closes, last⟩ := ih later
        exact ⟨first :: before, c, after, by rw [split, List.cons_append], closes, last⟩
      · have last : ∀ d ∈ rest, ¬ d.Closes := fun d member closes => later ⟨d, member, closes⟩
        obtain ⟨c, member, closes⟩ := closes
        rcases List.mem_cons.mp member with rfl | inRest
        · exact ⟨[], c, rest, rfl, closes, last⟩
        · exact absurd closes (last c inRest)

/-- The last closing cell of a notebook that is split there. -/
theorem closingIndex?_of_split (closes : c.Closes) (last : ∀ d ∈ after, ¬ d.Closes) :
    (⟨before ++ c :: after⟩ : Notebook).closingIndex? = some before.length := by
  have noneBehind (k : Nat) : (after.zipIdx k).filter (fun p => p.1.isClosing) = [] := by
    rw [List.filter_eq_nil_iff]
    intro p member isClosing
    exact last p.1 (List.fst_mem_of_mem_zipIdx member) (Cell.isClosing_iff.mp isClosing)
  unfold closingIndex?
  rw [List.zipIdx_append, List.zipIdx_cons, List.filter_append,
    List.filter_cons_of_pos (by simpa using Cell.isClosing_iff.mpr closes), noneBehind,
    List.getLast?_append]
  simp

/-! ## What stands behind it -/

/-- The findings on the cells behind the last closing cell, whose index is `k`. -/
def behindFindings (after : List Cell) (k : Nat) (document : Text) : List Finding :=
  match after with
  | [] => [noExitFinding k document]
  | exit :: rest => exitFindings exit (k + 1) document ++ trailingFindings rest (k + 2) document

/-- Only the cells behind the last closing cell and its index decide the findings. -/
theorem footerFindings_of_split (closes : c.Closes) (last : ∀ d ∈ after, ¬ d.Closes) :
    (⟨before ++ c :: after⟩ : Notebook).footerFindings document =
      behindFindings after before.length document := by
  have behind : (before ++ c :: after).drop (before.length + 1) = after := by simp
  unfold footerFindings
  rw [closingIndex?_of_split closes last]
  dsimp only
  rw [behind]
  rfl

/-- In a notebook further down the findings have higher cell numbers. -/
theorem behindFindings_add (after : List Cell) (k moved : Nat) (document : Text) :
    behindFindings after (k + moved) document =
      (behindFindings after k document).map (Finding.renumber (· + moved)) := by
  have onCell (c : Cell) (i j : Nat) (kind details : Text) (severity : Severity)
      (same : j = i + moved) : c.finding j document kind details severity =
        (c.finding i document kind details severity).renumber (· + moved) := by
    subst same
    simp only [Cell.finding, Finding.renumber, Option.map_some]
    congr 2
    omega
  cases after with
  | nil =>
      simp only [behindFindings, noExitFinding, Finding.renumber, List.map_cons, List.map_nil,
        Option.map_some]
      congr 3
      omega
  | cons exit rest =>
      simp only [behindFindings, List.map_append]
      congr 1
      · unfold exitFindings
        split
        · rfl
        · rw [List.map_singleton, onCell exit (k + 1) _ _ _ _ (by omega)]
      · cases rest with
        | nil => rfl
        | cons first others =>
            simp only [trailingFindings, List.map_singleton]
            rw [onCell first (k + 2) _ _ _ _ (by omega)]

/-- Nothing is found behind the last closing cell exactly if one cell stands there, an exit cell. -/
theorem behindFindings_eq_nil_iff :
    behindFindings after k document = [] ↔ ∃ exit, after = [exit] ∧ exit.Exits := by
  cases after with
  | nil => simp [behindFindings]
  | cons exit rest =>
      have exitAccepted : exitFindings exit (k + 1) document = [] ↔ exit.Exits := by
        rw [← Cell.isExit_iff, exitFindings]
        split <;> simp [*]
      have noTrailing : trailingFindings rest (k + 2) document = [] ↔ rest = [] := by
        cases rest <;> simp [trailingFindings]
      rw [behindFindings, List.append_eq_nil_iff, exitAccepted, noTrailing]
      constructor
      · rintro ⟨exits, rfl⟩
        exact ⟨exit, rfl, exits⟩
      · rintro ⟨_, same, exits⟩
        obtain ⟨rfl, rfl⟩ := List.cons.inj same
        exact ⟨exits, rfl⟩

theorem kind_of_mem_behindFindings {f : Finding} (member : f ∈ behindFindings after k document) :
    f.kind = Text.ofString "Footer Incorrecto" ∨
      f.kind = Text.ofString "Código posterior al final" := by
  cases after with
  | nil =>
      rw [behindFindings, List.mem_singleton] at member
      rw [member]
      exact .inl rfl
  | cons exit rest =>
      rcases List.mem_append.mp member with onExit | onTrailing
      · unfold exitFindings at onExit
        split at onExit
        · cases onExit
        · rw [List.mem_singleton] at onExit
          rw [onExit]
          exact .inl rfl
      · cases rest with
        | nil => cases onTrailing
        | cons first others =>
            rw [trailingFindings, List.mem_singleton] at onTrailing
            rw [onTrailing]
            exact .inr rfl

/-! ## The check -/

theorem footerFindings_of_noneCloses (noneCloses : ∀ c ∈ n.cells, ¬ c.Closes) :
    n.footerFindings document = [noClosingFinding document] :=
  footerFindings_of_noClosing fun c member => Cell.isClosing_eq_false_iff.mpr (noneCloses c member)

/-- Either no cell closes, or the findings are on what stands behind the last cell that does. -/
theorem footerFindings_cases (n : Notebook) (document : Text) :
    ((∀ c ∈ n.cells, ¬ c.Closes) ∧ n.footerFindings document = [noClosingFinding document]) ∨
      ∃ before c after, n.cells = before ++ c :: after ∧ c.Closes ∧ (∀ d ∈ after, ¬ d.Closes) ∧
        n.footerFindings document = behindFindings after before.length document := by
  by_cases closes : ∃ c ∈ n.cells, c.Closes
  · obtain ⟨before, c, after, split, closes, last⟩ := exists_lastClosing closes
    refine .inr ⟨before, c, after, split, closes, last, ?_⟩
    rw [← footerFindings_of_split closes last, ← split]
  · have noneCloses : ∀ c ∈ n.cells, ¬ c.Closes := fun c member closed => closes ⟨c, member, closed⟩
    exact .inl ⟨noneCloses, footerFindings_of_noneCloses noneCloses⟩

/-- Nothing is found exactly if the last two cells are a closing cell and an exit cell. -/
theorem footerFindings_eq_nil_iff :
    n.footerFindings document = [] ↔
      ∃ front closing exit, n.cells = front ++ [closing, exit] ∧ closing.Closes ∧ exit.Exits := by
  constructor
  · intro accepted
    rcases footerFindings_cases n document with
      ⟨-, missing⟩ | ⟨before, c, after, split, closes, -, found⟩
    · rw [missing] at accepted
      cases accepted
    · obtain ⟨exit, rfl, exits⟩ := behindFindings_eq_nil_iff.mp (found.symm.trans accepted)
      exact ⟨before, c, exit, split, closes, exits⟩
  · rintro ⟨front, closing, exit, split, closes, exits⟩
    have last : ∀ d ∈ [exit], ¬ d.Closes := by
      intro d member
      rw [List.mem_singleton.mp member]
      exact exits.not_closes
    have found : (⟨front ++ [closing, exit]⟩ : Notebook).footerFindings document = _ :=
      footerFindings_of_split closes last
    rw [← split] at found
    rw [found, behindFindings_eq_nil_iff]
    exact ⟨exit, rfl, exits⟩

/-- The footer is reported as missing exactly if no cell closes. -/
theorem footerMissing_iff :
    (∃ f ∈ n.footerFindings document, f.kind = "Footer Faltante") ↔ ∀ c ∈ n.cells, ¬ c.Closes := by
  constructor
  · rintro ⟨f, member, missing⟩
    rcases footerFindings_cases n document with ⟨noneCloses, -⟩ | ⟨_, _, _, -, -, -, found⟩
    · exact noneCloses
    · rw [found] at member
      rcases kind_of_mem_behindFindings member with incorrect | trailing
      · exact absurd (missing.symm.trans incorrect) (by decide)
      · exact absurd (missing.symm.trans trailing) (by decide)
  · intro noneCloses
    rw [footerFindings_of_noneCloses noneCloses]
    exact ⟨_, List.mem_singleton_self _, rfl⟩

/-- Cells in front of a notebook that a cell closes only move the findings on. -/
theorem footerFindings_append (closes : ∃ c ∈ cells, c.Closes) (front : List Cell) :
    (⟨front ++ cells⟩ : Notebook).footerFindings document =
      ((⟨cells⟩ : Notebook).footerFindings document).map (Finding.renumber (· + front.length)) := by
  obtain ⟨before, c, after, rfl, closes, last⟩ := exists_lastClosing closes
  rw [footerFindings_of_split closes last, ← List.append_assoc, footerFindings_of_split closes last,
    List.length_append, Nat.add_comm front.length, behindFindings_add]

/-- The check finds nothing exactly if the last two cells are a closing cell and an exit cell. Otherwise
it finds one thing or two, all of them infos. That the footer is missing it finds exactly if no cell
closes, and then nothing else. Cells in front of a notebook that a cell closes only add their number to
the cell numbers of its findings. -/
theorem footer_accepts (n : Notebook) (document : Text) :
    (n.footerFindings document = [] ↔
      ∃ front closing exit, n.cells = front ++ [closing, exit] ∧ closing.Closes ∧ exit.Exits) ∧
    (n.footerFindings document ≠ [] →
      ((n.footerFindings document).length = 1 ∨ (n.footerFindings document).length = 2) ∧
        ∀ f ∈ n.footerFindings document, f.severity = .info) ∧
    ((∃ f ∈ n.footerFindings document, f.kind = "Footer Faltante") ↔ ∀ c ∈ n.cells, ¬ c.Closes) ∧
    ((∀ c ∈ n.cells, ¬ c.Closes) → n.footerFindings document = [noClosingFinding document]) ∧
    ∀ front, (∃ c ∈ n.cells, c.Closes) →
      (⟨front ++ n.cells⟩ : Notebook).footerFindings document =
        (n.footerFindings document).map (Finding.renumber (· + front.length)) := by
  refine ⟨footerFindings_eq_nil_iff, ?_, footerMissing_iff, footerFindings_of_noneCloses,
    fun front closes => footerFindings_append closes front⟩
  intro found
  have atLeast := List.length_pos_iff.mpr found
  have atMost := footerFindings_length n document
  exact ⟨by omega, fun f member => (of_mem_footerFindings member).2.2⟩

/-- A notebook that goes on behind its exit cell. The marker stands across two lines. -/
def goesOnBehindExit : Notebook :=
  ⟨[⟨.markdown, ["## Mensaje ", "Final"]⟩, ⟨.code, ["dbutils.notebook.exit('OK')"]⟩,
    ⟨.code, ["x = 1"]⟩]⟩

/-- The cell behind the exit cell is found, and one cell further down with another cell in front. A
notebook without cells has no footer. -/
theorem footer_accepts_goesOnBehindExit :
    goesOnBehindExit.footerFindings "a.ipynb" ≠ [] ∧
      (∀ f ∈ goesOnBehindExit.footerFindings "a.ipynb", f.severity = .info) ∧
      (∃ c ∈ goesOnBehindExit.cells, c.Closes) ∧
      ((⟨[⟨.raw, []⟩] ++ goesOnBehindExit.cells⟩ : Notebook).footerFindings "a.ipynb").map
        (·.cellNumber) = [some 4] ∧
      (∀ c ∈ (⟨[]⟩ : Notebook).cells, ¬ c.Closes) ∧
      (⟨[]⟩ : Notebook).footerFindings "a.ipynb" = [noClosingFinding "a.ipynb"] := by
  have found : goesOnBehindExit.footerFindings "a.ipynb" ≠ [] := by decide +kernel
  have closes : ∃ c ∈ goesOnBehindExit.cells, c.Closes := by decide +kernel
  have noneCloses : ∀ c ∈ (⟨[]⟩ : Notebook).cells, ¬ c.Closes := List.forall_mem_nil _
  obtain ⟨-, infos, -, -, moved⟩ := footer_accepts goesOnBehindExit "a.ipynb"
  refine ⟨found, (infos found).2, closes, ?_, noneCloses,
    (footer_accepts ⟨[]⟩ "a.ipynb").2.2.2.1 noneCloses⟩
  rw [moved [⟨.raw, []⟩] closes]
  decide +kernel

end Notebook

end NotebookAudit

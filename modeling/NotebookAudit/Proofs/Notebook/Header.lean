import NotebookAudit.Notebook.Frame
import NotebookAudit.Proofs.Text.Sigma

/-!
Which headers name the document.

The check lowers the base name and the text of the first cell, and looks for the one in the other. A
cell that holds the base name as it stands passes if the text around it keeps the forms of the capital
sigmas, and so it does in every cell exactly if all sigmas of the base name are settled
(`Notebook.header_named`). `Notebook.header_unnamed` shows a cell that holds the whole file name and does
not pass: the extension behind the base name changes the form of its last letter.
-/

namespace NotebookAudit.Notebook

variable {name t : Text} {first : Cell} {others : List Cell}

/-- The first cell passes exactly if the lower-case form of its text holds that of the base name. -/
theorem headerFindings_eq_nil_iff :
    (⟨first :: others⟩ : Notebook).headerFindings name = [] ↔
      (FileName.baseName name).lower <:+: first.text.lower := by
  rw [← Text.contains_iff]
  unfold headerFindings
  dsimp only
  split <;> simp [*]

/-- Every text is that of some cell. -/
theorem exists_cell (t : Text) : ∃ c : Cell, c.text = t := ⟨⟨.code, [t]⟩, rfl⟩

/-- The first cells that hold the base name all pass exactly if the capital sigmas of the base name are
settled. A first cell also passes if the text around the base name keeps the forms of its sigmas. -/
theorem header_named (name : Text) :
    ((∀ first others, FileName.baseName name <:+: first.text →
        (⟨first :: others⟩ : Notebook).headerFindings name = []) ↔
      (FileName.baseName name).SigmasSettled) ∧
    ∀ first others front after, first.text = front ++ (FileName.baseName name ++ after) →
      Text.KeepsSigmas front.reverse (FileName.baseName name) after →
        (⟨first :: others⟩ : Notebook).headerFindings name = [] := by
  simp only [headerFindings_eq_nil_iff]
  constructor
  · rw [Text.sigmasSettled_iff]
    constructor
    · intro passes front after
      obtain ⟨first, text⟩ := exists_cell (front ++ (FileName.baseName name ++ after))
      rw [← text]
      apply passes first []
      rw [text]
      exact ⟨front, after, List.append_assoc _ _ _⟩
    · rintro found first - ⟨front, after, split⟩
      rw [← split, List.append_assoc]
      exact found front after
  · intro first _ front after split keeps
    rw [split]
    exact keeps.lower_isInfix

/-- A base name with a capital sigma between a letter and a low line passes in a cell in which the low
line is followed by more letters. Another one, at the end of its base name, passes in front of a blank. -/
theorem header_named_settledSigma :
    (FileName.baseName "ΟΔΟΣ_1.ipynb").SigmasSettled ∧
      FileName.baseName "ΟΔΟΣ_1.ipynb" <:+: Cell.text ⟨.markdown, ["# ΟΔΟΣ_1α"]⟩ ∧
      (⟨[⟨.markdown, ["# ΟΔΟΣ_1α"]⟩]⟩ : Notebook).headerFindings "ΟΔΟΣ_1.ipynb" = [] ∧
      Text.KeepsSigmas [] (FileName.baseName "ΛΟΓΟΣ.ipynb") [0x20] ∧
      (⟨[⟨.markdown, ["ΛΟΓΟΣ "]⟩]⟩ : Notebook).headerFindings "ΛΟΓΟΣ.ipynb" = [] := by
  have settled : (FileName.baseName "ΟΔΟΣ_1.ipynb").SigmasSettled := by decide +kernel
  have held : FileName.baseName "ΟΔΟΣ_1.ipynb" <:+: Cell.text ⟨.markdown, ["# ΟΔΟΣ_1α"]⟩ := by
    decide +kernel
  have keeps : Text.KeepsSigmas [] (FileName.baseName "ΛΟΓΟΣ.ipynb") [0x20] := by
    rw [← Text.lowerWithin_eq_lower_iff]
    decide +kernel
  exact ⟨settled, held, (header_named "ΟΔΟΣ_1.ipynb").1.mpr settled _ [] held, keeps,
    (header_named "ΛΟΓΟΣ.ipynb").2 _ [] [] [0x20] (by decide +kernel) keeps⟩

/-- The first cell holds the file name and so the base name, and it does not pass. -/
theorem header_unnamed :
    FileName.baseName "ΛΟΓΟΣ.ipynb" = Text.ofString "ΛΟΓΟΣ" ∧
      FileName.baseName "ΛΟΓΟΣ.ipynb" <:+: Cell.text ⟨.markdown, ["# ΛΟΓΟΣ.ipynb"]⟩ ∧
      ((⟨[⟨.markdown, ["# ΛΟΓΟΣ.ipynb"]⟩]⟩ : Notebook).headerFindings "ΛΟΓΟΣ.ipynb").map (·.kind) =
        [Text.ofString "Header Incorrecto"] := by
  decide +kernel

end NotebookAudit.Notebook

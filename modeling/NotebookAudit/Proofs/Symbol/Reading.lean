import NotebookAudit.Proofs.Symbol.WholeWord

/-!
What is taken from the start of a line.

A declaration is read by taking words, blanks and identifiers one after another. Each lemma
`…_eq_some_iff` says how what is taken and what is left split the text: blanks and identifiers are
taken as far as they go, so what is left does not go on with a blank or with a character of an
identifier.
-/

namespace NotebookAudit

variable {p : CodePoint → Bool} {word id t rest : Text}

/-- A text is a run of characters that pass a test, as long as it goes, and a rest exactly if the rest
does not go on with such a character. -/
theorem takeWhile_dropWhile_eq_iff {run : Text} :
    t.takeWhile p = run ∧ t.dropWhile p = rest ↔
      t = run ++ rest ∧ (∀ c ∈ run, p c = true) ∧ ∀ c ∈ rest.head?, p c = false := by
  constructor
  · intro split
    obtain ⟨rfl, rfl⟩ := split
    refine ⟨List.takeWhile_append_dropWhile.symm, fun c => List.mem_takeWhile_imp, ?_⟩
    intro c head
    have stops := List.head?_dropWhile_not p t
    rw [Option.mem_def.mp head] at stops
    simpa using stops
  · intro split
    obtain ⟨rfl, each, stops⟩ := split
    have noMore : rest.takeWhile p = [] ∧ rest.dropWhile p = rest := by
      cases rest with
      | nil => exact ⟨rfl, rfl⟩
      | cons c rest => simp [stops c rfl]
    rw [List.takeWhile_append_of_pos each, List.dropWhile_append_of_pos each, noMore.1, noMore.2,
      List.append_nil]
    exact ⟨rfl, rfl⟩

theorem drop_length_takeWhile (p : CodePoint → Bool) (t : Text) :
    t.drop (t.takeWhile p).length = t.dropWhile p := by
  induction t with
  | nil => rfl
  | cons c t ih => cases passes : p c <;> simp [passes, ih]

namespace Declaration

/-- Only blanks. -/
def AreBlanks (t : Text) : Prop := ∀ c ∈ t, c.isBlank = true

theorem takeWord?_eq_some_iff : takeWord? word t = some rest ↔ t = word ++ rest := by
  unfold takeWord? Text.startsWith
  constructor
  · intro taken
    split at taken
    · next starts =>
      obtain ⟨after, rfl⟩ := List.isPrefixOf_iff_prefix.mp starts
      rw [List.drop_left] at taken
      rw [Option.some.inj taken]
    · cases taken
  · rintro rfl
    rw [if_pos (List.isPrefixOf_iff_prefix.mpr (List.prefix_append word rest)), List.drop_left]

/-- One blank or more are taken, up to the first character that is none. -/
theorem takeBlanks?_eq_some_iff :
    takeBlanks? t = some rest ↔
      ∃ blanks, blanks ≠ [] ∧ AreBlanks blanks ∧ t = blanks ++ rest ∧
        ∀ c ∈ rest.head?, c.isBlank = false := by
  cases t with
  | nil =>
      constructor
      · intro taken
        cases taken
      · rintro ⟨blanks, nonempty, -, split, -⟩
        exact absurd (List.append_eq_nil_iff.mp split.symm).1 nonempty
  | cons c t =>
      simp only [takeBlanks?]
      constructor
      · intro taken
        split at taken
        · next isBlank =>
          obtain ⟨split, each, stops⟩ :=
            takeWhile_dropWhile_eq_iff.mp ⟨rfl, Option.some.inj taken⟩
          exact ⟨c :: _, List.cons_ne_nil _ _, List.forall_mem_cons.mpr ⟨isBlank, each⟩,
            congrArg (c :: ·) split, stops⟩
        · cases taken
      · rintro ⟨blanks, nonempty, each, split, stops⟩
        cases blanks with
        | nil => exact absurd rfl nonempty
        | cons b blanks =>
            obtain ⟨rfl, rfl⟩ := List.cons.inj split
            obtain ⟨isBlank, others⟩ := List.forall_mem_cons.mp each
            rw [if_pos isBlank]
            exact congrArg some (takeWhile_dropWhile_eq_iff.mpr ⟨rfl, others, stops⟩).2

/-- An identifier is taken up to the first character that cannot belong to it. -/
theorem takeIdentifier?_eq_some_iff :
    takeIdentifier? t = some (id, rest) ↔
      t = id ++ rest ∧ IsIdentifier id ∧ ∀ c ∈ rest.head?, c.isAsciiWord = false := by
  unfold takeIdentifier?
  dsimp only
  rw [drop_length_takeWhile]
  constructor
  · intro taken
    split at taken
    · cases taken
    · next nonempty =>
      obtain ⟨same, same'⟩ := Prod.mk.inj (Option.some.inj taken)
      obtain ⟨split, each, stops⟩ := takeWhile_dropWhile_eq_iff.mp ⟨same, same'⟩
      rw [same] at nonempty
      exact ⟨split, ⟨nonempty, each⟩, stops⟩
  · rintro ⟨split, isIdentifier, stops⟩
    obtain ⟨taken, left⟩ := takeWhile_dropWhile_eq_iff.mpr ⟨split, isIdentifier.chars, stops⟩
    rw [taken, left, if_neg isIdentifier.nonempty]

end Declaration

end NotebookAudit

import Mathlib.Data.List.TakeWhile
import Mathlib.Data.Option.Basic
import NotebookAudit.Symbol.Usage

/-!
Whole words in lines, and what identifiers are made of.

The search for a symbol asks for a word boundary at either end of an occurrence. If the symbol itself
starts and ends with a word character, a boundary is a place without a word character on the other
side, so the search finds exactly the occurrences as a whole word (`Text.mentions_iff`). The symbols
that declarations introduce are identifiers and of this form (`Declaration.importedSymbol?_isIdentifier`,
`Declaration.widgetSymbol?_isIdentifier`).
-/

namespace NotebookAudit

namespace Text

variable {line symbol front after t : Text} {before : Bool}

/-! ## Whole words -/

/-- The symbol stands in the line with no word character right in front of it and none right behind
it. -/
def HasWholeWord (line symbol : Text) : Prop :=
  ∃ front after, line = front ++ (symbol ++ after) ∧
    (∀ c ∈ front.getLast?, c.isWord = false) ∧ ∀ c ∈ after.head?, c.isWord = false

/-- The text starts and ends with a word character. -/
structure WordAtEnds (t : Text) : Prop where
  first : ∃ c ∈ t.head?, c.isWord = true
  last : ∃ c ∈ t.getLast?, c.isWord = true

theorem startsWord_eq_false_iff : startsWord t = false ↔ ∀ c ∈ t.head?, c.isWord = false := by
  cases t with
  | nil => simp [startsWord]
  | cons c t => simp [startsWord]

theorem endsWord_false_eq_false_iff :
    endsWord false t = false ↔ ∀ c ∈ t.getLast?, c.isWord = false := by
  rw [endsWord]
  cases t.getLast? with
  | none => simp
  | some c => simp

theorem endsWord_cons (before : Bool) (c : CodePoint) (t : Text) :
    endsWord before (c :: t) = endsWord c.isWord t := by
  rw [endsWord, endsWord, List.getLast?_cons]
  cases t.getLast? <;> rfl

theorem WordAtEnds.startsWord_append (wordAtEnds : symbol.WordAtEnds) (after : Text) :
    startsWord (symbol ++ after) = true := by
  obtain ⟨c, head, isWord⟩ := wordAtEnds.first
  obtain ⟨rest, rfl⟩ := List.head?_eq_some_iff.mp head
  exact isWord

theorem WordAtEnds.endsWord (wordAtEnds : symbol.WordAtEnds) (before : Bool) :
    endsWord before symbol = true := by
  obtain ⟨c, last, isWord⟩ := wordAtEnds.last
  rw [Text.endsWord, Option.mem_def.mp last]
  exact isWord

/-! ## The search for a symbol -/

/-- The symbol is found in front of a text exactly if no word character precedes it and none follows
it. -/
theorem mentionsAtStart_iff (wordAtEnds : symbol.WordAtEnds) :
    mentionsAtStart symbol before t = true ↔
      before = false ∧ ∃ after, t = symbol ++ after ∧ startsWord after = false := by
  constructor
  · intro mentioned
    simp only [mentionsAtStart, Bool.and_eq_true, bne_iff_ne] at mentioned
    obtain ⟨⟨boundary, starts⟩, boundary'⟩ := mentioned
    obtain ⟨after, rfl⟩ := List.isPrefixOf_iff_prefix.mp starts
    rw [wordAtEnds.startsWord_append] at boundary
    rw [wordAtEnds.endsWord, List.drop_left] at boundary'
    exact ⟨Bool.eq_false_iff.mpr boundary, after, rfl, Bool.eq_false_iff.mpr boundary'.symm⟩
  · intro found
    obtain ⟨rfl, after, rfl, noWord⟩ := found
    simp only [mentionsAtStart, Bool.and_eq_true, bne_iff_ne]
    rw [wordAtEnds.startsWord_append, wordAtEnds.endsWord, List.drop_left, noWord]
    exact ⟨⟨Bool.false_ne_true, List.isPrefixOf_iff_prefix.mpr (List.prefix_append ..)⟩,
      Bool.false_ne_true.symm⟩

/-- The symbol is found in a text exactly if it stands somewhere in it as a whole word. -/
theorem mentionsAfter_iff (wordAtEnds : symbol.WordAtEnds) :
    mentionsAfter symbol before t = true ↔
      ∃ front after, t = front ++ (symbol ++ after) ∧ endsWord before front = false ∧
        startsWord after = false := by
  -- The search moves on by one character, which then is the one that precedes.
  induction t generalizing before with
  | nil =>
      rw [mentionsAfter, Bool.or_false, mentionsAtStart_iff wordAtEnds]
      constructor
      · intro atStart
        obtain ⟨noWord, after, split, noWord'⟩ := atStart
        exact ⟨[], after, split, noWord, noWord'⟩
      · intro found
        obtain ⟨front, after, split, noWord, noWord'⟩ := found
        obtain ⟨rfl, -⟩ := List.append_eq_nil_iff.mp split.symm
        exact ⟨noWord, after, split, noWord'⟩
  | cons c t ih =>
      rw [mentionsAfter, Bool.or_eq_true, mentionsAtStart_iff wordAtEnds, ih]
      constructor
      · intro found
        rcases found with ⟨noWord, after, split, noWord'⟩ | ⟨front, after, rfl, noWord, noWord'⟩
        · exact ⟨[], after, split, noWord, noWord'⟩
        · refine ⟨c :: front, after, rfl, ?_, noWord'⟩
          rw [endsWord_cons]
          exact noWord
      · intro found
        obtain ⟨front, after, split, noWord, noWord'⟩ := found
        cases front with
        | nil => exact .inl ⟨noWord, after, split, noWord'⟩
        | cons d front =>
            obtain ⟨rfl, rfl⟩ := List.cons.inj split
            rw [endsWord_cons] at noWord
            exact .inr ⟨front, after, rfl, noWord, noWord'⟩

/-- A line mentions a symbol exactly if the symbol stands in it as a whole word. -/
theorem mentions_iff (wordAtEnds : symbol.WordAtEnds) :
    line.mentions symbol = true ↔ line.HasWholeWord symbol := by
  simp only [mentions, mentionsAfter_iff wordAtEnds, HasWholeWord, startsWord_eq_false_iff,
    endsWord_false_eq_false_iff]

end Text

/-! ## Identifiers -/

namespace Declaration

variable {line t rest s : Text}

/-- The text is not empty and holds ASCII letters, digits and underscores only. -/
structure IsIdentifier (t : Text) : Prop where
  nonempty : t ≠ []
  chars : ∀ c ∈ t, c.isAsciiWord = true

theorem isWord_of_isAsciiWord {c : Nat} (isAscii : CodePoint.isAsciiWord c = true) :
    CodePoint.isWord c = true := by
  have small : c < 128 := by
    have isAscii : (((0x30 ≤ c ∧ c ≤ 0x39) ∨ (0x41 ≤ c ∧ c ≤ 0x5a)) ∨ (0x61 ≤ c ∧ c ≤ 0x7a)) ∨
        c = 0x5f := by
      simpa [CodePoint.isAsciiWord] using isAscii
    omega
  have ascii : ∀ d < 128, CodePoint.isAsciiWord d = true → CodePoint.isWord d = true := by
    decide +kernel
  exact ascii c small isAscii

theorem IsIdentifier.wordAtEnds (isIdentifier : IsIdentifier t) : t.WordAtEnds where
  first := ⟨_, List.head?_eq_some_head isIdentifier.nonempty,
    isWord_of_isAsciiWord (isIdentifier.chars _ (List.head_mem _))⟩
  last := ⟨_, List.getLast?_eq_some_getLast isIdentifier.nonempty,
    isWord_of_isAsciiWord (isIdentifier.chars _ (List.getLast_mem _))⟩

theorem takeIdentifier?_isIdentifier (taken : takeIdentifier? t = some (s, rest)) :
    IsIdentifier s := by
  rw [takeIdentifier?] at taken
  split at taken
  · cases taken
  · next nonempty =>
    cases taken
    exact ⟨nonempty, fun _ member => List.mem_takeWhile_imp member⟩

theorem alias?_isIdentifier (named : alias? t = some s) : IsIdentifier s := by
  simp only [alias?, Option.bind_eq_bind, Option.bind_eq_some_iff] at named
  obtain ⟨_, -, _, -, _, -, ⟨id, rest⟩, taken, same⟩ := named
  cases same
  exact takeIdentifier?_isIdentifier taken

/-- The new name or else the name that stands there is an identifier. -/
theorem alias?_getD_isIdentifier (isIdentifier : IsIdentifier s) (t : Text) :
    IsIdentifier ((alias? t).getD s) := by
  cases named : alias? t with
  | none => exact isIdentifier
  | some new => exact alias?_isIdentifier named

theorem importSymbol?_isIdentifier (imported : importSymbol? line = some s) : IsIdentifier s := by
  simp only [importSymbol?, Option.bind_eq_bind, Option.bind_eq_some_iff] at imported
  obtain ⟨_, -, _, -, ⟨id, rest⟩, taken, same⟩ := imported
  cases same
  exact alias?_getD_isIdentifier (takeIdentifier?_isIdentifier taken) _

theorem fromSymbol?_isIdentifier (imported : fromSymbol? line = some s) : IsIdentifier s := by
  simp only [fromSymbol?, Option.bind_eq_bind, Option.bind_eq_some_iff] at imported
  obtain ⟨_, -, _, -, ⟨c, rest⟩, -, imported⟩ := imported
  split at imported
  · cases imported
  · simp only [Option.bind_eq_some_iff] at imported
    obtain ⟨_, -, _, -, _, -, ⟨id, rest⟩, taken, same⟩ := imported
    cases same
    exact alias?_getD_isIdentifier (takeIdentifier?_isIdentifier taken) _

/-- An imported symbol is an identifier. -/
theorem importedSymbol?_isIdentifier (imported : importedSymbol? line = some s) :
    IsIdentifier s := by
  rcases (Option.orElse_eq_some _ _ _).mp imported with first | ⟨-, second⟩
  · exact importSymbol?_isIdentifier first
  · exact fromSymbol?_isIdentifier second

/-- The variable of a widget is an identifier. -/
theorem widgetSymbol?_isIdentifier (assigned : widgetSymbol? line = some s) : IsIdentifier s := by
  simp only [widgetSymbol?, Option.bind_eq_bind, Option.bind_eq_some_iff] at assigned
  obtain ⟨⟨id, rest⟩, taken, _, -, _, -, _, -, same⟩ := assigned
  cases same
  exact takeIdentifier?_isIdentifier taken

end Declaration

end NotebookAudit

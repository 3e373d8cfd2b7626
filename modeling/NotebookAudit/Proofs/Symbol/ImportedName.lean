import NotebookAudit.Proofs.Symbol.Reading
import NotebookAudit.Proofs.Symbol.Unused

/-!
Where the symbol of an import stands in its line.

In front of it stands a blank or a parenthesis, and behind it no character of an identifier
(`Declaration.exists_standsAt`). So it is a whole word of its line, unless a letter outside ASCII stands
right behind it: then the symbol is only a part of the name. Two lines that import one symbol see each
other as far as it is a whole word of them (`Notebook.imports_seen`); `Notebook.imports_unseen` shows
two lines that import a name which goes on outside ASCII and do not see each other.
-/

namespace NotebookAudit

/-! ## Blanks, ASCII and words -/

namespace CodePoint

theorem exists_range_of_inRanges {c : CodePoint} {ranges : List (Nat × Nat)}
    (inRanges : c.inRanges ranges = true) : ∃ r ∈ ranges, r.1 ≤ c ∧ c ≤ r.2 := by
  induction ranges with
  | nil => cases inRanges
  | cons r ranges ih =>
      rw [CodePoint.inRanges] at inRanges
      split at inRanges
      · cases inRanges
      next above =>
      split at inRanges
      · next below => exact ⟨r, List.mem_cons_self, Nat.le_of_not_lt above, below⟩
      · obtain ⟨r', member, within⟩ := ih inRanges
        exact ⟨r', List.mem_cons_of_mem _ member, within⟩

/-- A blank is no word character. -/
theorem isWord_of_isBlank {c : CodePoint} (isBlank : c.isBlank = true) : c.isWord = false := by
  have noWord : ∀ r ∈ blankRanges, ∀ i ≤ r.2 - r.1, CodePoint.isWord (r.1 + i) = false := by
    decide +kernel
  obtain ⟨r, member, above, below⟩ := exists_range_of_inRanges isBlank
  have within := noWord r member (c - r.1) (Nat.sub_le_sub_right below r.1)
  rw [Nat.add_sub_cancel' above] at within
  exact within

/-- The word characters in ASCII are those of identifiers. -/
theorem isAsciiWord_of_isWord {c : Nat} (ascii : c < 128) (isWord : CodePoint.isWord c = true) :
    CodePoint.isAsciiWord c = true := by
  have each : ∀ d < 128, CodePoint.isWord d = true → CodePoint.isAsciiWord d = true := by
    decide +kernel
  exact each c ascii isWord

end CodePoint

/-! ## The place of the symbol -/

namespace Declaration

variable {line front after name s t rest : Text}

/-- The name stands in the line with no word character in front of it and no character of an identifier
behind it. -/
structure StandsAt (line front name after : Text) : Prop where
  split : line = front ++ (name ++ after)
  inFront : ∀ c ∈ front.getLast?, c.isWord = false
  behind : ∀ c ∈ after.head?, c.isAsciiWord = false

/-- The line ends in a text in front of which no word character stands. -/
def IsFree (line t : Text) : Prop :=
  ∃ front, line = front ++ t ∧ ∀ c ∈ front.getLast?, c.isWord = false

/-- An identifier that is taken where no word character stands in front. -/
theorem IsFree.standsAt (free : IsFree line t) (taken : takeIdentifier? t = some (name, rest)) :
    ∃ front, StandsAt line front name rest := by
  obtain ⟨front, rfl, inFront⟩ := free
  obtain ⟨rfl, -, behind⟩ := takeIdentifier?_eq_some_iff.mp taken
  exact ⟨front, rfl, inFront, behind⟩

/-- No word character stands in front of what is left after blanks. -/
theorem IsFree.of_takeBlanks? (inside : t <:+ line) (taken : takeBlanks? t = some rest) :
    IsFree line rest := by
  obtain ⟨front, rfl⟩ := inside
  obtain ⟨blanks, nonempty, areBlanks, rfl, -⟩ := takeBlanks?_eq_some_iff.mp taken
  refine ⟨front ++ blanks, (List.append_assoc _ _ _).symm, fun c last => ?_⟩
  rw [List.getLast?_append, List.getLast?_eq_some_getLast nonempty] at last
  rw [← Option.some.inj last]
  exact CodePoint.isWord_of_isBlank (areBlanks _ (List.getLast_mem nonempty))

/-- Characters that are no word characters may be left out. -/
theorem IsFree.append {run : Text} (free : IsFree line (run ++ rest))
    (noWord : ∀ c ∈ run, c.isWord = false) : IsFree line rest := by
  obtain ⟨front, rfl, inFront⟩ := free
  refine ⟨front ++ run, (List.append_assoc _ _ _).symm, fun c last => ?_⟩
  rw [List.getLast?_append] at last
  cases inRun : run.getLast? with
  | none =>
      rw [inRun] at last
      exact inFront c last
  | some d =>
      rw [inRun] at last
      rw [← Option.some.inj last]
      exact noWord d (List.mem_of_getLast? inRun)

/-- A parenthesis and blanks may be left out. -/
theorem IsFree.dropParenthesis (free : IsFree line t) :
    IsFree line (Text.trimStart ((takeWord? "(" t).getD t)) := by
  have trimmed {u : Text} (free : IsFree line u) : IsFree line u.trimStart := by
    rw [← List.takeWhile_append_dropWhile (p := (·.isBlank)) (l := u)] at free
    exact free.append fun c member => CodePoint.isWord_of_isBlank (List.mem_takeWhile_imp member)
  cases opened : takeWord? "(" t with
  | none => exact trimmed free
  | some rest =>
      rw [takeWord?_eq_some_iff.mp opened] at free
      exact trimmed (free.append (by decide +kernel))

theorem suffix_of_takeWord? {word : Text} (taken : takeWord? word t = some rest) : rest <:+ t :=
  ⟨word, (takeWord?_eq_some_iff.mp taken).symm⟩

theorem suffix_of_takeBlanks? (taken : takeBlanks? t = some rest) : rest <:+ t := by
  obtain ⟨blanks, -, -, split, -⟩ := takeBlanks?_eq_some_iff.mp taken
  exact ⟨blanks, split.symm⟩

theorem suffix_of_takeIdentifier? (taken : takeIdentifier? t = some (name, rest)) : rest <:+ t :=
  ⟨name, (takeIdentifier?_eq_some_iff.mp taken).1.symm⟩

theorem dropQualifiers_suffix (t : Text) : dropQualifiers t <:+ t := by
  fun_induction dropQualifiers t with
  | case1 c rest isChar ih =>
      exact (ih.trans (List.dropWhile_suffix _)).trans (List.suffix_append [0x2e, c] rest)
  | case2 => exact List.suffix_refl _
  | case3 => exact List.suffix_refl _

/-- A new name stands in the line as well. -/
theorem exists_standsAt_of_alias? (inside : t <:+ line) (named : alias? t = some s) :
    ∃ front after, StandsAt line front s after := by
  simp only [alias?, Option.bind_eq_bind, Option.bind_eq_some_iff] at named
  obtain ⟨first, blanks, second, word, third, blanks', ⟨id, after⟩, taken, same⟩ := named
  cases same
  have inside : second <:+ line :=
    ((suffix_of_takeWord? word).trans (suffix_of_takeBlanks? blanks)).trans inside
  obtain ⟨front, standsAt⟩ := (IsFree.of_takeBlanks? inside blanks').standsAt taken
  exact ⟨front, after, standsAt⟩

/-- The new name, or else the name that is imported, stands in the line. -/
theorem exists_standsAt_of_getD (free : IsFree line t)
    (taken : takeIdentifier? t = some (name, rest)) {later : Text} (inside : later <:+ rest) :
    ∃ front after, StandsAt line front ((alias? later).getD name) after := by
  cases named : alias? later with
  | none =>
      obtain ⟨front, standsAt⟩ := free.standsAt taken
      exact ⟨front, rest, standsAt⟩
  | some new =>
      obtain ⟨front, split, -⟩ := free
      have inLine : t <:+ line := ⟨front, split.symm⟩
      exact exists_standsAt_of_alias? ((inside.trans (suffix_of_takeIdentifier? taken)).trans inLine)
        named

theorem exists_standsAt_of_importSymbol? (imported : importSymbol? line = some s) :
    ∃ front after, StandsAt line front s after := by
  simp only [importSymbol?, Option.bind_eq_bind, Option.bind_eq_some_iff] at imported
  obtain ⟨first, word, second, blanks, ⟨id, rest⟩, taken, same⟩ := imported
  cases same
  have inside : first <:+ line := (suffix_of_takeWord? word).trans (List.dropWhile_suffix _)
  exact exists_standsAt_of_getD (.of_takeBlanks? inside blanks) taken (dropQualifiers_suffix rest)

theorem exists_standsAt_of_fromSymbol? (imported : fromSymbol? line = some s) :
    ∃ front after, StandsAt line front s after := by
  simp only [fromSymbol?, Option.bind_eq_bind, Option.bind_eq_some_iff] at imported
  obtain ⟨first, word, second, blanks, ⟨c, third⟩, module, imported⟩ := imported
  split at imported
  · cases imported
  simp only [Option.bind_eq_some_iff] at imported
  obtain ⟨fourth, blanks', fifth, word', sixth, blanks'', ⟨id, rest⟩, taken, same⟩ := imported
  cases same
  have moduleEnds : third <:+ second := by
    obtain ⟨d, -, same⟩ := Option.map_eq_some_iff.mp module
    obtain ⟨-, rfl⟩ := Prod.mk.inj same
    exact List.dropWhile_suffix _
  have inside : fifth <:+ line :=
    ((((suffix_of_takeWord? word').trans (suffix_of_takeBlanks? blanks')).trans moduleEnds).trans
      (suffix_of_takeBlanks? blanks)).trans
        ((suffix_of_takeWord? word).trans (List.dropWhile_suffix _))
  exact exists_standsAt_of_getD (IsFree.of_takeBlanks? inside blanks'').dropParenthesis taken
    (List.suffix_refl _)

/-- The symbol of an import stands in its line, with no word character in front of it and no character
of an identifier behind it. -/
theorem exists_standsAt (imported : importedSymbol? line = some s) :
    ∃ front after, StandsAt line front s after := by
  rcases (Option.orElse_eq_some _ _ _).mp imported with first | ⟨-, second⟩
  · exact exists_standsAt_of_importSymbol? first
  · exact exists_standsAt_of_fromSymbol? second

/-- A name is a whole word of its line where no word character stands right behind it. -/
theorem StandsAt.hasWholeWord (standsAt : StandsAt line front name after)
    (ends : ∀ c ∈ after.head?, c.isWord = false) : line.HasWholeWord name :=
  ⟨front, after, standsAt.split, standsAt.inFront, ends⟩

/-- In a line of ASCII characters a name is a whole word. -/
theorem StandsAt.hasWholeWord_of_ascii (standsAt : StandsAt line front name after)
    (ascii : ∀ c : Nat, c ∈ line → c < 128) : line.HasWholeWord name := by
  refine standsAt.hasWholeWord fun c head => ?_
  have inLine : c ∈ line := by
    rw [standsAt.split]
    exact List.mem_append_right _ (List.mem_append_right _ (List.mem_of_head? head))
  rw [← Bool.not_eq_true]
  intro isWord
  have isAsciiWord := CodePoint.isAsciiWord_of_isWord (ascii c inLine) isWord
  rw [standsAt.behind c head] at isAsciiWord
  cases isAsciiWord

end Declaration

/-! ## Two imports of one symbol -/

namespace Notebook

variable {n : Notebook} {l m : PlacedLine} {s : Text}

/-- No two code lines have one place. -/
theorem codeLines_place_injective (lineIn : l ∈ n.codeLines) (otherIn : m ∈ n.codeLines)
    (sameCell : l.cell = m.cell) (sameLine : l.line = m.line) : l = m := by
  obtain ⟨c, cellAt, -, lineAt⟩ := mem_codeLines.mp lineIn
  obtain ⟨d, cellAt', -, lineAt'⟩ := mem_codeLines.mp otherIn
  rw [sameCell, cellAt'] at cellAt
  obtain rfl := Option.some.inj cellAt
  rw [sameLine, lineAt'] at lineAt
  obtain ⟨cell, line, text⟩ := l
  obtain ⟨cell', line', text'⟩ := m
  cases sameCell
  cases sameLine
  cases lineAt
  rfl

/-- The declaration of a symbol on a line. -/
def declarationOn (l : PlacedLine) (s : Text) : Declaration := ⟨s, l.cell, l.line, l.text.trim⟩

/-- A line elsewhere is a use of a symbol exactly if the symbol is a whole word of it. -/
theorem usedOn_iff (elsewhere : ¬ (m.cell = l.cell ∧ m.line = l.line)) :
    (declarationOn l s).UsedOn [] m ↔ m.text.HasWholeWord s :=
  ⟨fun used => used.wholeWord, fun wholeWord => ⟨elsewhere, List.forall_mem_nil _, wholeWord⟩⟩

/-- A declaration with a use is not reported as unused. -/
theorem not_reported_of_isUsed {document : Text} (lineIn : l ∈ n.codeLines)
    (imported : Declaration.importedSymbol? l.text = some s)
    (used : (declarationOn l s).isUsed n [] = true) :
    ∀ f ∈ n.unusedImports document,
      ¬ (f.cellNumber = some (l.cell + 1) ∧ f.lineNumber = some (l.line + 1)) := by
  rintro f member ⟨cellNumber, lineNumber⟩
  obtain ⟨d, kept, rfl⟩ := List.mem_map.mp member
  obtain ⟨declared, unused⟩ := List.mem_filter.mp kept
  obtain ⟨k, otherIn, t, read, rfl⟩ := mem_declarations.mp declared
  have sameLine : k = l := codeLines_place_injective otherIn lineIn
    (Nat.succ.inj (Option.some.inj cellNumber)) (Nat.succ.inj (Option.some.inj lineNumber))
  subst sameLine
  rw [imported] at read
  obtain rfl := Option.some.inj read
  rw [declarationOn] at used
  rw [used] at unused
  cases unused

/-- The symbol of an import stands in its line with no word character in front of it and no character of
an identifier behind it; it is a whole word of the line, unless a word character outside ASCII stands
right behind it there, which no line in ASCII has. Of two lines that import one symbol, each sees the
other exactly if the symbol is a whole word of the other, and then it is not reported as unused. -/
theorem imports_seen (n : Notebook) (document : Text) :
    (∀ line s, Declaration.importedSymbol? line = some s →
      ∃ front after, Declaration.StandsAt line front s after ∧
        (line.HasWholeWord s ∨ ∃ c ∈ after.head?, c.isWord = true) ∧
        ((∀ c : Nat, c ∈ line → c < 128) → line.HasWholeWord s)) ∧
    ∀ l ∈ n.codeLines, ∀ m ∈ n.codeLines, ¬ (m.cell = l.cell ∧ m.line = l.line) →
      ∀ s, Declaration.importedSymbol? l.text = some s → Declaration.importedSymbol? m.text = some s →
        declarationOn l s ∈ n.imports ∧ ((declarationOn l s).UsedOn [] m ↔ m.text.HasWholeWord s) ∧
        (m.text.HasWholeWord s → (declarationOn l s).isUsed n [] = true ∧
          ∀ f ∈ n.unusedImports document,
            ¬ (f.cellNumber = some (l.cell + 1) ∧ f.lineNumber = some (l.line + 1))) := by
  constructor
  · intro line s imported
    obtain ⟨front, after, standsAt⟩ := Declaration.exists_standsAt imported
    refine ⟨front, after, standsAt, ?_, standsAt.hasWholeWord_of_ascii⟩
    by_cases goesOn : ∃ c ∈ after.head?, c.isWord = true
    · exact .inr goesOn
    · refine .inl (standsAt.hasWholeWord fun c head => ?_)
      rw [← Bool.not_eq_true]
      intro isWord
      exact goesOn ⟨c, head, isWord⟩
  · intro l lineIn m otherIn elsewhere s imported imported'
    refine ⟨mem_declarations.mpr ⟨l, lineIn, s, imported, rfl⟩, usedOn_iff elsewhere, ?_⟩
    intro wholeWord
    have wordAtEnds := (Declaration.importedSymbol?_isIdentifier imported).wordAtEnds
    have used : (declarationOn l s).isUsed n [] = true := by
      obtain ⟨c, cellAt, code, lineAt⟩ := mem_codeLines.mp otherIn
      rw [Declaration.isUsed_iff wordAtEnds]
      exact ⟨m.cell, m.line, c, m.text, cellAt, beq_iff_eq.mp code, lineAt,
        (usedOn_iff elsewhere).mpr wholeWord⟩
    exact ⟨used, not_reported_of_isUsed lineIn imported used⟩

/-- Two cells that import one symbol, under its own name and as a new name behind a parenthesis. -/
def importedTwice : Notebook :=
  ⟨[⟨.code, ["import os.path  # año"]⟩, ⟨.markdown, ["os"]⟩,
    ⟨.code, ["from ñ", "from a import (b as os, c"]⟩]⟩

/-- Both imports are whole words of their lines, and see each other. -/
theorem imports_seen_importedTwice :
    Declaration.importedSymbol? "import os.path  # año" = some (Text.ofString "os") ∧
      Declaration.importedSymbol? "from a import (b as os, c" = some (Text.ofString "os") ∧
      (declarationOn ⟨0, 0, "import os.path  # año"⟩ "os").isUsed importedTwice [] = true ∧
      (declarationOn ⟨2, 1, "from a import (b as os, c"⟩ "os").isUsed importedTwice [] = true := by
  have first : Declaration.importedSymbol? "import os.path  # año" = some (Text.ofString "os") := by
    decide +kernel
  have second :
      Declaration.importedSymbol? "from a import (b as os, c" = some (Text.ofString "os") := by
    decide +kernel
  obtain ⟨inLine, inNotebook⟩ := imports_seen importedTwice "a.ipynb"
  have whole {line : Text} (imported : Declaration.importedSymbol? line = some (Text.ofString "os"))
      (mentioned : line.mentions "os" = true) : line.HasWholeWord "os" :=
    (Text.mentions_iff (Declaration.importedSymbol?_isIdentifier imported).wordAtEnds).mp mentioned
  have lineIn : ⟨0, 0, "import os.path  # año"⟩ ∈ importedTwice.codeLines := by decide +kernel
  have otherIn : ⟨2, 1, "from a import (b as os, c"⟩ ∈ importedTwice.codeLines := by decide +kernel
  refine ⟨first, second, ?_, ?_⟩
  · exact ((inNotebook _ lineIn _ otherIn (by decide) _ first second).2.2
      (whole second (by decide +kernel))).1
  · exact ((inNotebook _ otherIn _ lineIn (by decide) _ second first).2.2
      (whole first (by decide +kernel))).1

/-- Two lines that import a name which ends in a letter outside ASCII. -/
def accentedImports : Notebook := ⟨[⟨.code, ["import osé", "import osé"]⟩]⟩

/-- The symbol that is read from the lines is a part of the name and no whole word of them. The lines
do not see each other, and both are reported. -/
theorem imports_unseen :
    Declaration.importedSymbol? "import osé" = some (Text.ofString "os") ∧
      ¬ Text.HasWholeWord "import osé" "os" ∧
      accentedImports.codeLines = [⟨0, 0, "import osé"⟩, ⟨0, 1, "import osé"⟩] ∧
      (accentedImports.unusedImports "a.ipynb").map (fun f => (f.cellNumber, f.lineNumber)) =
        [(some 1, some 1), (some 1, some 2)] := by
  have imported : Declaration.importedSymbol? "import osé" = some (Text.ofString "os") := by
    decide +kernel
  have wordAtEnds := (Declaration.importedSymbol?_isIdentifier imported).wordAtEnds
  refine ⟨imported, ?_, by decide +kernel, by decide +kernel⟩
  rw [← Text.mentions_iff wordAtEnds]
  decide +kernel

end Notebook

end NotebookAudit

import NotebookAudit.Proofs.Pattern.Attempts

/-!
Patterns that spell a word.

An escaped text has a backslash in front of every character that means something in a pattern. Read as a
pattern it is the characters of the text, one after another (`readSequence_escaped`). Between two word
boundaries it is compiled to tests for these characters between two conditions
(`compileUnder_wordPattern`).
-/

namespace NotebookAudit.Pattern

/-- The characters that mean something in a pattern. -/
def special : Text := Text.ofString "()[]\x7b\x7d?*+-|^$\\.&~# \t\n\r\x0b\x0c"

/-- A character as a pattern that matches just it. -/
def escapedChar (c : CodePoint) : Text := if c ∈ special then [0x5c, c] else [c]

/-- A text as a pattern that matches just it. -/
def escaped (t : Text) : Text := t.flatMap escapedChar

/-- A word between word boundaries. -/
def wordPattern (word : Text) : Text := "\\b" ++ escaped word ++ "\\b"

theorem special_eq : special =
    [0x28, 0x29, 0x5b, 0x5d, 0x7b, 0x7d, 0x3f, 0x2a, 0x2b, 0x2d, 0x7c, 0x5e, 0x24, 0x5c, 0x2e, 0x26,
      0x7e, 0x23, 0x20, 0x09, 0x0a, 0x0d, 0x0b, 0x0c] := rfl

theorem backslash_mem_special : 0x5c ∈ special := by simp [special_eq]

/-- The characters for which a sequence is looked through are special. -/
theorem operators_special :
    (∀ c ∈ Text.ofString "|)", c ∈ special) ∧ (∀ c ∈ Text.ofString "*+?\x7b", c ∈ special) ∧
      ∀ c ∈ ['[', '.', '^', '$', '('], c.toNat ∈ special := by
  simp [special_eq, Text.ofString]

/-! ## Tokens -/

theorem tokensFrom_cons {c : CodePoint} (noBackslash : c ≠ 0x5c) (position : Nat) (rest : Text) :
    tokensFrom position (c :: rest) = ⟨position, false, c⟩ :: tokensFrom (position + 1) rest := by
  rw [tokensFrom]
  · rintro d rest rfl
    exact absurd rfl noBackslash
  · rintro rfl
    exact absurd rfl noBackslash

/-- The token of an escaped character says whether it has a backslash in front. -/
theorem tokensFrom_escapedChar (position : Nat) (c : CodePoint) (rest : Text) :
    ∃ next, tokensFrom position (escapedChar c ++ rest) =
      ⟨position, decide (c ∈ special), c⟩ :: tokensFrom next rest := by
  rw [escapedChar]
  split
  · next isSpecial =>
    rw [decide_eq_true isSpecial]
    exact ⟨position + 2, rfl⟩
  · next isPlain =>
    have noBackslash : c ≠ 0x5c := fun same => isPlain (same ▸ backslash_mem_special)
    rw [decide_eq_false isPlain]
    exact ⟨position + 1, tokensFrom_cons noBackslash position rest⟩

theorem endsLoose_escapedChar (c : CodePoint) (rest : Text) :
    endsLoose (escapedChar c ++ rest) = endsLoose rest := by
  rw [escapedChar]
  split
  · rfl
  · next isPlain =>
    have noBackslash : c ≠ 0x5c := fun same => isPlain (same ▸ backslash_mem_special)
    show endsLoose (c :: rest) = _
    rw [endsLoose]
    · rintro d rest rfl
      exact absurd rfl noBackslash
    · rintro rfl
      exact absurd rfl noBackslash

theorem endsLoose_escaped (t rest : Text) : endsLoose (escaped t ++ rest) = endsLoose rest := by
  induction t with
  | nil => rfl
  | cons c t ih =>
      rw [escaped, List.flatMap_cons, List.append_assoc, endsLoose_escapedChar, ← escaped, ih]

/-! ## Reading -/

/-- The state with some tokens left. -/
def Reading.behind (s : Reading) (ts : List Token) : Reading :=
  { s with cursor := { s.cursor with tokens := ts } }

variable {s : Reading} {t : Token} {ts : List Token} {fuel depth : Nat} {isFirst : Bool}
  {done : List Node}

theorem run_bind {α β : Type} {m : ReadM α} {f : α → ReadM β} {a : α} {s' : Reading}
    (ran : m s = .ok (a, s')) : (m >>= f) s = f a s' := by
  show (m s >>= fun (a, s') => f a s') = _
  rw [ran]
  rfl

theorem peek_of_cons (next : s.cursor.tokens = t :: ts) : peek s = .ok (some t, s) := by
  show Except.ok (s.cursor.tokens.head?, s) = _
  rw [next]
  rfl

theorem take?_run (next : s.cursor.tokens = t :: ts) (tight : s.cursor.loose = false) :
    take? s = .ok (some t, s.behind ts) := by
  have advanced : s.cursor.advance = .ok { s.cursor with tokens := ts } := by
    rw [Cursor.advance, Cursor.check, tight, Bool.and_false, if_neg Bool.false_ne_true, next,
      List.tail_cons, ← tight]
  have looks : (get : ReadM Reading) s = .ok (s, s) := rfl
  rw [take?, run_bind looks, next, advanced]
  rfl

theorem readEscape_special (isSpecial : t.char ∈ special) :
    readEscape t s = .ok (.literal t.char, s) := by
  have noClass : ∀ c ∈ special,
      classEscape? c = none ∧ anchorEscape? c = none ∧ controlEscape? c = none ∧
      c ≠ 0x78 ∧ c ≠ 0x75 ∧ c ≠ 0x55 ∧ c ≠ 0x4e ∧ c ≠ 0x30 ∧ c.isAsciiDigit = false ∧
      c.isAsciiLetter = false := by
    rw [special_eq]
    decide
  obtain ⟨noClass, noAnchor, noControl, noX, noU, noU', noN, noZero, noDigit, noLetter⟩ :=
    noClass t.char isSpecial
  rw [readEscape, noClass, noAnchor, noControl]
  have noChar : readCharEscape? t = pure none := by
    rw [readCharEscape?, if_neg noX, if_neg noU, if_neg noU', if_neg noN]
  have other : readOtherEscape t = pure t.char := by
    rw [readOtherEscape, noLetter, if_neg Bool.false_ne_true]
  dsimp only
  rw [noChar, noDigit, other, if_neg noZero]
  rfl

theorem readSequence_of_literal (next : s.cursor.tokens = t :: ts) (tight : s.cursor.loose = false)
    (marked : t.escaped = decide (t.char ∈ special)) :
    readSequence (fuel + 1) false depth isFirst done s =
      readSequence fuel false depth isFirst (.leaf (.literal t.char) :: done) (s.behind ts) := by
  obtain ⟨alternatives, repeats, others⟩ := operators_special
  have noneOf (cs : String) (all : ∀ c ∈ Text.ofString cs, c ∈ special) : t.isOneOf cs = false := by
    rw [Token.isOneOf, marked]
    by_cases isSpecial : t.char ∈ special
    · rw [decide_eq_true isSpecial]
      rfl
    · rw [decide_eq_false isSpecial, Bool.not_false, Bool.true_and, List.contains_eq_mem,
        decide_eq_false fun member => isSpecial (all _ member)]
  have isNot (c : Char) (isOperator : c ∈ ['[', '.', '^', '$', '(']) : t.is c = false := by
    rw [Token.is, marked]
    by_cases isSpecial : t.char ∈ special
    · rw [decide_eq_true isSpecial]
      rfl
    · rw [decide_eq_false isSpecial, Bool.not_false, Bool.true_and, beq_eq_false_iff_ne]
      rintro same
      exact isSpecial (same ▸ others c isOperator)
  rw [readSequence, run_bind (peek_of_cons next)]
  dsimp only
  rw [noneOf "|)" alternatives, if_neg Bool.false_ne_true, run_bind (take?_run next tight)]
  simp only [Bool.false_and, if_neg Bool.false_ne_true]
  by_cases isSpecial : t.char ∈ special
  · rw [marked, decide_eq_true isSpecial, if_pos rfl, run_bind (readEscape_special isSpecial)]
  · rw [marked, decide_eq_false isSpecial, if_neg Bool.false_ne_true,
      isNot '[' (by simp), if_neg Bool.false_ne_true,
      noneOf "*+?\x7b" repeats, if_neg Bool.false_ne_true,
      isNot '.' (by simp), if_neg Bool.false_ne_true,
      isNot '^' (by simp), if_neg Bool.false_ne_true,
      isNot '$' (by simp), if_neg Bool.false_ne_true,
      isNot '(' (by simp), if_neg Bool.false_ne_true]

/-- The token `\b`. -/
theorem readSequence_of_boundary (next : s.cursor.tokens = t :: ts) (tight : s.cursor.loose = false)
    (escaped : t.escaped = true) (isB : t.char = 0x62) :
    readSequence (fuel + 1) false depth isFirst done s =
      readSequence fuel false depth isFirst (.leaf (.anchor (.boundary false)) :: done)
        (s.behind ts) := by
  have noneOf (cs : String) : t.isOneOf cs = false := by
    rw [Token.isOneOf, escaped]
    rfl
  have boundary (s : Reading) : readEscape t s = .ok (.anchor (.boundary false), s) := by
    rw [readEscape, isB]
    rfl
  rw [readSequence, run_bind (peek_of_cons next)]
  dsimp only
  rw [noneOf, if_neg Bool.false_ne_true, run_bind (take?_run next tight)]
  simp only [Bool.false_and, if_neg Bool.false_ne_true]
  rw [escaped, if_pos rfl, run_bind (boundary _)]

theorem readSequence_of_nil (next : s.cursor.tokens = []) :
    readSequence (fuel + 1) false depth isFirst done s = .ok (openPlainGroups done.reverse, s) := by
  have looks : peek s = .ok (none, s) := by
    show Except.ok (s.cursor.tokens.head?, s) = _
    rw [next]
    rfl
  rw [readSequence, run_bind looks]
  rfl

theorem openPlainGroups_leaves (leaves : List Leaf) :
    openPlainGroups (leaves.map .leaf) = leaves.map .leaf := by
  induction leaves with
  | nil => rfl
  | cons l leaves ih =>
      rw [List.map_cons, openPlainGroups, List.flatMap_cons, ← openPlainGroups, ih]
      rfl

/-- An escaped text in front of a word boundary that ends the pattern is read character by character. -/
theorem readSequence_escaped {word : Text} {position : Nat} (leaves : List Leaf)
    (enough : word.length + 2 ≤ fuel)
    (next : s.cursor.tokens = tokensFrom position (escaped word ++ "\\b"))
    (tight : s.cursor.loose = false) :
    readSequence fuel false depth isFirst (leaves.reverse.map Node.leaf) s =
      .ok ((leaves ++ (word.map Leaf.literal ++ [Leaf.anchor (.boundary false)])).map Node.leaf,
        s.behind []) := by
  induction word generalizing position fuel leaves s with
  | nil =>
      obtain ⟨fuel, rfl⟩ := Nat.exists_eq_add_of_le' enough
      have isBoundary : s.cursor.tokens = [⟨position, true, 0x62⟩] := next
      refine (readSequence_of_boundary isBoundary tight rfl rfl).trans ?_
      refine (readSequence_of_nil rfl).trans ?_
      have reversed : (Node.leaf (.anchor (.boundary false)) :: leaves.reverse.map Node.leaf).reverse =
          (leaves ++ [Leaf.anchor (.boundary false)]).map Node.leaf := by
        rw [List.reverse_cons, List.map_reverse, List.reverse_reverse, List.map_append]
        rfl
      rw [reversed, openPlainGroups_leaves]
      rfl
  | cons c word ih =>
      rw [List.length_cons] at enough
      obtain ⟨fuel, rfl⟩ := Nat.exists_eq_add_of_le' (Nat.le_trans (Nat.le_add_left 1 _) enough)
      rw [escaped, List.flatMap_cons, List.append_assoc] at next
      obtain ⟨position', first⟩ := tokensFrom_escapedChar position c (escaped word ++ "\\b")
      have rest := @ih (s.behind _) fuel position' (leaves ++ [Leaf.literal c]) (by omega) rfl tight
      rw [List.reverse_append, List.append_assoc leaves] at rest
      exact (readSequence_of_literal (next.trans first) tight rfl).trans rest

/-- The parts of a word between word boundaries. -/
def wordLeaves (word : Text) : List Leaf :=
  .anchor (.boundary false) :: (word.map .literal ++ [.anchor (.boundary false)])

theorem length_le_escaped (t : Text) : t.length ≤ (escaped t).length := by
  induction t with
  | nil => exact Nat.zero_le _
  | cons c t ih =>
      have some : 1 ≤ (escapedChar c).length := by
        unfold escapedChar
        split <;> simp
      rw [escaped, List.flatMap_cons, ← escaped, List.length_append, List.length_cons]
      omega

theorem readAlternatives_wordPattern {word : Text} (enough : word.length + 4 ≤ fuel)
    (next : s.cursor.tokens = tokensFrom 0 (wordPattern word)) (tight : s.cursor.loose = false) :
    readAlternatives fuel false 0 s = .ok ((wordLeaves word).map Node.leaf, s.behind []) := by
  obtain ⟨fuel, rfl⟩ := Nat.exists_eq_add_of_le' (Nat.le_trans (Nat.le_add_left 2 _) enough)
  have sequence : readSequence (fuel + 1) false 1 true [] s =
      .ok ((wordLeaves word).map Node.leaf, s.behind []) := by
    have first : s.cursor.tokens = ⟨0, true, 0x62⟩ :: tokensFrom 2 (escaped word ++ "\\b") := next
    refine (readSequence_of_boundary first tight rfl rfl).trans ?_
    exact readSequence_escaped [.anchor (.boundary false)] (by omega) rfl tight
  have noMore : readMore (fuel + 1) false 0 (s.behind []) = .ok ([], s.behind []) := by
    rw [readMore]
    rfl
  rw [readAlternatives, if_neg (Nat.not_lt_zero _)]
  exact (run_bind sequence).trans (run_bind noMore)

/-- The pattern of a word is read as the characters of the word between two boundaries. -/
theorem read_wordPattern (word : Text) :
    read {} (wordPattern word) = .ok ⟨(wordLeaves word).map Node.leaf, {}, 0⟩ := by
  have tight : endsLoose (wordPattern word) = false := by
    rw [wordPattern, List.append_assoc]
    exact endsLoose_escaped word "\\b"
  have cursor : Cursor.ofText (wordPattern word) =
      .ok ⟨tokensFrom 0 (wordPattern word), (wordPattern word).length, false⟩ := by
    simp only [Cursor.ofText, Cursor.check, tight, Bool.and_false, if_neg Bool.false_ne_true]
  let start : Reading :=
    ⟨⟨tokensFrom 0 (wordPattern word), (wordPattern word).length, false⟩, {}, 0, [], [], none, []⟩
  have enough : word.length + 4 ≤ 4 * (wordPattern word).length + 4 := by
    have length := length_le_escaped word
    rw [wordPattern, List.length_append, List.length_append]
    omega
  have alternatives := readAlternatives_wordPattern (s := start) enough rfl rfl
  have all : readAll (4 * (wordPattern word).length + 4) {} start =
      .ok (⟨(wordLeaves word).map Node.leaf, {}, 0⟩, start.behind []) := by
    rw [readAll]
    rw [run_bind alternatives]
    rfl
  rw [read, cursor]
  show ((readAll (4 * (wordPattern word).length + 4) {}).run' start : Except Error _) = _
  rw [StateT.run', all]
  rfl

/-! ## Compiling -/

theorem compileAll_leaves (f : Flags) (leaves : List Leaf) :
    compileAll f (leaves.map .leaf) = .ok (leaves.map f.compileLeaf) := by
  induction leaves with
  | nil => rfl
  | cons l leaves ih =>
      rw [List.map_cons, compileAll, ih]
      rfl

/-- The tests for the characters of a word, one after another. -/
def spelled (word : Text) : List Instr := word.map fun c => Flags.compileLeaf {} (.literal c)

/-- A condition that a word character stands on one side only. -/
def boundary : Instr := .place (.boundary false false)

theorem sumOfWidths_least (word : Text) :
    (sumOfWidths ((word.map Leaf.literal ++ [Leaf.anchor (.boundary false)]).map Node.leaf)).least =
      word.length := by
  induction word with
  | nil => rfl
  | cons c word ih =>
      rw [List.length_cons, ← ih, Nat.add_comm]
      rfl

/-- The pattern of a word is compiled to the tests for its characters between two boundaries. -/
theorem compileUnder_wordPattern (word : Text) :
    ∃ p, compileUnder {} (wordPattern word) = .ok p ∧
      p.program = boundary :: (spelled word ++ [boundary]) ∧ p.groups = 0 ∧
      p.least ≤ word.length ∧ p.leading? = none := by
  have program :
      (wordLeaves word).map (Flags.compileLeaf {}) = boundary :: (spelled word ++ [boundary]) := by
    rw [wordLeaves, List.map_cons, List.map_append, List.map_map]
    rfl
  have least : (widthOfAll ((wordLeaves word).map Node.leaf)).least ≤ word.length := by
    show min (0 + (sumOfWidths _).least) Width.cap ≤ _
    rw [sumOfWidths_least, Nat.zero_add]
    exact Nat.min_le_left _ _
  have noSet : leadingTest? {} ((wordLeaves word).map Node.leaf) = none := by
    rw [leadingTest?]
    split
    · rfl
    · rfl
  refine ⟨⟨_, 0, _, _⟩, ?_, program, rfl, least, noSet⟩
  rw [compileUnder, read_wordPattern]
  show ((compileAll {} ((wordLeaves word).map Node.leaf)).mapError Error.invalid >>= _) = _
  rw [compileAll_leaves]
  rfl

/-! ## Running -/

section Running

variable {s : Subject} {rest : List Instr} {loops : List Loop} {pos n : Nat} {word : Text}
  {marks : Array (Option Nat)} {found : State}

theorem accepts_literal (c d : CodePoint) : (Flags.literalTest {} false c).accepts d = (d == c) := by
  rw [Flags.literalTest, CharTest.accepts, List.any_cons, List.any_nil, Bool.or_false, Bool.bne_false]
  show SetItem.accepts .exact false d (.literal c) = _
  rw [SetItem.accepts]
  split
  · exact Bool.or_false _
  · rfl

theorem boundOfAll_spelled (n : Nat) (word : Text) (rest : List Instr) :
    boundOfAll n (spelled word ++ rest) = word.length + boundOfAll n rest := by
  induction word with
  | nil => exact (Nat.zero_add _).symm
  | cons c word ih =>
      show 1 + boundOfAll n (spelled word ++ rest) = _
      rw [ih, List.length_cons]
      omega

/-- A word that stands at the place is passed. -/
theorem Finds.spelled (starts : (s.after pos).startsWith word = true)
    (finds : Finds s n rest loops (pos + word.length) marks found) :
    Finds s (n + word.length) (spelled word ++ rest) loops pos marks found := by
  induction word generalizing pos with
  | nil => exact finds
  | cons c word ih =>
      obtain ⟨t, there⟩ := List.isPrefixOf_iff_prefix.mp starts
      have passes : s.passes (Flags.literalTest {} false c) pos = true := by
        rw [Subject.passes_eq, ← there]
        exact (accepts_literal c c).trans (beq_self_eq_true c)
      have starts : (s.after (pos + 1)).startsWith word = true := by
        rw [Subject.after_succ there.symm]
        exact List.isPrefixOf_iff_prefix.mpr (List.prefix_append word t)
      rw [List.length_cons, Nat.add_comm word.length, ← Nat.add_assoc] at finds
      exact .test passes (ih starts finds)

theorem Fails.spelled (fails : (s.after pos).startsWith word = true →
      Fails s rest loops (pos + word.length)) :
    Fails s (spelled word ++ rest) loops pos := by
  induction word generalizing pos with
  | nil => exact fails rfl
  | cons c word ih =>
      refine .test fun passes => ih fun starts => ?_
      rw [Subject.passes_eq] at passes
      cases there : s.after pos with
      | nil =>
          rw [there] at passes
          cases passes
      | cons d t =>
          rw [there] at passes fails
          rw [Subject.after_succ there] at starts
          obtain rfl : d = c := eq_of_beq ((accepts_literal c d).symm.trans passes)
          rw [List.length_cons, Nat.add_comm word.length, ← Nat.add_assoc] at fails
          refine fails ?_
          obtain ⟨t', rfl⟩ := List.isPrefixOf_iff_prefix.mp starts
          exact List.isPrefixOf_iff_prefix.mpr (List.prefix_append (d :: word) t')

end Running

end NotebookAudit.Pattern

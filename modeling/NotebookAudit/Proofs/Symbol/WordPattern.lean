import NotebookAudit.Proofs.Pattern.Spelling
import NotebookAudit.Proofs.Symbol.WholeWord

/-!
The search for a symbol as the search for a pattern.

A line mentions a symbol if the pattern is found in it that has the escaped symbol between two word
boundaries (`Text.search_wordPattern`). From a place the program of this pattern succeeds exactly if
`Text.mentionsAtStart` holds of what stands there.
-/

namespace NotebookAudit

namespace Text

variable {symbol t : Text} {before : Bool}

theorem endsWord_append (before : Bool) (front t : Text) :
    endsWord before (front ++ t) = endsWord (endsWord before front) t := by
  rw [endsWord, endsWord, endsWord, List.getLast?_append]
  cases t.getLast? <;> rfl

/-- The search tries the symbol in front of every end of the text. -/
theorem mentionsAfter_iff_exists_place :
    mentionsAfter symbol before t = true ↔
      ∃ pos ≤ t.length, mentionsAtStart symbol (endsWord before (t.take pos)) (t.drop pos) = true := by
  induction t generalizing before with
  | nil =>
      rw [mentionsAfter, Bool.or_false]
      constructor
      · exact fun mentioned => ⟨0, Nat.le_refl 0, mentioned⟩
      · rintro ⟨pos, -, mentioned⟩
        rw [List.take_nil, List.drop_nil] at mentioned
        exact mentioned
  | cons c t ih =>
      rw [mentionsAfter, Bool.or_eq_true, ih]
      constructor
      · rintro (mentioned | ⟨pos, inRange, mentioned⟩)
        · exact ⟨0, Nat.zero_le _, mentioned⟩
        · refine ⟨pos + 1, Nat.succ_le_succ inRange, ?_⟩
          rw [List.take_succ_cons, List.drop_succ_cons, endsWord_cons]
          exact mentioned
      · rintro ⟨pos, inRange, mentioned⟩
        cases pos with
        | zero => exact .inl mentioned
        | succ pos =>
            rw [List.take_succ_cons, List.drop_succ_cons, endsWord_cons] at mentioned
            exact .inr ⟨pos, Nat.le_of_succ_le_succ inRange, mentioned⟩

end Text

namespace Pattern

open Text

variable {s : Subject} {rest : List Instr} {loops : List Loop} {pos n : Nat} {word : Text}
  {marks : Array (Option Nat)} {found : State}

/-! ## Word boundaries -/

/-- The characters in front of a place. -/
def Subject.before (s : Subject) (pos : Nat) : Text := s.chars.toList.take pos

theorem isWord_eq (s : Subject) (pos : Nat) : s.isWord false pos = startsWord (s.after pos) := by
  rw [Subject.isWord, Subject.getElem?_eq_head?]
  cases s.after pos <;> rfl

theorem isWord_before (inRange : pos ≤ s.size) :
    (decide (0 < pos) && s.isWord false (pos - 1)) = endsWord false (s.before pos) := by
  rw [endsWord, Subject.before, List.getLast?_take]
  cases pos with
  | zero => rfl
  | succ pos =>
      have there : s.chars[pos]? = some s.chars[pos] := Array.getElem?_eq_getElem inRange
      rw [Subject.isWord, Nat.add_sub_cancel, there, Array.getElem?_toList, there]
      rfl

/-- A boundary is a place with a word character on one side only. -/
theorem holds_boundary (inRange : pos ≤ s.size) :
    s.holds pos (.boundary false false) =
      (endsWord false (s.before pos) != startsWord (s.after pos)) := by
  rw [← isWord_before inRange, ← isWord_eq, Subject.holds, Bool.bne_false]
  by_cases isEmpty : s.size = 0
  · obtain rfl : pos = 0 := by omega
    have noChar : s.isWord false 0 = false := by
      rw [Subject.isWord, Array.getElem?_eq_none (Nat.le_of_eq isEmpty)]
    rw [noChar, isEmpty]
    rfl
  · rw [bne_iff_ne.mpr isEmpty, Bool.true_and]

theorem before_add (starts : (s.after pos).startsWith word = true) :
    s.before (pos + word.length) = s.before pos ++ word := by
  obtain ⟨t, there⟩ := List.isPrefixOf_iff_prefix.mp starts
  rw [Subject.before, List.take_add, ← Subject.before, ← Subject.after, ← there, List.take_left]

theorem add_length_le (inRange : pos ≤ s.size) (starts : (s.after pos).startsWith word = true) :
    pos + word.length ≤ s.size := by
  have shorter := (List.isPrefixOf_iff_prefix.mp starts).length_le
  rw [Subject.length_after] at shorter
  omega

/-! ## The program of a word -/

/-- The symbol is mentioned at a place if there is a boundary at either end of it. -/
theorem mentionsAtStart_iff_holds (inRange : pos ≤ s.size) :
    mentionsAtStart word (endsWord false (s.before pos)) (s.after pos) = true ↔
      s.holds pos (.boundary false false) = true ∧ (s.after pos).startsWith word = true ∧
        s.holds (pos + word.length) (.boundary false false) = true := by
  rw [mentionsAtStart, Bool.and_eq_true, Bool.and_eq_true, ← holds_boundary inRange, and_assoc]
  refine and_congr_right fun _ => and_congr_right fun starts => ?_
  rw [holds_boundary (add_length_le inRange starts), before_add starts, endsWord_append,
    Subject.after_add]

theorem finds_word (inRange : pos ≤ s.size)
    (mentioned : mentionsAtStart word (endsWord false (s.before pos)) (s.after pos) = true) :
    Finds s (2 + word.length + 1) (boundary :: (spelled word ++ [boundary])) [] pos marks
      ⟨marks, pos + word.length⟩ := by
  obtain ⟨first, starts, last⟩ := (mentionsAtStart_iff_holds inRange).mp mentioned
  exact .place first (.spelled starts (.place last .nil))

theorem fails_word (inRange : pos ≤ s.size)
    (unmentioned : mentionsAtStart word (endsWord false (s.before pos)) (s.after pos) = false) :
    Fails s (boundary :: (spelled word ++ [boundary])) [] pos := by
  refine .place fun first => .spelled fun starts => .place fun last => ?_
  rw [(mentionsAtStart_iff_holds inRange).mpr ⟨first, starts, last⟩] at unmentioned
  cases unmentioned

theorem boundOfAll_word (n : Nat) (word : Text) :
    boundOfAll n (boundary :: (spelled word ++ [boundary])) = word.length + 3 := by
  show 1 + boundOfAll n (spelled word ++ [boundary]) = _
  rw [boundOfAll_spelled]
  show 1 + (word.length + 2) = _
  omega

/-- From a place the program of a word succeeds if the word is mentioned there. -/
theorem runAt_word (inRange : pos ≤ s.size) :
    (runAt s (boundary :: (spelled word ++ [boundary])) pos).1 =
      mentionsAtStart word (endsWord false (s.before pos)) (s.after pos) := by
  rw [runAt, boundOfAll_word]
  cases mentioned : mentionsAtStart word (endsWord false (s.before pos)) (s.after pos) with
  | true => rw [finds_word inRange mentioned _ _ (by omega)]
  | false => exact fails_word inRange mentioned _ _

/-- Without groups a search finds something if the program succeeds from a place that is tried. -/
theorem search_of_noGroups {p : Pattern} (noGroups : p.groups = 0) (line : Text) :
    p.search line = if (p.starts ⟨line.toArray⟩).any fun pos =>
      (runAt ⟨line.toArray⟩ p.program pos).1 then .found else .nothing := by
  rw [search, noGroups]
  induction p.starts ⟨line.toArray⟩ with
  | nil => rfl
  | cons pos others ih =>
      rw [List.findSome?_cons, List.any_cons]
      cases ran : runAt ⟨line.toArray⟩ p.program pos with
      | mk success found =>
          cases success with
          | true => rfl
          | false => exact ih

/-- A search tries all places that leave room for the pattern. -/
theorem mem_starts {p : Pattern} (noTest : p.leading? = none) {pos : Nat}
    (room : pos + p.least ≤ s.size) :
    pos ∈ p.starts s := by
  rw [starts, if_neg (by omega), noTest]
  exact List.mem_range.mpr (by omega)

theorem le_size_of_mem_starts {p : Pattern} (noTest : p.leading? = none) {pos : Nat}
    (tried : pos ∈ p.starts s) : pos ≤ s.size := by
  rw [starts, noTest] at tried
  split at tried
  · cases tried
  · have inRange := List.mem_range.mp tried
    omega

end Pattern

/-- The search for the pattern of a symbol finds something in a line exactly if the line mentions the
symbol. -/
theorem Text.search_wordPattern (symbol : Text) :
    ∃ p, Pattern.compileUnder {} (Pattern.wordPattern symbol) = .ok p ∧
      ∀ line : Text, p.search line = if line.mentions symbol then .found else .nothing := by
  obtain ⟨p, compiled, program, noGroups, least, noTest⟩ := Pattern.compileUnder_wordPattern symbol
  refine ⟨p, compiled, fun line => ?_⟩
  let s : Pattern.Subject := ⟨line.toArray⟩
  have runs {pos : Nat} (inRange : pos ≤ line.length) : (Pattern.runAt s p.program pos).1 =
      mentionsAtStart symbol (endsWord false (line.take pos)) (line.drop pos) := by
    rw [program]
    exact Pattern.runAt_word (s := s) inRange
  have found :
      (p.starts s).any (fun pos => (Pattern.runAt s p.program pos).1) = line.mentions symbol := by
    rw [Bool.eq_iff_iff, List.any_eq_true, mentions, mentionsAfter_iff_exists_place]
    constructor
    · rintro ⟨pos, tried, succeeds⟩
      have inRange : pos ≤ line.length := Pattern.le_size_of_mem_starts noTest tried
      exact ⟨pos, inRange, (runs inRange).symm.trans succeeds⟩
    · rintro ⟨pos, inRange, mentioned⟩
      refine ⟨pos, Pattern.mem_starts noTest ?_, (runs inRange).trans mentioned⟩
      have starts := ((Pattern.mentionsAtStart_iff_holds (s := s) inRange).mp mentioned).2.1
      exact Nat.le_trans (Nat.add_le_add_left least pos) (Pattern.add_length_le inRange starts)
  rw [Pattern.search_of_noGroups noGroups, found]

/-- A symbol is used if the search for its pattern finds something in a line that is searched. -/
theorem Declaration.isUsed_iff_search (d : Declaration) :
    ∃ p, Pattern.compileUnder {} (Pattern.wordPattern d.symbol) = .ok p ∧
      ∀ (n : Notebook) (ignored : List Text), d.isUsed n ignored = true ↔
        ∃ l ∈ n.codeLines, d.isSearched ignored l = true ∧ p.search l.text = .found := by
  obtain ⟨p, compiled, search⟩ := Text.search_wordPattern d.symbol
  refine ⟨p, compiled, fun n ignored => ?_⟩
  have found (l : PlacedLine) : p.search l.text = .found ↔ l.text.mentions d.symbol = true := by
    rw [search]
    cases l.text.mentions d.symbol <;> simp
  simp only [isUsed, List.any_eq_true, Bool.and_eq_true, found]

end NotebookAudit

import NotebookAudit.Pattern.Basic
import NotebookAudit.Proofs.Pattern.Escape
import NotebookAudit.Proofs.Pattern.Opening

/-!
Which patterns stop the reading with an error that is no fault of theirs.

The four functions that read alternatives and sequences call each other, each with less fuel. What
they keep is `Reading.Within`: of the tokens of the pattern the last are left, every two levels of
depth have cost an opening parenthesis, the fuel is enough for the tokens left, and switches are on
only if the pattern turns them on. `compile_shown` then says what the text of a pattern must have
for each error that is no fault.
-/

namespace NotebookAudit.Pattern

/-! ## What the reading of a pattern keeps -/

/-- A state in the reading of some tokens at a depth, with fuel for the tokens left. -/
structure Reading.Within (tokens : List Token) (depth fuel : Nat) (s : Reading) : Prop where
  left : s.cursor.tokens <:+ tokens
  depth : depth + 2 * openings s.cursor.tokens ≤ 2 * openings tokens + 1
  fuel : 3 * s.cursor.tokens.length + 1 ≤ fuel
  ascii : s.flags.ascii = true → SwitchesOn 'a' tokens
  unicode : s.flags.unicode = true → SwitchesOn 'u' tokens

variable {tokens : List Token} {d f d' f' : Nat} {s s' : Reading}

/-- Letters read after an opening parenthesis and a question mark are switches of the whole
pattern. -/
theorem SwitchesOn.of_letters {letter : Char} {opening mark close : Token}
    {letters left : List Token}
    (inside : opening :: mark :: (letters ++ close :: left) <:+: tokens)
    (isOpening : opening.is '(' = true) (isMark : mark.is '?' = true)
    (isClose : close.is ')' = true) (areLetters : ∀ l ∈ letters, (flagOf? l).isSome = true)
    (isLetter : ∃ l ∈ letters, l.is letter = true) : SwitchesOn letter tokens := by
  refine ⟨opening, mark, close, letters, ?_, isOpening, isMark, isClose, areLetters, isLetter⟩
  refine List.IsInfix.trans (List.IsPrefix.isInfix ⟨left, ?_⟩) inside
  simp

theorem openings_le_of_suffix {first second : List Token} (isEnd : first <:+ second) :
    openings first ≤ openings second := isEnd.sublist.countP_le

namespace Reading.Within

/-- Reading on keeps it. -/
theorem from_ (within : s.Within tokens d f) {ts : List Token} (isEnd : ts <:+ s.cursor.tokens)
    (after : s'.From ts s.flags) : s'.Within tokens d f where
  left := (after.1.trans isEnd).trans within.left
  depth := by
    have fewer := openings_le_of_suffix (after.1.trans isEnd)
    have before := within.depth
    omega
  fuel := by
    have fewer := (after.1.trans isEnd).length_le
    have before := within.fuel
    omega
  ascii := by rw [after.2]; exact within.ascii
  unicode := by rw [after.2]; exact within.unicode

theorem mono (within : s.Within tokens d' f') (depth : d ≤ d') (fuel : f' ≤ f) :
    s.Within tokens d f where
  left := within.left
  depth := Nat.le_trans (Nat.add_le_add_right depth _) within.depth
  fuel := Nat.le_trans within.fuel fuel
  ascii := within.ascii
  unicode := within.unicode

theorem of_at (within : s.Within tokens d f) (after : s'.At s.cursor.tokens s.flags) :
    s'.Within tokens d f :=
  within.from_ (List.suffix_refl _) ⟨after.1 ▸ List.suffix_refl _, after.2⟩

/-- A token taken leaves fuel. -/
theorem token (within : s.Within tokens d f) {t : Token} {rest : List Token}
    (same : s.cursor.tokens = t :: rest) (taken : s'.At rest s.flags) :
    s'.Within tokens d (f - 3) := by
  have after : s'.From rest s.flags := ⟨taken.1 ▸ List.suffix_refl _, taken.2⟩
  have isEnd : rest <:+ s.cursor.tokens := same ▸ List.suffix_cons t rest
  have before := within.fuel
  have fewer := after.1.length_le
  rw [same, List.length_cons] at before
  exact { within.from_ isEnd after with fuel := by omega }

/-- An opening parenthesis taken leaves two levels of depth. -/
theorem opening (within : s.Within tokens d f) {t : Token} {rest : List Token}
    (same : s.cursor.tokens = t :: rest) (isOpening : t.is '(' = true)
    (after : s'.Opened rest s.flags) : s'.Within tokens (d + 2) (f - 3) := by
  have isEnd : s'.cursor.tokens <:+ rest := by
    rcases after with stays | ⟨mark, letters, rfl, -, read⟩
    · exact stays.1
    · obtain ⟨letters, close, rfl, -⟩ := read
      exact ⟨mark :: letters ++ [close], by simp⟩
  have fewer := openings_le_of_suffix isEnd
  have shorter := isEnd.length_le
  have one : openings s.cursor.tokens = openings rest + 1 := by
    rw [same]
    exact List.countP_cons_of_pos isOpening
  refine ⟨isEnd.trans ((List.suffix_cons t rest).trans (same ▸ within.left)), ?_, ?_, ?_, ?_⟩
  · have before := within.depth
    omega
  · have before := within.fuel
    rw [same, List.length_cons] at before
    omega
  · intro on
    rcases after with stays | ⟨mark, _, rfl, isMark, letters, close, rfl, isClose, areLetters, on'⟩
    · exact within.ascii (stays.2 ▸ on)
    · exact (on'.1 on).elim within.ascii
        (.of_letters (same ▸ within.left.isInfix) isOpening isMark isClose areLetters)
  · intro on
    rcases after with stays | ⟨mark, _, rfl, isMark, letters, close, rfl, isClose, areLetters, on'⟩
    · exact within.unicode (stays.2 ▸ on)
    · exact (on'.2 on).elim within.unicode
        (.of_letters (same ▸ within.left.isInfix) isOpening isMark isClose areLetters)

end Reading.Within

theorem Ensures.of_plain {α : Type} {m : ReadM α} (plain : Plain m) :
    Ensures tokens (Reading.Within tokens d f) m fun _ => Reading.Within tokens d f := by
  refine .of_each fun s within => ?_
  refine (plain.ensures within.left.isInfix (List.suffix_refl _)).mono (fun _ holds => holds) ?_
  exact fun _ s' after => within.from_ (List.suffix_refl _) after

/-! ## Alternatives and sequences -/

theorem Plain.skipLine (fuel : Nat) : Plain (skipLine fuel) := by
  induction fuel with
  | zero => exact .pure _
  | succ fuel ih =>
      refine .bind .take? fun next => ?_
      cases next with
      | none => exact .pure _
      | some t => exact .ite (.pure _) ih

theorem Plain.closeParenthesis (start : Nat) : Plain (closeParenthesis start) :=
  .bind (.accept _) fun _ => .ite (.refuse _) (.pure _)

/-- The four functions, with some fuel, keep what they begin with. -/
structure Keeps (tokens : List Token) (fuel : Nat) : Prop where
  alternatives : ∀ verbose depth d f, depth + 1 ≤ d → f + 1 ≤ fuel →
    Ensures tokens (Reading.Within tokens d f) (readAlternatives fuel verbose depth)
      fun _ => Reading.Within tokens d f
  more : ∀ verbose depth d f, depth + 1 ≤ d → f ≤ fuel →
    Ensures tokens (Reading.Within tokens d f) (readMore fuel verbose depth)
      fun _ => Reading.Within tokens d f
  sequence : ∀ verbose depth isFirst done d f, depth ≤ d → f ≤ fuel →
    Ensures tokens (Reading.Within tokens d f) (readSequence fuel verbose depth isFirst done)
      fun _ => Reading.Within tokens d f
  contents : ∀ verbose depth start opening d f, depth + 2 ≤ d → f + 2 ≤ fuel →
    Ensures tokens (Reading.Within tokens d f) (readContents fuel verbose depth start opening)
      fun _ => Reading.Within tokens d f

/-- Without fuel there is nothing to keep. -/
theorem Keeps.zero (tokens : List Token) : Keeps tokens 0 := by
  have impossible {α : Type} {m : ReadM α} {d f : Nat} (noFuel : f = 0) :
      Ensures tokens (Reading.Within tokens d f) m fun _ => Reading.Within tokens d f := by
    intro s within
    have some := within.fuel
    omega
  constructor
  · intro _ _ _ _ _ enough
    omega
  · intro _ _ _ _ _ enough
    exact impossible (by omega)
  · intro _ _ _ _ _ _ _ enough
    exact impossible (by omega)
  · intro _ _ _ _ _ _ _ enough
    omega

section Succ

variable {fuel : Nat} (keeps : Keeps tokens fuel)

include keeps

theorem Keeps.alternatives_succ (verbose : Bool) (depth d f : Nat) (isDeep : depth + 1 ≤ d)
    (enough : f + 1 ≤ fuel + 1) :
    Ensures tokens (Reading.Within tokens d f) (readAlternatives (fuel + 1) verbose depth)
      fun _ => Reading.Within tokens d f := by
  rw [readAlternatives]
  refine .guard (fun tooDeep => .of_each fun s within => ?_) fun _ => ?_
  · have cost := within.depth
    have explained : Error.tooDeep.Explained tokens := by
      show depthLimit < 2 * openings tokens
      omega
    exact .throw explained
  · refine .bind (keeps.sequence _ _ _ _ d f isDeep (by omega)) fun first => ?_
    exact .bind (keeps.more _ _ d f isDeep (by omega)) fun more => .pure fun _ within => within

theorem Keeps.more_succ (verbose : Bool) (depth d f : Nat) (isDeep : depth + 1 ≤ d)
    (enough : f ≤ fuel + 1) :
    Ensures tokens (Reading.Within tokens d f) (readMore (fuel + 1) verbose depth)
      fun _ => Reading.Within tokens d f := by
  rw [readMore]
  refine .of_each fun s within => accept_bind ?_ fun t rest same isBar => ?_
  · rw [if_neg Bool.false_ne_true]
    exact .pure fun _ holds => within.of_at holds
  · rw [if_pos rfl]
    refine Ensures.mono (P := Reading.Within tokens d (f - 3))
      (Q := fun _ => Reading.Within tokens d (f - 3)) ?_ (fun _ => within.token same)
      fun _ _ after => after.mono (Nat.le_refl d) (Nat.sub_le f 3)
    refine .get_bind fun _ _ => ?_
    refine .bind (keeps.sequence _ _ _ _ d (f - 3) isDeep (by omega)) fun next => ?_
    refine .bind (keeps.more _ _ d (f - 3) isDeep (by omega)) fun more => ?_
    exact .pure fun _ within => within

theorem Keeps.sequence_succ (verbose : Bool) (depth : Nat) (isFirst : Bool) (done : List Node)
    (d f : Nat) (isDeep : depth ≤ d) (enough : f ≤ fuel + 1) :
    Ensures tokens (Reading.Within tokens d f)
      (readSequence (fuel + 1) verbose depth isFirst done) fun _ => Reading.Within tokens d f := by
  rw [readSequence]
  refine .of_each fun s within => peek_bind (.pure fun _ => within.of_at) fun t rest same => ?_
  refine .ite (fun _ => .pure fun _ holds => within.of_at (same ▸ holds)) fun _ => ?_
  refine .bind_fact take?_of_cons fun _ _ => ?_
  -- A token is taken, so that the rest of the sequence is read with the fuel of three less.
  have goesOn {m : ReadM (List Node)} (ensures : Ensures tokens (Reading.Within tokens d (f - 3)) m
      fun _ => Reading.Within tokens d (f - 3)) :
      Ensures tokens (Reading.At rest s.flags) m fun _ => Reading.Within tokens d f :=
    ensures.mono (fun _ => within.token same) fun _ _ after =>
      after.mono (Nat.le_refl d) (Nat.sub_le f 3)
  have again (verbose isFirst : Bool) (done : List Node) :
      Ensures tokens (Reading.Within tokens d (f - 3))
        (readSequence fuel verbose depth isFirst done) fun _ => Reading.Within tokens d (f - 3) :=
    keeps.sequence verbose depth isFirst done d (f - 3) isDeep (by omega)
  refine .ite (fun _ => goesOn (again _ _ _)) fun _ => ?_
  refine .ite (fun _ => goesOn (.bind remaining_ensures fun _ => ?_)) fun _ => ?_
  · exact .bind (.of_plain (.skipLine _)) fun _ => again _ _ _
  refine .ite (fun _ => goesOn (.bind (.of_plain (.readEscape t)) fun _ => again _ _ _)) fun _ => ?_
  refine .ite (fun _ => goesOn (.bind (.of_plain (.readSet _)) fun _ => again _ _ _)) fun _ => ?_
  refine .ite (fun _ => goesOn (.bind (.of_plain (.readRounds? t)) fun rounds => ?_)) fun _ => ?_
  · cases rounds with
    | none => exact again _ _ _
    | some bounds => exact .bind (.of_plain (.repeatLast _ _ _ _)) fun _ => again _ _ _
  refine .ite (fun _ => goesOn (again _ _ _)) fun _ => ?_
  refine .ite (fun _ => goesOn (again _ _ _)) fun _ => ?_
  refine .ite (fun _ => goesOn (again _ _ _)) fun _ => ?_
  refine .ite (fun isOpening => ?_) fun _ => goesOn (again _ _ _)
  -- The token is an opening parenthesis, which pays for the two levels of its contents.
  have isEnd : rest <:+ tokens := (List.suffix_cons t rest).trans (same ▸ within.left)
  refine .bind (readOpening_ensures isEnd.isInfix t.position) fun opening => ?_
  refine Ensures.mono (P := Reading.Within tokens (d + 2) (f - 3))
    (Q := fun _ => Reading.Within tokens d (f - 3)) ?_ (fun _ => within.opening same isOpening)
    fun _ _ after => after.mono (Nat.le_refl d) (Nat.sub_le f 3)
  have againAfter (verbose : Bool) (done : List Node) :
      Ensures tokens (Reading.Within tokens (d + 2) (f - 3))
        (readSequence fuel verbose depth isFirst done) fun _ => Reading.Within tokens d (f - 3) :=
    (again verbose isFirst done).mono
      (fun _ deep => deep.mono (Nat.le_add_right d 2) (Nat.le_refl _)) fun _ _ holds => holds
  have enoughLeft : f - 3 + 2 ≤ fuel := by
    have some := within.fuel
    rw [same, List.length_cons] at some
    omega
  cases opening with
  | nothing => exact againAfter _ _
  | globalFlags =>
      refine .guard (fun _ => refuse_ensures _) fun _ => ?_
      exact .get_bind fun _ _ => againAfter _ _
  | backref l => exact againAfter _ _
  | capture | plain | atomic | look | conditional =>
      refine .bind ?_ fun _ => againAfter _ _
      exact keeps.contents _ _ _ _ (d + 2) (f - 3) (Nat.add_le_add_right isDeep 2) enoughLeft

theorem Keeps.contents_succ (verbose : Bool) (depth start : Nat) (opening : Opening) (d f : Nat)
    (isDeep : depth + 2 ≤ d) (enough : f + 2 ≤ fuel + 1) :
    Ensures tokens (Reading.Within tokens d f)
      (readContents (fuel + 1) verbose depth start opening) fun _ => Reading.Within tokens d f := by
  have alternatives (verbose : Bool) : Ensures tokens (Reading.Within tokens d f)
      (readAlternatives fuel verbose (depth + 1)) fun _ => Reading.Within tokens d f :=
    keeps.alternatives verbose (depth + 1) d f isDeep (by omega)
  have sequence : Ensures tokens (Reading.Within tokens d f)
      (readSequence fuel verbose (depth + 1) false []) fun _ => Reading.Within tokens d f :=
    keeps.sequence verbose (depth + 1) false [] d f (by omega) (by omega)
  unfold readContents
  cases opening with
  | look behind negated =>
      refine .get_bind fun _ _ => .optional (.of_plain (.modify (fun _ => rfl) fun _ => rfl)) ?_
      refine .bind (alternatives _) fun body => .of_plain ?_
      refine .guard (.modify (fun _ => rfl) fun _ => rfl) ?_
      exact .bind (.closeParenthesis _) fun _ => .pure _
  | conditional group =>
      have ends (yes no : List Node) : Ensures tokens (Reading.Within tokens d f) (do
          closeParenthesis start
          return Node.conditional group yes no) fun _ => Reading.Within tokens d f :=
        .of_plain (.bind (.closeParenthesis _) fun _ => .pure _)
      refine .bind sequence fun yes => .bind (.of_plain (.accept _)) fun _ => ?_
      refine .ite (fun _ => ?_) fun _ => .bind (.pure fun _ holds => holds) (ends yes)
      refine .bind sequence fun no => .bind (.of_plain .peek) fun _ => ?_
      refine .guard (fun _ => fail_ensures _ _) fun _ => ?_
      exact .bind (.pure fun _ holds => holds) (ends yes)
  | capture name? =>
      refine .bind (.of_plain (.openGroup _)) fun group => .bind (alternatives _) fun body => ?_
      refine .of_plain (.bind (.closeParenthesis _) fun _ => ?_)
      exact .bind (.closeGroup _ _) fun _ => .pure _
  | plain on off =>
      refine .bind (alternatives _) fun body => ?_
      exact .of_plain (.bind (.closeParenthesis _) fun _ => .pure _)
  | nothing | globalFlags | backref | atomic =>
      refine .bind (alternatives _) fun body => ?_
      exact .of_plain (.bind (.closeParenthesis _) fun _ => .pure _)

end Succ

theorem keeps (tokens : List Token) (fuel : Nat) : Keeps tokens fuel := by
  induction fuel with
  | zero => exact .zero tokens
  | succ fuel ih =>
      exact ⟨ih.alternatives_succ, ih.more_succ, ih.sequence_succ, ih.contents_succ⟩

/-! ## Whole patterns -/

/-- The reading of a whole pattern under switches without a type. -/
theorem readAll_ensures {flags : Flags} (noType : flags.ascii = false ∧ flags.unicode = false)
    {fuel : Nat} (enough : 3 * tokens.length + 2 ≤ fuel) :
    Ensures tokens (Reading.At tokens flags) (readAll fuel flags) fun _ _ => True := by
  have starts : ∀ s, Reading.At tokens flags s → s.Within tokens 1 (3 * tokens.length + 1) := by
    intro s starts
    obtain ⟨left, same⟩ := starts
    refine ⟨left ▸ List.suffix_refl tokens, ?_, ?_, ?_, ?_⟩
    · rw [left]
      omega
    · exact Nat.le_of_eq (by rw [left])
    · rw [same, noType.1]
      exact fun on => absurd on Bool.false_ne_true
    · rw [same, noType.2]
      exact fun on => absurd on Bool.false_ne_true
  refine .bind (((keeps tokens fuel).alternatives flags.verbose 0 1 (3 * tokens.length + 1)
    (Nat.le_refl 1) enough).mono starts fun _ _ holds => holds) fun nodes => ?_
  refine .get_bind fun s within => ?_
  refine .guard (fun conflict => ?_) fun _ => .guard (fun _ => fail_ensures _ _) fun _ => ?_
  · rw [Bool.and_eq_true] at conflict
    exact .throw ⟨within.ascii conflict.1, within.unicode conflict.2⟩
  · refine (Ensures.of_plain (.bind (.forIn fun x _ => ?_) fun _ => .pure _)).mono
      (fun _ holds => holds) fun _ _ _ => trivial
    exact .ite (.bind (.refuse _) fun _ => .pure _) (.pure _)

theorem length_tokensFrom (position : Nat) (t : Text) :
    (tokensFrom position t).length ≤ t.length := by
  fun_induction tokensFrom position t with
  | case1 position c rest ih =>
      simp only [List.length_cons]
      omega
  | case2 => exact Nat.zero_le _
  | case3 position c rest _ _ ih =>
      simp only [List.length_cons]
      omega
  | case4 => exact Nat.le_refl 0

theorem read_explained {t : Text} {flags : Flags} {e : Error}
    (noType : flags.ascii = false ∧ flags.unicode = false) (failed : read flags t = .error e) :
    e.Explained (tokensFrom 0 t) := by
  unfold read at failed
  rcases Cursor.ofText_cases t with ⟨c, opened, left⟩ | ⟨fault, refused⟩
  · rw [opened] at failed
    have enough : 3 * (tokensFrom 0 t).length + 2 ≤ 4 * t.length + 4 := by
      have atMost := length_tokensFrom 0 t
      omega
    let start : Reading := ⟨c, flags, 0, [], [], none, []⟩
    have outcome := readAll_ensures noType enough start ⟨left, rfl⟩
    change (readAll (4 * t.length + 4) flags).run' start = .error e at failed
    unfold StateT.run' at failed
    cases ran : readAll (4 * t.length + 4) flags start with
    | ok result =>
        rw [ran] at failed
        cases failed
    | error e' =>
        rw [ran] at failed outcome
        cases failed
        exact outcome
  · rw [refused] at failed
    cases failed
    exact trivial

/-- An error in which the compilation of a pattern ends is a fault of the pattern, or its tokens
show the cause. -/
theorem compile_explained {t : Text} {e : Error} (failed : compile t = .error e) :
    e.Explained (tokensFrom 0 t) := by
  unfold compile compileUnder at failed
  cases outcome : read { ignoreCase := true } t with
  | error e' =>
      rw [outcome] at failed
      cases failed
      exact read_explained ⟨rfl, rfl⟩ outcome
  | ok r =>
      rw [outcome] at failed
      change ((compileAll r.flags r.nodes).mapError Error.invalid >>= fun _ => _) = _ at failed
      cases compiled : compileAll r.flags r.nodes with
      | ok program =>
          rw [compiled] at failed
          cases failed
      | error fault =>
          rw [compiled] at failed
          cases failed
          exact trivial

/-! ## Texts of patterns -/

/-- Digits in a row that are too many for a number. -/
def HasLongNumeral (t : Text) : Prop :=
  ∃ digits : Text, digits <:+: t ∧ (∀ c ∈ digits, c.isAsciiDigit = true) ∧
    digitLimit < digits.length

/-- Letters of switches in parentheses, after a question mark, with a given letter among them. -/
def TurnsOn (letter : Char) (t : Text) : Prop :=
  ∃ letters : Text, Text.ofString "(?" ++ letters ++ Text.ofString ")" <:+: t ∧
    (∀ c ∈ letters, c ∈ Text.ofString "imsxatu") ∧ letter.toNat ∈ letters

/-- The error is a fault of the pattern, or the text of the pattern shows its cause. -/
def Error.ShownBy (t : Text) : Error → Prop
  | .invalid _ => True
  | .tooDeep => depthLimit < 2 * t.count 0x28
  | .flagConflict => TurnsOn 'a' t ∧ TurnsOn 'u' t
  | .numeral _ => HasLongNumeral t

/-- The text of the tokens of a text is the text itself, without a loose backslash. -/
theorem flatMap_text_tokensFrom (position : Nat) (t : Text) :
    (tokensFrom position t).flatMap Token.text <+: t := by
  fun_induction tokensFrom position t with
  | case1 position c rest ih => simpa [Token.text] using ih
  | case2 => exact List.nil_prefix
  | case3 position c rest _ _ ih => simpa [Token.text] using ih
  | case4 => exact List.prefix_refl []

theorem flatMap_text_isInfix {run : List Token} {t : Text} (inside : run <:+: tokensFrom 0 t) :
    run.flatMap Token.text <:+: t := by
  obtain ⟨before, after, same⟩ := inside
  refine List.IsInfix.trans ?_ (flatMap_text_tokensFrom 0 t).isInfix
  rw [← same]
  exact ⟨before.flatMap Token.text, after.flatMap Token.text, by simp⟩

theorem openings_le_count (tokens : List Token) :
    openings tokens ≤ (tokens.flatMap Token.text).count 0x28 := by
  induction tokens with
  | nil => exact Nat.zero_le _
  | cons t rest ih =>
      rw [List.flatMap_cons, List.count_append, openings, List.countP_cons]
      split
      · next isOpening =>
        obtain ⟨unescaped, isChar⟩ := Token.is_iff.mp isOpening
        have one : t.text.count 0x28 = 1 := by
          rw [Token.text, unescaped, isChar]
          rfl
        rw [one, Nat.add_comm]
        exact Nat.add_le_add_left ih 1
      · exact Nat.le_trans ih (Nat.le_add_left _ _)

theorem HasLongNumeral.of_tokens {t : Text} (numeral : LongNumeral (tokensFrom 0 t)) :
    HasLongNumeral t := by
  obtain ⟨run, inside, digits, long⟩ := numeral
  have textInside := flatMap_text_isInfix inside
  rw [flatMap_text fun u member => (Token.isDigit_iff.mp (digits u member)).1] at textInside
  refine ⟨_, textInside, ?_, by rw [List.length_map]; exact long⟩
  exact List.forall_mem_map.mpr fun u member => (Token.isDigit_iff.mp (digits u member)).2

/-- A letter of a switch is not escaped. -/
theorem flagOf_isSome {t : Token} (isFlag : (flagOf? t).isSome = true) :
    t.escaped = false ∧ t.char ∈ Text.ofString "imsxatu" := by
  have isLetter : ∃ c ∈ "imsxatu".toList, t.is c = true := by
    unfold flagOf? at isFlag
    simp only [String.reduceToList, List.mem_cons, List.not_mem_nil, or_false]
    grind
  obtain ⟨c, member, isC⟩ := isLetter
  obtain ⟨unescaped, isChar⟩ := Token.is_iff.mp isC
  exact ⟨unescaped, isChar ▸ List.mem_map_of_mem member⟩

theorem TurnsOn.of_tokens {letter : Char} {t : Text}
    (switches : SwitchesOn letter (tokensFrom 0 t)) : TurnsOn letter t := by
  obtain ⟨opening, mark, close, letters, inside, isOpening, isMark, isClose, areLetters, u, member,
    isLetter⟩ := switches
  rw [Token.is_iff] at isOpening isMark isClose isLetter
  have unescaped : ∀ v ∈ opening :: mark :: letters ++ [close], v.escaped = false := by
    simp only [List.cons_append, List.forall_mem_cons, List.forall_mem_append]
    exact ⟨isOpening.1, isMark.1, fun v member => (flagOf_isSome (areLetters v member)).1,
      isClose.1, List.forall_mem_nil _⟩
  have textInside := flatMap_text_isInfix inside
  rw [flatMap_text unescaped] at textInside
  refine ⟨letters.map Token.char, ?_, ?_, isLetter.2 ▸ List.mem_map_of_mem member⟩
  · simpa [isOpening.2, isMark.2, isClose.2, Text.ofString] using textInside
  · exact List.forall_mem_map.mpr fun v member => (flagOf_isSome (areLetters v member)).2

/-- An error in which the compilation of a pattern ends is a fault of the pattern, or the text of
the pattern shows the cause: very many opening parentheses, switches for ASCII and for every script,
or a very long number. -/
theorem compile_shown {t : Text} {e : Error} (failed : compile t = .error e) : e.ShownBy t := by
  have explained := compile_explained failed
  cases e with
  | invalid fault => exact trivial
  | tooDeep =>
      have atMost := Nat.le_trans (openings_le_count (tokensFrom 0 t))
        ((flatMap_text_tokensFrom 0 t).sublist.count_le 0x28)
      show depthLimit < 2 * t.count 0x28
      exact Nat.lt_of_lt_of_le explained (Nat.mul_le_mul_left 2 atMost)
  | flagConflict => exact ⟨.of_tokens explained.1, .of_tokens explained.2⟩
  | numeral fault => exact .of_tokens explained

end NotebookAudit.Pattern

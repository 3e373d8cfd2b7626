import NotebookAudit.Proofs.Pattern.Step

/-!
The reading of numbers of rounds, switches, and openings of groups.

A number of rounds stops the reading with an error that is no fault of the pattern only if it is a
long numeral (`Plain.readBraces?`). Switches of the whole pattern are turned on only by their
letters in parentheses (`readOpening_ensures`).
-/

namespace NotebookAudit.Pattern

/-! ## Numbers of rounds -/

/-- A text of digits that stand in a row among tokens. -/
def DigitsOf (tokens : List Token) (text : Text) : Prop :=
  ∃ run, run <:+: tokens ∧ (∀ t ∈ run, t.isDigit = true) ∧ text = run.flatMap Token.text

theorem takeDigits_ensures {tokens ts : List Token} {flags : Flags} (inside : ts <:+: tokens)
    (n : Nat) :
    Ensures tokens (Reading.From ts flags) (takeWhile Token.isDigit n) fun text s' =>
      Reading.From ts flags s' ∧ DigitsOf tokens text := by
  refine .of_at fun left isEnd =>
    (takeWhile_ensures Token.isDigit n).mono (fun _ holds => holds) ?_
  intro text s' taken
  obtain ⟨run, digits, rfl, rfl, same⟩ := taken
  refine ⟨⟨(List.suffix_append run _).trans isEnd, same⟩, run, ?_, digits, rfl⟩
  exact (List.prefix_append run _).isInfix.trans (isEnd.isInfix.trans inside)

theorem readRoundCount_ensures {tokens : List Token} {P : Reading → Prop} {digits : Text}
    (isNumeral : DigitsOf tokens digits) :
    Ensures tokens P (readRoundCount digits) fun _ => P := by
  obtain ⟨run, inside, areDigits, rfl⟩ := isNumeral
  unfold readRoundCount
  refine .guard (fun tooLong => ?_) fun _ => ?_
  · rw [flatMap_text fun t member => (Token.isDigit_iff.mp (areDigits t member)).1,
      List.length_map] at tooLong
    exact .throw ⟨run, inside, areDigits, tooLong⟩
  · exact .guard (fun _ => refuse_ensures _) fun _ => .pure fun _ holds => holds

theorem Plain.readBraces? : Plain readBraces? := by
  intro tokens ts flags inside
  refine .get_bind fun start startIn => .bind remaining_ensures fun fuel => ?_
  refine .ite (fun _ => .pure fun _ holds => holds) fun _ => ?_
  refine .bind_fact (takeDigits_ensures inside fuel) fun low isLow => ?_
  refine .bind (Plain.accept _ tokens ts flags inside) fun _ => ?_
  refine .ite_bind (fun _ => takeDigits_ensures inside fuel)
    (fun _ => .pure fun _ holds => ⟨holds, isLow⟩) fun high => .fact fun isHigh => ?_
  refine .bind (Plain.accept _ tokens ts flags inside) fun _ => .ite (fun _ => ?_) fun _ => ?_
  · -- What has been read is given back.
    exact .bind (.modify fun s holds => ⟨startIn.1, holds.2⟩) fun _ => .pure fun _ holds => holds
  · refine .ite_bind (fun _ => .pure fun _ holds => holds) (fun _ => readRoundCount_ensures isLow)
      fun least => ?_
    refine .ite (fun _ => .pure fun _ holds => holds) fun _ => ?_
    refine .bind (readRoundCount_ensures isHigh) fun greatest => ?_
    exact .guard (fun _ => refuse_ensures _) fun _ => .pure fun _ holds => holds

namespace Plain

theorem readRounds? (t : Token) : Plain (readRounds? t) :=
  .ite (.pure _) (.ite (.pure _) (.ite (.pure _) .readBraces?))

theorem readGreed : Plain readGreed :=
  .bind (.accept _) fun _ => .ite (.pure _) <|
    .bind (.accept _) fun _ => .ite (.pure _) (.pure _)

theorem repeatLast (start least : Nat) (greatest : Option Nat) (done : List Node) :
    Plain (repeatLast start least greatest done) := by
  unfold Pattern.repeatLast
  split
  · exact .refuse _
  · exact .refuse _
  · exact .refuse _
  · exact .bind .readGreed fun _ => .pure _
  · exact .bind .readGreed fun _ => .pure _

end Plain

/-! ## Switches -/

namespace Plain

theorem notFlag {α : Type} (t : Token) (missing : Text) : Plain (notFlag t missing : ReadM α) :=
  .fail _ _

theorem readFlagsOff (off : Flags) (t : Token) (fuel : Nat) : Plain (readFlagsOff off t fuel) := by
  induction fuel generalizing off t with
  | zero => exact .pure _
  | succ fuel ih =>
      unfold Pattern.readFlagsOff
      refine .guard (.fail _ _) ?_
      refine .bind .take? fun next => ?_
      cases next with
      | none => exact .fail _ _
      | some next => exact .ite (.pure _) (.ite (ih _ _) (.notFlag _ _))

end Plain

/-- Switches that are those of before, or are turned on by their letters. -/
def TurnedOn (letters : List Token) (before after : Flags) : Prop :=
  (after.ascii = true → before.ascii = true ∨ ∃ t ∈ letters, t.is 'a' = true) ∧
    (after.unicode = true → before.unicode = true ∨ ∃ t ∈ letters, t.is 'u' = true)

theorem TurnedOn.nil (flags : Flags) : TurnedOn [] flags flags := ⟨.inl, .inl⟩

/-- A letter turns on the ASCII switch only if it is its own, and so for the switch of every
script. -/
theorem flagOf_types (t : Token) :
    (((flagOf? t).getD {}).ascii = true → t.is 'a' = true) ∧
      (((flagOf? t).getD {}).unicode = true → t.is 'u' = true) := by
  unfold flagOf?
  grind

theorem TurnedOn.flagOf (flags : Flags) (t : Token) :
    TurnedOn [t] flags (flags.union ((flagOf? t).getD {})) := by
  obtain ⟨ascii, unicode⟩ := flagOf_types t
  have member : t ∈ [t] := List.mem_singleton_self t
  simp only [TurnedOn, Flags.union, Bool.or_eq_true]
  exact ⟨Or.imp_right fun on => ⟨t, member, ascii on⟩,
    Or.imp_right fun on => ⟨t, member, unicode on⟩⟩

/-- What is on after more letters was on before all of them, or one of them turns it on. -/
theorem isOn_trans {first second : List Token} {letter : Char} {before middle after : Prop}
    (earlier : middle → before ∨ ∃ t ∈ first, t.is letter = true)
    (later : after → middle ∨ ∃ t ∈ second, t.is letter = true) (on : after) :
    before ∨ ∃ t ∈ first ++ second, t.is letter = true := by
  rcases later on with middleOn | ⟨t, member, isLetter⟩
  · rcases earlier middleOn with beforeOn | ⟨t, member, isLetter⟩
    · exact .inl beforeOn
    · exact .inr ⟨t, List.mem_append_left _ member, isLetter⟩
  · exact .inr ⟨t, List.mem_append_right _ member, isLetter⟩

theorem TurnedOn.trans {first second : List Token} {before middle after : Flags}
    (earlier : TurnedOn first before middle) (later : TurnedOn second middle after) :
    TurnedOn (first ++ second) before after :=
  ⟨isOn_trans earlier.1 later.1, isOn_trans earlier.2 later.2⟩

theorem readFlagsOn_ensures {tokens ts : List Token} {flags : Flags} (on : Flags) (t : Token)
    (isFlag : (flagOf? t).isSome = true ∨ t.is 'L' = true) (fuel : Nat) :
    Ensures tokens (Reading.At ts flags) (readFlagsOn on t fuel) fun result s' =>
      s'.flags = flags ∧ ∃ letters, t :: ts = letters ++ result.2 :: s'.cursor.tokens ∧
        (∀ l ∈ letters, (flagOf? l).isSome = true) ∧ TurnedOn letters on result.1 := by
  induction fuel generalizing on t ts with
  | zero =>
      exact .pure fun s ⟨left, same⟩ =>
        ⟨same, [], by rw [left]; rfl, List.forall_mem_nil _, .nil on⟩
  | succ fuel ih =>
      unfold readFlagsOn
      refine .guard (fun _ => fail_ensures _ _) fun notLocale => ?_
      have letter : (flagOf? t).isSome = true := isFlag.resolve_right notLocale
      refine .guard (fun _ => fail_ensures _ _) fun _ => ?_
      refine take?_bind (fail_ensures _ _) ?_
      intro next rest same
      subst same
      refine .ite (fun _ => .pure fun s ⟨left, same⟩ => ?_) fun _ => ?_
      · exact ⟨same, [t], by rw [left]; rfl, List.forall_mem_singleton.mpr letter, .flagOf on t⟩
      refine .ite (fun isNext => ?_) fun _ => fail_ensures _ _
      · rw [Bool.or_eq_true] at isNext
        refine (ih _ next isNext).mono (fun _ holds => holds) ?_
        intro result s' read
        obtain ⟨same, letters, left, areLetters, turnedOn⟩ := read
        refine ⟨same, t :: letters, by rw [left]; rfl,
          List.forall_mem_cons.mpr ⟨letter, areLetters⟩, ?_⟩
        exact (TurnedOn.flagOf on t).trans turnedOn

/-- What is left after a token in some tokens is left after those without the first. -/
theorem suffix_of_cons_eq {t close : Token} {ts letters left : List Token}
    (same : t :: ts = letters ++ close :: left) : left <:+ ts := by
  cases letters with
  | nil =>
      obtain ⟨-, rfl⟩ := List.cons.inj same
      exact List.suffix_refl ts
  | cons l letters =>
      obtain ⟨-, rfl⟩ := List.cons.inj same
      exact (List.suffix_cons close left).trans (List.suffix_append letters _)

theorem TurnedOn.union {letters : List Token} {on : Flags} (turnedOn : TurnedOn letters {} on)
    (flags : Flags) : TurnedOn letters flags (flags.union on) := by
  have noneBefore : ({} : Flags).ascii ≠ true ∧ ({} : Flags).unicode ≠ true := by decide
  simp only [TurnedOn, Flags.union, Bool.or_eq_true]
  exact ⟨Or.imp_right fun isOn => (turnedOn.1 isOn).resolve_left noneBefore.1,
    Or.imp_right fun isOn => (turnedOn.2 isOn).resolve_left noneBefore.2⟩

/-- The tokens begin with letters of switches and a closing parenthesis, and the letters have turned
on the switches of the pattern. -/
def LettersRead (ts : List Token) (flags : Flags) (s : Reading) : Prop :=
  ∃ letters close, ts = letters ++ close :: s.cursor.tokens ∧ close.is ')' = true ∧
    (∀ l ∈ letters, (flagOf? l).isSome = true) ∧ TurnedOn letters flags s.flags

/-- The switches of a group leave those of the pattern as they are. Switches of the whole pattern
are turned on by their letters. -/
theorem readFlags_ensures {tokens ts : List Token} {flags : Flags} (inside : ts <:+: tokens)
    (t : Token) (isFlag : ((flagOf? t).isSome = true ∨ t.is 'L' = true) ∨ t.is '-' = true) :
    Ensures tokens (Reading.At ts flags) (readFlags t) fun result s' =>
      Reading.From ts flags s' ∧ result.isSome = true ∨
        LettersRead (t :: ts) flags s' ∧ result = none := by
  unfold readFlags
  refine .bind remaining_ensures fun _ => ?_
  refine .ite_bind (Q := fun result s' => s'.flags = flags ∧
    ∃ letters, t :: ts = letters ++ result.2 :: s'.cursor.tokens ∧
      (∀ l ∈ letters, (flagOf? l).isSome = true) ∧ TurnedOn letters {} result.1)
    (fun _ => ?_) (fun notMinus => ?_) ?_
  · exact .pure fun s ⟨left, same⟩ =>
      ⟨same, [], by rw [left]; rfl, List.forall_mem_nil _, .nil _⟩
  · exact readFlagsOn_ensures _ t (isFlag.resolve_right notMinus) _
  · intro result
    obtain ⟨on, next⟩ := result
    refine .ite (fun closes => ?_) fun _ => ?_
    · refine .bind (Q := fun _ => LettersRead (t :: ts) flags) (.modify ?_)
        fun _ => .pure fun _ holds => .inr ⟨holds, rfl⟩
      intro s read
      obtain ⟨same, letters, left, areLetters, turnedOn⟩ := read
      exact ⟨letters, next, left, closes, areLetters, by rw [same]; exact turnedOn.union flags⟩
    · refine Ensures.mono (P := Reading.From ts flags)
        (Q := fun result s' => Reading.From ts flags s' ∧ result.isSome = true) ?_ ?_
        fun _ _ => .inl
      · have ends (off : Flags) : Ensures tokens (Reading.From ts flags) (do
            if off.template then fail .globalFlagOff 1
            if on.meets off then fail .flagOnAndOff 1
            return some (on, off))
            fun result s' => Reading.From ts flags s' ∧ result.isSome = true :=
          .guard (fun _ => fail_ensures _ _) fun _ => .guard (fun _ => fail_ensures _ _) fun _ =>
            .pure fun _ holds => ⟨holds, rfl⟩
        refine .guard (fun _ => fail_ensures _ _) fun _ => .ite (fun _ => ?_) fun _ => ?_
        · refine .bind (Plain.take? tokens ts flags inside) fun first => ?_
          cases first with
          | none => exact .bind (fail_ensures _ _) ends
          | some first =>
              exact .ite_bind (fun _ => Plain.readFlagsOff _ _ _ tokens ts flags inside)
                (fun _ => Plain.notFlag _ _ tokens ts flags inside) ends
        · exact .bind (.pure fun _ holds => holds) ends
      · intro s read
        obtain ⟨same, letters, left, -, -⟩ := read
        exact ⟨suffix_of_cons_eq left, same⟩

/-! ## Parentheses -/

namespace Plain

theorem skipComment (start fuel : Nat) : Plain (skipComment start fuel) := by
  induction fuel with
  | zero => exact .pure _
  | succ fuel ih =>
      refine .bind .peek fun next => ?_
      cases next with
      | none => exact .refuse _
      | some t => exact .bind .take? fun _ => .ite (.pure _) ih

theorem readNamed : Plain readNamed := by
  refine .bind (.accept _) fun _ => .ite ?_ ?_
  · exact .bind (.takeName _ _) fun _ => .bind (.checkGroupName _) fun _ => .pure _
  refine .bind (.accept _) fun _ => .ite ?_ ?_
  · refine .bind (.takeName _ _) fun name => .bind (.checkGroupName _) fun _ => ?_
    refine .bind .get fun s => ?_
    cases s.names.lookup name with
    | none => exact .fail _ _
    | some group =>
        exact .bind (.checkClosed _ _) fun _ => .bind (.backrefTo _) fun _ => .pure _
  · refine .bind .take? fun next => ?_
    cases next with
    | none => exact .fail _ _
    | some t => exact .fail _ _

theorem readCondition : Plain readCondition := by
  have ends (group : Nat) : Plain (do
      Pattern.checkBehind group
      return group) := .bind (.checkBehind _) fun _ => .pure _
  refine .bind (.takeName _ _) fun name => .ite ?_ ?_
  · refine .bind .get fun s => ?_
    cases s.names.lookup name with
    | none => exact .bind (.fail _ _) ends
    | some group => exact .bind (.pure _) ends
  · cases Numeral.readInt 10 name with
    | error e => exact .bind (.fail _ _) ends
    | ok number =>
        refine .guard (.fail _ _) <| .guard (.fail _ _) <| .guard (.fail _ _) ?_
        refine .bind .position fun _ => .bind .get fun s => .ite ?_ ?_
        · exact .bind (.modify (fun _ => rfl) fun _ => rfl) fun _ => .bind (.pure _) ends
        · exact .bind (.pure _) ends

end Plain

/-- Of some tokens the last are left and the switches are as they were, or the tokens begin with a
question mark and letters of switches. -/
def Reading.Opened (ts : List Token) (flags : Flags) (s : Reading) : Prop :=
  Reading.From ts flags s ∨
    ∃ mark rest, ts = mark :: rest ∧ mark.is '?' = true ∧ LettersRead rest flags s

/-- What an opening parenthesis begins leaves the switches of the pattern as they are, unless it is
switches of the whole pattern. -/
theorem readOpening_ensures {tokens ts : List Token} {flags : Flags} (inside : ts <:+: tokens)
    (start : Nat) :
    Ensures tokens (Reading.At ts flags) (readOpening start) fun _ => Reading.Opened ts flags := by
  have plainly {m : ReadM Opening} {left : List Token} (plain : Plain m) (isEnd : left <:+ ts) :
      Ensures tokens (Reading.At left flags) m fun _ => Reading.Opened ts flags :=
    (plain.ensures inside isEnd).mono (fun _ holds => holds) fun _ _ => .inl
  refine accept_bind (plainly (.pure _) (List.suffix_refl ts)) ?_
  intro mark rest same isMark
  subst same
  refine take?_bind (fail_ensures _ _) ?_
  intro t left same
  subst same
  have isEnd : left <:+ mark :: t :: left := ⟨[mark, t], rfl⟩
  refine .ite (fun _ => plainly .readNamed isEnd) fun _ => ?_
  refine .ite (fun _ => plainly (.pure _) isEnd) fun _ => ?_
  refine .ite (fun _ => plainly ?_ isEnd) fun _ => ?_
  · exact .bind .remaining fun _ => .bind (.skipComment _ _) fun _ => .pure _
  refine .ite (fun _ => plainly (.pure _) isEnd) fun _ => ?_
  refine .ite (fun _ => plainly (.pure _) isEnd) fun _ => ?_
  refine .ite (fun _ => plainly ?_ isEnd) fun _ => ?_
  · refine .bind .take? fun next => ?_
    cases next with
    | none => exact .fail _ _
    | some d => exact .ite (.pure _) (.ite (.pure _) (.fail _ _))
  refine .ite (fun _ => plainly (.bind .readCondition fun _ => .pure _) isEnd) fun _ => ?_
  refine .ite (fun _ => plainly (.pure _) isEnd) fun _ => ?_
  refine .ite (fun isFlag => ?_) fun _ => fail_ensures _ _
  -- What follows are switches, of a group or of the whole pattern.
  simp only [Bool.or_eq_true] at isFlag
  refine .bind (readFlags_ensures (isEnd.isInfix.trans inside) t isFlag) fun result => ?_
  cases result with
  | none =>
      refine .pure fun s outcome => ?_
      rcases outcome with ⟨-, impossible⟩ | ⟨letters, -⟩
      · cases impossible
      · exact .inr ⟨mark, t :: left, rfl, isMark, letters⟩
  | some switches =>
      refine .pure fun s outcome => ?_
      rcases outcome with ⟨stays, -⟩ | ⟨-, impossible⟩
      · exact .inl ⟨stays.1.trans isEnd, stays.2⟩
      · cases impossible

end NotebookAudit.Pattern

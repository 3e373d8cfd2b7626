import NotebookAudit.Pattern.Reader

/-!
Steps of reading, and the errors in which they can end.

A step reads on: the tokens that are left after it are the last of those that were left before it.
An error that is no fault of the pattern has a cause in the tokens (`Error.Explained`). `Ensures` is
a statement about a step with a condition before and after it, and `Plain` says of a step that it
reads on and leaves the switches of the pattern as they are.
-/

namespace NotebookAudit.Pattern

/-! ## Causes of errors -/

/-- The number of opening parentheses among tokens. -/
def openings (tokens : List Token) : Nat := tokens.countP (·.is '(')

/-- Digits in a row that are too many for a number. -/
def LongNumeral (tokens : List Token) : Prop :=
  ∃ digits : List Token, digits <:+: tokens ∧ (∀ t ∈ digits, t.isDigit = true) ∧
    digitLimit < digits.length

/-- Switches of the whole pattern in parentheses, with one of a letter among them. -/
def SwitchesOn (letter : Char) (tokens : List Token) : Prop :=
  ∃ opening mark close : Token, ∃ letters : List Token,
    opening :: mark :: letters ++ [close] <:+: tokens ∧ opening.is '(' = true ∧
      mark.is '?' = true ∧ close.is ')' = true ∧
      (∀ t ∈ letters, (flagOf? t).isSome = true) ∧ ∃ t ∈ letters, t.is letter = true

/-- The error is a fault of the pattern, or the tokens of the pattern show its cause. -/
def Error.Explained (tokens : List Token) : Error → Prop
  | .invalid _ => True
  | .tooDeep => depthLimit < 2 * openings tokens
  | .flagConflict => SwitchesOn 'a' tokens ∧ SwitchesOn 'u' tokens
  | .numeral _ => LongNumeral tokens

namespace Token

theorem is_iff {t : Token} {c : Char} :
    t.is c = true ↔ t.escaped = false ∧ t.char = c.toNat := by
  simp [Token.is]

theorem isDigit_iff {t : Token} :
    t.isDigit = true ↔ t.escaped = false ∧ t.char.isAsciiDigit = true := by
  simp [Token.isDigit]

end Token

/-- The text of tokens that are not escaped is that of their characters. -/
theorem flatMap_text {run : List Token} (unescaped : ∀ t ∈ run, t.escaped = false) :
    run.flatMap Token.text = run.map Token.char := by
  induction run with
  | nil => rfl
  | cons t rest ih =>
      rw [List.forall_mem_cons] at unescaped
      rw [List.flatMap_cons, List.map_cons, ih unescaped.2, Token.text, unescaped.1]
      rfl

/-! ## Conditions before and after a step -/

/-- In the reading of tokens, from every state with `P` a step comes to a result and a state with
`Q`, or to an error that is explained. -/
def Ensures {α : Type} (tokens : List Token) (P : Reading → Prop) (m : ReadM α)
    (Q : α → Reading → Prop) : Prop :=
  ∀ s, P s → match m s with
    | .ok (a, s') => Q a s'
    | .error e => e.Explained tokens

namespace Ensures

variable {α β : Type} {tokens : List Token} {P P' : Reading → Prop} {m : ReadM α}
  {Q Q' : α → Reading → Prop} {f : α → ReadM β} {R : β → Reading → Prop}

theorem pure {a : α} (holds : ∀ s, P s → Q a s) : Ensures tokens P (pure a) Q := holds

theorem throw {e : Error} (explained : e.Explained tokens) :
    Ensures tokens P (throw e : ReadM α) Q := fun _ _ => explained

theorem get : Ensures tokens P get fun s s' => P s' ∧ s' = s := fun _ holds => ⟨holds, rfl⟩

theorem set {s : Reading} (holds : ∀ s', P s' → P' s) :
    Ensures tokens P (set s : ReadM PUnit) fun _ => P' := holds

theorem modify {g : Reading → Reading} (holds : ∀ s, P s → P' (g s)) :
    Ensures tokens P (modify g : ReadM PUnit) fun _ => P' := holds

theorem bind (first : Ensures tokens P m Q) (rest : ∀ a, Ensures tokens (Q a) (f a) R) :
    Ensures tokens P (m >>= f) R := by
  intro s holds
  have outcome := first s holds
  show match (m s >>= fun (a, s') => f a s') with | .ok (b, s') => R b s' | .error e => _
  cases ran : m s with
  | error e =>
      rw [ran] at outcome
      exact outcome
  | ok result =>
      rw [ran] at outcome
      exact rest result.1 result.2 outcome

theorem get_bind {f : Reading → ReadM β} (rest : ∀ s, P s → Ensures tokens P (f s) R) :
    Ensures tokens P (MonadState.get >>= f) R := fun s holds => rest s holds s holds

/-- A fact that the condition before a step holds may be used for the step. -/
theorem fact {F : Prop} (ensures : F → Ensures tokens P m Q) :
    Ensures tokens (fun s => P s ∧ F) m Q := fun s holds => ensures holds.2 s holds.1

/-- What a step tells of its result may be used after it. -/
theorem bind_fact {F : α → Prop} (first : Ensures tokens P m fun a s => P' s ∧ F a)
    (rest : ∀ a, F a → Ensures tokens P' (f a) R) : Ensures tokens P (m >>= f) R :=
  first.bind fun a => .fact (rest a)

theorem ite {c : Prop} [Decidable c] {m' : ReadM α} (yes : c → Ensures tokens P m Q)
    (no : ¬ c → Ensures tokens P m' Q) : Ensures tokens P (if c then m else m') Q := by
  split
  · next holds => exact yes holds
  · next fails => exact no fails

/-- One of two steps may come first. -/
theorem ite_bind {c : Prop} [Decidable c] {m' : ReadM α} (yes : c → Ensures tokens P m Q)
    (no : ¬ c → Ensures tokens P m' Q) (rest : ∀ a, Ensures tokens (Q a) (f a) R) :
    Ensures tokens P (if c then m >>= f else m' >>= f) R :=
  .ite (fun holds => (yes holds).bind rest) fun fails => (no fails).bind rest

/-- A step that stops under a condition goes on without it. -/
theorem guard {c : Prop} [Decidable c] {stop : ReadM PUnit} {rest : PUnit → ReadM β}
    (stops : c → Ensures tokens P stop fun _ _ => False)
    (goesOn : ¬ c → Ensures tokens P (rest ⟨⟩) R) :
    Ensures tokens P (if c then stop >>= rest else rest ⟨⟩) R :=
  .ite (fun holds => (stops holds).bind fun _ _ impossible => impossible.elim) goesOn

/-- A step that is taken under a condition may come first. -/
theorem optional {c : Prop} [Decidable c] {first : ReadM PUnit} {rest : PUnit → ReadM β}
    (keeps : Ensures tokens P first fun _ => P) (goesOn : Ensures tokens P (rest ⟨⟩) R) :
    Ensures tokens P (if c then first >>= rest else rest ⟨⟩) R :=
  .ite (fun _ => keeps.bind fun _ => goesOn) fun _ => goesOn

theorem mono (ensures : Ensures tokens P m Q) (before : ∀ s, P' s → P s)
    (after : ∀ a s, Q a s → Q' a s) : Ensures tokens P' m Q' := by
  intro s holds
  have outcome := ensures s (before s holds)
  cases ran : m s with
  | error e =>
      rw [ran] at outcome
      exact outcome
  | ok result =>
      rw [ran] at outcome
      exact after _ _ outcome

end Ensures

/-! ## Tokens -/

/-- A state in which the tokens left and the switches are given. -/
def Reading.At (ts : List Token) (flags : Flags) (s : Reading) : Prop :=
  s.cursor.tokens = ts ∧ s.flags = flags

/-- A place in front of a loose backslash is a fault, and every other place is kept. -/
theorem Cursor.check_cases (c : Cursor) :
    c.check = .ok c ∨ ∃ fault, c.check = .error (.invalid fault) := by
  unfold check
  split
  · exact .inr ⟨_, rfl⟩
  · exact .inl rfl

theorem Cursor.ofText_cases (t : Text) :
    (∃ c, ofText t = .ok c ∧ c.tokens = tokensFrom 0 t) ∨
      ∃ fault, ofText t = .error (.invalid fault) := by
  unfold ofText
  rcases check_cases ⟨tokensFrom 0 t, if endsLoose t then t.length - 1 else t.length,
    endsLoose t⟩ with opened | refused
  · exact .inl ⟨_, opened, rfl⟩
  · exact .inr refused

section Tokens

variable {β : Type} {tokens ts : List Token} {flags : Flags} {P : Reading → Prop}
  {R : β → Reading → Prop}

theorem take?_of_nil : Ensures tokens (Reading.At [] flags) take? fun next s =>
    Reading.At [] flags s ∧ next = none := by
  refine .get_bind fun s holds => ?_
  rw [holds.1]
  exact .pure fun _ holds => ⟨holds, rfl⟩

theorem take?_of_cons {t : Token} : Ensures tokens (Reading.At (t :: ts) flags) take? fun next s =>
    Reading.At ts flags s ∧ next = some t := by
  refine .get_bind fun s holds => ?_
  rw [holds.1]
  have advances : Ensures tokens (Reading.At (t :: ts) flags)
      (liftM s.cursor.advance : ReadM Cursor) fun c _ => c.tokens = ts := by
    unfold Cursor.advance
    rcases Cursor.check_cases { s.cursor with tokens := s.cursor.tokens.tail } with
      advanced | ⟨fault, failed⟩
    · rw [advanced]
      exact .pure fun _ _ => by rw [holds.1]; rfl
    · rw [failed]
      exact .throw trivial
  refine advances.bind fun c =>
    .bind (.set fun _ after => ?_) fun _ => .pure fun _ holds => ⟨holds, rfl⟩
  exact ⟨after, holds.2⟩

/-- The next token, if there is one, is taken. -/
theorem take?_bind {f : Option Token → ReadM β}
    (none : Ensures tokens (Reading.At ts flags) (f none) R)
    (some : ∀ t rest, ts = t :: rest → Ensures tokens (Reading.At rest flags) (f (some t)) R) :
    Ensures tokens (Reading.At ts flags) (take? >>= f) R := by
  cases ts with
  | nil => exact take?_of_nil.bind_fact fun _ isNone => isNone ▸ none
  | cons t rest => exact take?_of_cons.bind_fact fun _ isSome => isSome ▸ some t rest rfl

/-- The next token, if there is one, is looked at. -/
theorem peek_bind {f : Option Token → ReadM β}
    (none : Ensures tokens (Reading.At ts flags) (f none) R)
    (some : ∀ t rest, ts = t :: rest →
      Ensures tokens (Reading.At (t :: rest) flags) (f (some t)) R) :
    Ensures tokens (Reading.At ts flags) (peek >>= f) R := by
  have looks : Ensures tokens (Reading.At ts flags) peek fun next s =>
      Reading.At ts flags s ∧ next = ts.head? :=
    .get_bind fun s holds => .pure fun _ before => ⟨before, by rw [holds.1]⟩
  cases ts with
  | nil => exact looks.bind_fact fun _ isNone => isNone ▸ none
  | cons t rest => exact looks.bind_fact fun _ isSome => isSome ▸ some t rest rfl

/-- The next token is taken if it is a given character. -/
theorem accept_bind {c : Char} {f : Bool → ReadM β}
    (no : Ensures tokens (Reading.At ts flags) (f false) R)
    (yes : ∀ t rest, ts = t :: rest → t.is c = true →
      Ensures tokens (Reading.At rest flags) (f true) R) :
    Ensures tokens (Reading.At ts flags) (accept c >>= f) R := by
  have accepts : Ensures tokens (Reading.At ts flags) (accept c) fun accepted s =>
      if accepted then ∃ t rest, ts = t :: rest ∧ t.is c = true ∧ Reading.At rest flags s
      else Reading.At ts flags s := by
    refine peek_bind (.pure fun _ holds => holds) ?_
    intro t rest same
    subst same
    refine .ite (fun isC => ?_) fun _ => .pure fun _ holds => holds
    exact take?_of_cons.bind fun _ => .pure fun _ taken => ⟨t, rest, rfl, isC, taken.1⟩
  refine accepts.bind fun accepted => ?_
  cases accepted with
  | false => exact no
  | true => exact fun s ⟨t, rest, same, isC, holds⟩ => yes t rest same isC s holds

theorem remaining_ensures : Ensures tokens P remaining fun _ => P :=
  .get_bind fun _ _ => .pure fun _ holds => holds

/-- What holds of a step from every state by its tokens and switches holds of it. -/
theorem Ensures.of_each {α : Type} {m : ReadM α} {Q : α → Reading → Prop}
    (ensures : ∀ s, P s → Ensures tokens (Reading.At s.cursor.tokens s.flags) m Q) :
    Ensures tokens P m Q := fun s holds => ensures s holds s ⟨rfl, rfl⟩

theorem refuse_ensures {α : Type} {Q : α → Reading → Prop} (fault : Fault) :
    Ensures tokens P (refuse fault) Q := .throw trivial

theorem fail_ensures {α : Type} {Q : α → Reading → Prop} (problem : Problem) (back : Nat) :
    Ensures tokens P (fail problem back) Q :=
  .bind (Q := fun _ _ => True) (.bind .get fun _ => .pure fun _ _ => trivial)
    fun _ => refuse_ensures _

/-- The tokens in front that pass a test are taken. -/
theorem takeWhile_ensures (test : Token → Bool) (n : Nat) :
    Ensures tokens (Reading.At ts flags) (takeWhile test n) fun text s' =>
      ∃ run, (∀ t ∈ run, test t = true) ∧ text = run.flatMap Token.text ∧
        ts = run ++ s'.cursor.tokens ∧ s'.flags = flags := by
  induction n generalizing ts with
  | zero =>
      exact .pure fun s holds => ⟨[], List.forall_mem_nil _, rfl, holds.1.symm, holds.2⟩
  | succ n ih =>
      refine peek_bind ?_ ?_
      · exact .pure fun s holds => ⟨[], List.forall_mem_nil _, rfl, holds.1.symm, holds.2⟩
      · intro t rest same
        subst same
        refine .ite (fun passes => ?_) fun _ => ?_
        · refine take?_of_cons.bind_fact fun _ _ => ih.bind fun text => .pure ?_
          intro s' taken
          obtain ⟨run, passed, rfl, rfl, same⟩ := taken
          exact ⟨t :: run, List.forall_mem_cons.mpr ⟨passes, passed⟩, rfl, rfl, same⟩
        · exact .pure fun s holds => ⟨[], List.forall_mem_nil _, rfl, holds.1.symm, holds.2⟩

end Tokens

/-! ## Steps that read on -/

/-- A state in which the tokens left are the last of some tokens, and the switches are given. -/
def Reading.From (ts : List Token) (flags : Flags) (s : Reading) : Prop :=
  s.cursor.tokens <:+ ts ∧ s.flags = flags

/-- A step that reads on and leaves the switches as they are. -/
def Plain {α : Type} (m : ReadM α) : Prop :=
  ∀ tokens ts flags, ts <:+: tokens →
    Ensures tokens (Reading.From ts flags) m fun _ => Reading.From ts flags

/-- What holds of a step from every end of some tokens holds from all states in which their end is
left. -/
theorem Ensures.of_at {α : Type} {tokens ts : List Token} {flags : Flags} {m : ReadM α}
    {Q : α → Reading → Prop}
    (ensures : ∀ left, left <:+ ts → Ensures tokens (Reading.At left flags) m Q) :
    Ensures tokens (Reading.From ts flags) m Q :=
  fun s holds => ensures _ holds.1 s ⟨rfl, holds.2⟩

namespace Plain

variable {α β : Type} {m : ReadM α} {f : α → ReadM β}

/-- A plain step from a state in which the end of some tokens is left. -/
theorem ensures {tokens ts left : List Token} {flags : Flags} (plain : Plain m)
    (inside : ts <:+: tokens) (isEnd : left <:+ ts) :
    Ensures tokens (Reading.At left flags) m fun _ => Reading.From ts flags :=
  (plain tokens ts flags inside).mono (fun _ holds => ⟨holds.1 ▸ isEnd, holds.2⟩)
    fun _ _ holds => holds

theorem pure (a : α) : Plain (pure a : ReadM α) := fun _ _ _ _ => .pure fun _ holds => holds

theorem bind (first : Plain m) (rest : ∀ a, Plain (f a)) : Plain (m >>= f) :=
  fun tokens ts flags inside =>
    (first tokens ts flags inside).bind fun a => rest a tokens ts flags inside

theorem get : Plain get :=
  fun _ _ _ _ => Ensures.get.mono (fun _ holds => holds) fun _ _ holds => holds.1

theorem modify {g : Reading → Reading} (cursor : ∀ s, (g s).cursor = s.cursor)
    (flags : ∀ s, (g s).flags = s.flags) : Plain (modify g : ReadM PUnit) :=
  fun _ _ _ _ => .modify fun s holds => by
    rw [Reading.From, cursor s, flags s]
    exact holds

theorem update {g : Reading → Reading} {rest : Reading → ReadM β}
    (cursor : ∀ s, (g s).cursor = s.cursor) (flags : ∀ s, (g s).flags = s.flags)
    (plain : ∀ s, Plain (rest s)) :
    Plain (do
      let s ← MonadState.get
      set (g s)
      rest s) := by
  intro tokens ts fl inside
  refine .bind .get fun s => ?_
  have stored : Ensures tokens (fun s' => Reading.From ts fl s' ∧ s' = s)
      (set (g s) : ReadM PUnit) fun _ => Reading.From ts fl := by
    refine .set fun s' ⟨holds, same⟩ => ?_
    rw [Reading.From, cursor s, flags s, ← same]
    exact holds
  exact .bind stored fun _ => plain s tokens ts fl inside

theorem refuse (fault : Fault) : Plain (refuse fault : ReadM α) :=
  fun _ _ _ _ => refuse_ensures fault

theorem fail (problem : Problem) (back : Nat) : Plain (fail problem back : ReadM α) :=
  fun _ _ _ _ => fail_ensures problem back

theorem ite {c : Prop} [Decidable c] {m' : ReadM α} (yes : Plain m) (no : Plain m') :
    Plain (if c then m else m') := by
  split
  · exact yes
  · exact no

/-- A step that may stop first. -/
theorem guard {c : Prop} [Decidable c] {stop : ReadM PUnit} {rest : PUnit → ReadM β}
    (stops : Plain stop) (plain : Plain (rest ⟨⟩)) :
    Plain (if c then stop >>= rest else rest ⟨⟩) :=
  .ite (stops.bind fun _ => plain) plain

theorem forIn {γ : Type} {xs : List γ} {init : β} {g : γ → β → ReadM (ForInStep β)}
    (plain : ∀ x b, Plain (g x b)) : Plain (forIn xs init g) := by
  induction xs generalizing init with
  | nil => exact .pure init
  | cons x rest ih =>
      rw [List.forIn_cons]
      refine .bind (plain x init) fun next => ?_
      cases next with
      | done b => exact .pure b
      | yield b => exact ih

theorem peek : Plain peek := .bind .get fun _ => .pure _

theorem position : Plain position := .bind .get fun _ => .pure _

theorem remaining : Plain remaining := .bind .get fun _ => .pure _

theorem take? : Plain take? := by
  intro tokens ts flags _
  refine .of_at fun left isEnd => ?_
  cases left with
  | nil => exact take?_of_nil.mono (fun _ holds => holds) fun _ s taken =>
      ⟨by rw [taken.1.1]; exact isEnd, taken.1.2⟩
  | cons t rest => exact take?_of_cons.mono (fun _ holds => holds) fun _ s taken =>
      ⟨by rw [taken.1.1]; exact (List.suffix_cons t rest).trans isEnd, taken.1.2⟩

theorem accept (c : Char) : Plain (accept c) := by
  refine .bind .peek fun next => ?_
  cases next with
  | none => exact .pure _
  | some t => exact .ite (.bind .take? fun _ => .pure _) (.pure _)

theorem takeWhile (test : Token → Bool) (n : Nat) : Plain (takeWhile test n) := by
  intro tokens ts flags inside
  refine .of_at fun left isEnd => (takeWhile_ensures test n).mono (fun _ holds => holds) ?_
  intro text s' taken
  obtain ⟨run, -, -, rfl, same⟩ := taken
  exact ⟨(List.suffix_append run _).trans isEnd, same⟩

theorem takeUntil (terminator : Char) (what done : Text) (fuel : Nat) :
    Plain (takeUntil terminator what done fuel) := by
  induction fuel generalizing done with
  | zero => exact .pure _
  | succ fuel ih =>
      refine .bind .take? fun next => ?_
      cases next with
      | none => exact .ite (.fail _ _) (.fail _ _)
      | some t => exact .ite (.ite (.fail _ _) (.pure _)) (ih _)

theorem takeName (terminator : Char) (what : Text) : Plain (takeName terminator what) :=
  .bind .remaining fun _ => .takeUntil _ _ _ _

/-! ### Groups -/

theorem checkClosed (group back : Nat) : Plain (checkClosed group back) :=
  .bind .get fun _ => .ite (.fail _ _) (.pure _)

theorem checkBehind (group : Nat) : Plain (checkBehind group) := by
  refine .bind .get fun s => ?_
  cases s.behindFrom with
  | none => exact .pure _
  | some first => exact .bind (.checkClosed _ _) fun _ => .ite (.fail _ _) (.pure _)

theorem backrefTo (group : Nat) : Plain (backrefTo group) :=
  .bind (.checkBehind _) fun _ => .bind .get fun _ => .pure _

theorem openGroup (name? : Option Text) : Plain (openGroup name?) := by
  refine .update (g := fun s => { s with groups := s.groups + 1 }) (fun _ => rfl) (fun _ => rfl)
    fun s => ?_
  cases name? with
  | none => exact .pure _
  | some name =>
      dsimp only
      split
      · exact .fail _ _
      · exact .bind (.modify (fun _ => rfl) fun _ => rfl) fun _ => .pure _

theorem closeGroup (group : Nat) (body : List Node) : Plain (closeGroup group body) :=
  .modify (fun _ => rfl) fun _ => rfl

theorem checkGroupName (name : Text) : Plain (checkGroupName name) :=
  .ite (.fail _ _) (.pure _)

end Plain

end NotebookAudit.Pattern

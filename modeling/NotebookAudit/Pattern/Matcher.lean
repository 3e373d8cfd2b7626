import NotebookAudit.Pattern.Program

/-!
Running programs.

`step` runs a list of instructions from a place of the subject, with the loops that are under way
and the groups matched so far. It gives whether the instructions match and the groups at the end.
Failures undo the groups of an attempt: entirely inside a loop, and outside of loops only as far as
the attempt has opened new groups. So a group may keep the start of an attempt that failed, and end
before it (`State.isBroken`). Of rounds that are not given up the last, which fails, leaves nothing
behind.
-/

namespace NotebookAudit.Pattern

/-- A text that is searched. -/
structure Subject where
  chars : Array CodePoint

namespace Subject

/-- The number of characters. -/
def size (s : Subject) : Nat := s.chars.size

/-- Whether the character after a place passes a test. -/
def passes (s : Subject) (t : CharTest) (pos : Nat) : Bool :=
  match s.chars[pos]? with
  | some c => t.accepts c
  | none => false

/-- Whether the character after a place is a line feed. -/
def isLineFeed (s : Subject) (pos : Nat) : Bool := s.chars[pos]? == some 0x0a

/-- Whether a word character follows a place. -/
def isWord (s : Subject) (asciiOnly : Bool) (pos : Nat) : Bool :=
  match s.chars[pos]? with
  | some c => CharClass.word.contains asciiOnly c
  | none => false

/-- Whether a condition holds at a place. An empty text has neither boundaries nor places that are
none. -/
def holds (s : Subject) (pos : Nat) : Place → Bool
  | .textStart => pos == 0
  | .lineStart => pos == 0 || s.isLineFeed (pos - 1)
  | .textEnd => pos == s.size
  | .lastLineEnd => pos == s.size || (pos + 1 == s.size && s.isLineFeed pos)
  | .lineEnd => pos == s.size || s.isLineFeed pos
  | .boundary asciiOnly negated =>
    s.size != 0 &&
      ((0 < pos && s.isWord asciiOnly (pos - 1)) != s.isWord asciiOnly pos) != negated

/-- The number of characters from a place on that pass a test one after another, at most `n`. -/
def count (s : Subject) (t : CharTest) (pos : Nat) : (n : Nat) → Nat
  | 0 => 0
  | n + 1 => if s.passes t pos then count s t (pos + 1) n + 1 else 0

/-- Whether the `n` characters after two places are equal when folded. -/
def sameText (s : Subject) (fold : Fold) (a b : Nat) : (n : Nat) → Bool
  | 0 => true
  | n + 1 =>
    (match s.chars[a]?, s.chars[b]? with
      | some c, some d => fold.apply c == fold.apply d
      | _, _ => false) && sameText s fold (a + 1) (b + 1) n

/-- Whether an alternative can match at a place, as its first instruction tells. -/
def mayStart (s : Subject) (pos : Nat) : List Instr → Bool
  | .test .literal t :: _ => s.passes t pos
  | .test .set t :: _ => s.passes t pos
  | _ => true

end Subject

/-! ## The state of a run -/

/-- What a run has found: the starts and the ends of groups in turn, as far as one is set, and the
place where it has ended. -/
structure State where
  marks : Array (Option Nat)
  cursor : Nat

namespace State

/-- The state with the cursor at a place. -/
def goto (st : State) (pos : Nat) : State := { st with cursor := pos }

/-- Sets a mark. Marks below it that are not set are empty. -/
def setMark (st : State) (slot pos : Nat) : State :=
  let padded := st.marks ++ Array.replicate (slot + 1 - st.marks.size) none
  { st with marks := padded.setIfInBounds slot (some pos) }

/-- The marks of `saved`: as they were, or as they are now, but no more of them. -/
def undo (st saved : State) (entirely : Bool) : State :=
  { st with marks := if entirely then saved.marks else st.marks.take saved.marks.size }

/-- The span of a group that has matched. -/
def span? (st : State) (group : Nat) : Option (Nat × Nat) :=
  match st.marks[2 * group]?, st.marks[2 * group + 1]? with
  | some (some a), some (some b) => if a ≤ b then some (a, b) else none
  | _, _ => none

/-- Whether the span of a group ends before it starts. -/
def isBroken (st : State) (group : Nat) : Bool :=
  match st.marks[2 * group]?, st.marks[2 * group + 1]? with
  | some (some a), some (some b) => b < a
  | _, _ => false

end State

/-- A loop under way. -/
structure Loop where
  reluctant : Bool
  least : Nat
  greatest : Option Nat
  body : List Instr
  /-- What follows the loop. -/
  after : List Instr
  /-- The number of rounds begun. -/
  begun : Nat
  /-- The place where the last round beyond the least number began. -/
  last : Option Nat

/-- Whether a loop may begin one more round at a place. A round that has not moved is the last. -/
def Loop.mayGoOn (l : Loop) (pos : Nat) : Bool :=
  (match l.greatest with
    | some n => l.begun < n
    | none => true) && l.last != some pos

/-- The loop with one more round begun. -/
def Loop.next (l : Loop) : Loop := { l with begun := l.begun + 1 }

/-- Whether a run succeeds, and the state at its end. -/
abbrev Outcome := Bool × State

/-- The outcome of the first attempt that succeeds, or of the last. -/
def firstSuccess {α : Type} (attempt : α → State → Outcome) : List α → State → Outcome
  | [], st => (false, st)
  | a :: rest, st =>
    match attempt a st with
    | (true, st) => (true, st)
    | (false, st) => firstSuccess attempt rest st

/-- An outcome with the groups set back after a failure. -/
def orUndo (saved : State) (entirely : Bool) : Outcome → Outcome
  | (true, st) => (true, st)
  | (false, st) => (false, st.undo saved entirely)

/-- Runs `n` rounds, each from the cursor. -/
def roundsNeeded (round : Nat → State → Outcome) : (n : Nat) → State → Outcome
  | 0, st => (true, st)
  | n + 1, st =>
    match round st.cursor st with
    | (true, st) => roundsNeeded round n st
    | (false, st) => (false, st)

/-- Runs up to `n` more rounds, each from the cursor, until one fails or does not move. -/
def roundsPossible (round : Nat → State → Outcome) : (n : Nat) → State → State
  | 0, st => st
  | n + 1, st =>
    match round st.cursor st with
    | (true, new) => if new.cursor = st.cursor then new else roundsPossible round n new
    | (false, _) => st

/-- The number of characters that may be matched in rounds of one from a place on. -/
def roundsLeft (s : Subject) (greatest : Option Nat) (pos : Nat) : Nat :=
  match greatest with
  | some n => min n (s.size - pos)
  | none => s.size - pos

/-- The places where greedy rounds may end, the last first. If a literal must follow, it does. -/
def endsFromLast (s : Subject) (pos least n : Nat) (rest : List Instr) : List Nat :=
  let ends := (List.range (n + 1 - least)).map fun k => pos + n - k
  match rest with
  | .test .literal t :: _ => ends.filter (s.passes t)
  | _ => ends

/-! ## The matcher -/

/-- Runs instructions from a place. -/
def step (s : Subject) : (fuel : Nat) → List Instr → List Loop → (pos : Nat) → State → Outcome
  | 0, _, _, _, st => (false, st)
  | _ + 1, [], _, pos, st => (true, st.goto pos)
  | fuel + 1, instr :: rest, loops, pos, st =>
    match instr with
    | .test _ t => if s.passes t pos then step s fuel rest loops (pos + 1) st else (false, st)
    | .place p => if s.holds pos p then step s fuel rest loops pos st else (false, st)
    | .mark slot => step s fuel rest loops pos (st.setMark slot pos)
    | .leave => step s fuel rest loops pos st
    | .branch alternatives =>
      firstSuccess
        (fun a now => orUndo st (!loops.isEmpty) (step s fuel (a ++ rest) loops pos now))
        (alternatives.filter (s.mayStart pos)) st
    | .run greed least greatest t =>
      let n := s.count t pos (roundsLeft s greatest pos)
      let attempt (p : Nat) (now : State) : Outcome :=
        orUndo st (!loops.isEmpty) (step s fuel rest loops p now)
      if n < least then (false, st)
      else match greed with
        | .greedy => firstSuccess attempt (endsFromLast s pos least n rest) st
        | .reluctant => firstSuccess attempt ((List.range (n + 1 - least)).map (pos + least + ·)) st
        | .possessive => step s fuel rest loops (pos + n) st
    | .loop reluctant least greatest body =>
      step s fuel [.again] (⟨reluctant, least, greatest, body, rest, 0, none⟩ :: loops) pos st
    | .again =>
      match loops with
      | [] => (false, st)
      | l :: outer =>
        let goOn := { l.next with last := some pos } :: outer
        if l.begun < l.least then step s fuel l.body (l.next :: outer) pos st
        else if l.reluctant then
          match step s fuel l.after outer pos st with
          | (true, now) => (true, now)
          | (false, now) =>
            let now := now.undo st (!outer.isEmpty)
            if l.mayGoOn pos then step s fuel l.body goOn pos now else (false, now)
        else if l.mayGoOn pos then
          match step s fuel l.body goOn pos st with
          | (true, now) => (true, now)
          | (false, now) => step s fuel l.after outer pos (now.undo st true)
        else step s fuel l.after outer pos st
    | .keep least greatest body =>
      let round := step s fuel body loops
      match roundsNeeded round least (st.goto pos) with
      | (false, now) => (false, now)
      | (true, now) =>
        let more := (greatest.map (· - least)).getD (s.size + 1)
        let now := roundsPossible round (min more (s.size + 1)) now
        step s fuel rest loops now.cursor now
    | .atomic body =>
      match step s fuel body loops pos st with
      | (true, now) => step s fuel rest loops now.cursor now
      | (false, now) => (false, now)
    | .look false back body =>
      if pos < back then (false, st)
      else match step s fuel body loops (pos - back) st with
        | (true, now) => step s fuel rest loops pos now
        | (false, now) => (false, now)
    | .look true back body =>
      if pos < back then step s fuel rest loops pos st
      else match step s fuel body loops (pos - back) st with
        | (true, now) => (false, now)
        | (false, now) => step s fuel rest loops pos (now.undo st (!loops.isEmpty))
    | .backref fold group =>
      match st.span? group with
      | none => (false, st)
      | some (a, b) =>
        if s.sameText fold a pos (b - a) then step s fuel rest loops (pos + (b - a)) st
        else (false, st)
    | .conditional group yes no =>
      if (st.span? group).isSome then step s fuel (yes ++ rest) loops pos st
      else step s fuel (no ++ rest) loops pos st

/-! ## The length of runs -/

mutual

/-- A bound on the number of instructions that one run through an instruction meets, in a subject of
`n` characters. -/
def Instr.bound (n : Nat) : Instr → Nat
  | .branch alternatives => boundOfEach n alternatives + 1
  | .loop _ least _ body => (least + n + 3) * (boundOfAll n body + 2) + 2
  | .keep _ _ body => boundOfAll n body + 2
  | .atomic body => boundOfAll n body + 2
  | .look _ _ body => boundOfAll n body + 2
  | .conditional _ yes no => boundOfAll n yes + boundOfAll n no + 1
  | _ => 1

/-- The bound for instructions in a row. -/
def boundOfAll (n : Nat) : List Instr → Nat
  | [] => 1
  | i :: rest => i.bound n + boundOfAll n rest

/-- The bound for alternatives. -/
def boundOfEach (n : Nat) : List (List Instr) → Nat
  | [] => 0
  | a :: rest => boundOfAll n a + boundOfEach n rest

end

/-- Runs a program from a place, with no groups matched. -/
def runAt (s : Subject) (program : List Instr) (pos : Nat) : Outcome :=
  step s (boundOfAll s.size program + 1) program [] pos ⟨#[], pos⟩

end NotebookAudit.Pattern

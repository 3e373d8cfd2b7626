import Mathlib.Data.List.TakeWhile
import NotebookAudit.Pattern.Basic

/-!
What programs find.

A run tries the ends of a repeated part one after another, and what an attempt that fails leaves behind
depends on where it has failed. Two statements leave that out. `Fails` says that instructions fail from
a place whatever is matched so far, and `Finds` what they find from a place with given groups. For a
greedy part the second asks for its last end only, since this is tried first (`Finds.run`); the first
asks for all of its ends (`Fails.run`).
-/

namespace NotebookAudit.Pattern

/-! ## The text after a place -/

namespace Subject

variable {s : Subject} {pos n : Nat} {c : CodePoint} {t : Text}

/-- The characters after a place. -/
def after (s : Subject) (pos : Nat) : Text := s.chars.toList.drop pos

theorem after_add (s : Subject) (pos n : Nat) : s.after (pos + n) = (s.after pos).drop n := by
  rw [after, after, List.drop_drop]

theorem after_succ (there : s.after pos = c :: t) : s.after (pos + 1) = t := by
  rw [after_add, there, List.drop_one, List.tail_cons]

theorem length_after (s : Subject) (pos : Nat) : (s.after pos).length = s.size - pos := by
  rw [after, List.length_drop, size, Array.length_toList]

theorem getElem?_eq_head? (s : Subject) (pos : Nat) : s.chars[pos]? = (s.after pos).head? := by
  rw [after, List.head?_drop, Array.getElem?_toList]

theorem passes_eq (s : Subject) (test : CharTest) (pos : Nat) :
    s.passes test pos = (s.after pos).head?.any test.accepts := by
  rw [passes, getElem?_eq_head?]
  cases (s.after pos).head? <;> rfl

/-- The characters counted are the longest run that passes. -/
theorem count_eq (s : Subject) (test : CharTest) (pos n : Nat) :
    s.count test pos n = (((s.after pos).take n).takeWhile test.accepts).length := by
  induction n generalizing pos with
  | zero => rw [count, List.take_zero, List.takeWhile_nil, List.length_nil]
  | succ n ih =>
      rw [count, passes_eq]
      cases there : s.after pos with
      | nil => rfl
      | cons c t =>
          rw [List.head?_cons, Option.any_some, List.take_succ_cons, List.takeWhile_cons]
          cases test.accepts c with
          | false => rfl
          | true => rw [if_pos rfl, if_pos rfl, ih, after_succ there, List.length_cons]

end Subject

/-! ## Instructions that fail, and what others find -/

variable {s : Subject} {program body rest : List Instr} {loops outer : List Loop} {l : Loop}
  {pos n m least slot : Nat} {greatest : Option Nat} {shape : Shape} {accepts : CharTest}
  {condition : Place} {marks : Array (Option Nat)} {found : State}

/-- The instructions fail from the place. -/
def Fails (s : Subject) (program : List Instr) (loops : List Loop) (pos : Nat) : Prop :=
  ∀ fuel st, (step s fuel program loops pos st).1 = false

/-- From the place, with the groups and fuel of at least `n`, the instructions match and find the
state. -/
def Finds (s : Subject) (n : Nat) (program : List Instr) (loops : List Loop) (pos : Nat)
    (marks : Array (Option Nat)) (found : State) : Prop :=
  ∀ fuel cursor, n ≤ fuel → step s fuel program loops pos ⟨marks, cursor⟩ = (true, found)

theorem Finds.mono (finds : Finds s n program loops pos marks found) (le : n ≤ m) :
    Finds s m program loops pos marks found :=
  fun fuel cursor enough => finds fuel cursor (Nat.le_trans le enough)

/-- What is found has taken fuel. -/
theorem Finds.exists_fuel {fuel : Nat} (enough : n + 1 ≤ fuel) :
    ∃ less, fuel = less + 1 ∧ n ≤ less := by
  obtain ⟨less, rfl⟩ := Nat.exists_eq_add_of_lt (Nat.lt_of_lt_of_le n.lt_succ_self enough)
  exact ⟨n + less, rfl, Nat.le_add_right n less⟩

/-! ### What one instruction does -/

theorem step_test (s : Subject) (fuel : Nat) (shape : Shape) (accepts : CharTest) (rest : List Instr)
    (loops : List Loop) (pos : Nat) (st : State) :
    step s (fuel + 1) (.test shape accepts :: rest) loops pos st =
      if s.passes accepts pos then step s fuel rest loops (pos + 1) st else (false, st) := rfl

theorem step_place (s : Subject) (fuel : Nat) (condition : Place) (rest : List Instr)
    (loops : List Loop) (pos : Nat) (st : State) :
    step s (fuel + 1) (.place condition :: rest) loops pos st =
      if s.holds pos condition then step s fuel rest loops pos st else (false, st) := rfl

theorem step_greedyRun (s : Subject) (fuel least : Nat) (greatest : Option Nat) (accepts : CharTest)
    (rest : List Instr) (loops : List Loop) (pos : Nat) (st : State) :
    step s (fuel + 1) (.run .greedy least greatest accepts :: rest) loops pos st =
      if s.count accepts pos (roundsLeft s greatest pos) < least then (false, st)
      else firstSuccess
        (fun p now => orUndo st (!loops.isEmpty) (step s fuel rest loops p now))
        (endsFromLast s pos least (s.count accepts pos (roundsLeft s greatest pos)) rest) st := rfl

/-- A greedy loop with its least number of rounds behind it. -/
theorem step_again (s : Subject) (fuel : Nat) (rest : List Instr) {l : Loop} (outer : List Loop)
    (pos : Nat) (st : State) (greedy : l.reluctant = false) (mayEnd : l.least ≤ l.begun) :
    step s (fuel + 1) (.again :: rest) (l :: outer) pos st =
      if l.mayGoOn pos then
        match step s fuel l.body ({ l.next with last := some pos } :: outer) pos st with
        | (true, now) => (true, now)
        | (false, now) => step s fuel l.after outer pos (now.undo st true)
      else step s fuel l.after outer pos st := by
  have notBegun : ¬ l.begun < l.least := Nat.not_lt.mpr mayEnd
  refine (if_neg notBegun).trans ((if_neg ?_).trans rfl)
  rw [greedy]
  exact Bool.false_ne_true

/-! ### One character, conditions and marks -/

theorem Finds.nil : Finds s 1 [] loops pos marks ⟨marks, pos⟩ := by
  intro fuel cursor isEnough
  obtain ⟨less, rfl, -⟩ := exists_fuel isEnough
  rfl

theorem Finds.test (passes : s.passes accepts pos = true)
    (finds : Finds s n rest loops (pos + 1) marks found) :
    Finds s (n + 1) (.test shape accepts :: rest) loops pos marks found := by
  intro fuel cursor isEnough
  obtain ⟨less, rfl, enough⟩ := exists_fuel isEnough
  rw [step_test, if_pos passes]
  exact finds less cursor enough

theorem Fails.test (fails : s.passes accepts pos = true → Fails s rest loops (pos + 1)) :
    Fails s (.test shape accepts :: rest) loops pos := by
  intro fuel st
  cases fuel with
  | zero => rfl
  | succ fuel =>
      rw [step_test]
      split
      · next passes => exact fails passes fuel st
      · rfl

theorem Finds.place (holds : s.holds pos condition = true)
    (finds : Finds s n rest loops pos marks found) :
    Finds s (n + 1) (.place condition :: rest) loops pos marks found := by
  intro fuel cursor isEnough
  obtain ⟨less, rfl, enough⟩ := exists_fuel isEnough
  rw [step_place, if_pos holds]
  exact finds less cursor enough

theorem Fails.place (fails : s.holds pos condition = true → Fails s rest loops pos) :
    Fails s (.place condition :: rest) loops pos := by
  intro fuel st
  cases fuel with
  | zero => rfl
  | succ fuel =>
      rw [step_place]
      split
      · next holds => exact fails holds fuel st
      · rfl

theorem Finds.mark
    (finds : Finds s n rest loops pos ((State.mk marks pos).setMark slot pos).marks found) :
    Finds s (n + 1) (.mark slot :: rest) loops pos marks found := by
  intro fuel cursor isEnough
  obtain ⟨less, rfl, enough⟩ := exists_fuel isEnough
  exact finds less cursor enough

theorem Fails.mark (fails : Fails s rest loops pos) : Fails s (.mark slot :: rest) loops pos := by
  intro fuel st
  cases fuel with
  | zero => rfl
  | succ fuel => exact fails fuel _

/-! ### Greedy rounds of one character -/

/-- The number of rounds that are possible from a place. -/
def roundsOf (s : Subject) (accepts : CharTest) (greatest : Option Nat) (pos : Nat) : Nat :=
  s.count accepts pos (roundsLeft s greatest pos)

theorem passes_of_lt_count {k : Nat} (inside : k < s.count accepts pos n) :
    s.passes accepts (pos + k) = true := by
  induction n generalizing pos k with
  | zero => cases inside
  | succ n ih =>
      rw [Subject.count] at inside
      split at inside
      · next passes =>
        cases k with
        | zero => exact passes
        | succ k =>
            rw [Nat.add_comm k, ← Nat.add_assoc]
            exact ih (Nat.lt_of_succ_lt_succ inside)
      · cases inside

theorem roundsOf_eq_zero (fails : s.passes accepts pos = false) :
    roundsOf s accepts greatest pos = 0 := by
  rw [roundsOf]
  cases roundsLeft s greatest pos with
  | zero => rfl
  | succ n => rw [Subject.count, fails, if_neg Bool.false_ne_true]

theorem firstSuccess_cons {α : Type} {attempt : α → State → Outcome} {a : α} {others : List α}
    {st : State} (success : attempt a st = (true, found)) :
    firstSuccess attempt (a :: others) st = (true, found) := by
  rw [firstSuccess, success]

theorem firstSuccess_fails {α : Type} {attempt : α → State → Outcome} {all : List α}
    (fails : ∀ a ∈ all, ∀ st, (attempt a st).1 = false) (st : State) :
    (firstSuccess attempt all st).1 = false := by
  induction all generalizing st with
  | nil => rfl
  | cons a others ih =>
      obtain ⟨first, others⟩ := List.forall_mem_cons.mp fails
      have failed := first st
      rw [firstSuccess]
      cases ran : attempt a st with
      | mk success now =>
          rw [ran] at failed
          cases failed
          exact ih others now

/-- The ends of greedy rounds, also if they are chosen by the literal that must follow. -/
theorem mem_endsFromLast {p : Nat} (member : p ∈ endsFromLast s pos least n rest) :
    ∃ k, least ≤ k ∧ k ≤ n ∧ p = pos + k := by
  have isEnd : p ∈ (List.range (n + 1 - least)).map fun k => pos + n - k := by
    unfold endsFromLast at member
    split at member
    · exact (List.mem_filter.mp member).1
    · exact member
  obtain ⟨back, inRange, rfl⟩ := List.mem_map.mp isEnd
  have inRange := List.mem_range.mp inRange
  exact ⟨n - back, by omega, by omega, by omega⟩

theorem Fails.run (fails : ∀ k, least ≤ k → k ≤ roundsOf s accepts greatest pos →
      Fails s rest loops (pos + k)) :
    Fails s (.run .greedy least greatest accepts :: rest) loops pos := by
  intro fuel st
  cases fuel with
  | zero => rfl
  | succ fuel =>
      rw [step_greedyRun]
      split
      · rfl
      · refine firstSuccess_fails (fun p member now => ?_) st
        obtain ⟨k, atLeast, atMost, rfl⟩ := mem_endsFromLast member
        have failed := fails k atLeast atMost fuel now
        cases ran : step s fuel rest loops (pos + k) now with
        | mk success left =>
            rw [ran] at failed
            cases failed
            rfl

/-- Of greedy rounds the last end is tried first. -/
theorem exists_endsFromLast (enough : least ≤ n) (finds : Finds s m rest loops (pos + n) marks found) :
    ∃ others, endsFromLast s pos least n rest = (pos + n) :: others := by
  have first : (List.range (n + 1 - least)).map (fun k => pos + n - k) =
      (pos + n) :: ((List.range (n - least)).map fun k => pos + n - (k + 1)) := by
    rw [Nat.succ_sub enough, List.range_succ_eq_map, List.map_cons, List.map_map]
    rfl
  unfold endsFromLast
  dsimp only
  rw [first]
  split
  · next shape accepts rest =>
    have ran := finds (m + 1) 0 m.le_succ
    have passes : s.passes accepts (pos + n) = true := by
      by_contra fails
      rw [step_test, if_neg fails] at ran
      cases ran
    exact ⟨_, List.filter_cons_of_pos passes⟩
  · exact ⟨_, rfl⟩

theorem Finds.run (enough : least ≤ roundsOf s accepts greatest pos)
    (finds : Finds s n rest loops (pos + roundsOf s accepts greatest pos) marks found) :
    Finds s (n + 1) (.run .greedy least greatest accepts :: rest) loops pos marks found := by
  intro fuel cursor isEnough
  obtain ⟨less, rfl, isLess⟩ := exists_fuel isEnough
  obtain ⟨others, first⟩ := exists_endsFromLast enough finds
  rw [roundsOf] at enough first finds
  rw [step_greedyRun, if_neg (Nat.not_lt.mpr enough), first]
  refine firstSuccess_cons ?_
  rw [finds less cursor isLess]
  rfl

/-! ### Greedy loops -/

theorem Finds.loop
    (finds :
      Finds s n [.again] (⟨false, least, greatest, body, rest, 0, none⟩ :: loops) pos marks found) :
    Finds s (n + 1) (.loop false least greatest body :: rest) loops pos marks found := by
  intro fuel cursor isEnough
  obtain ⟨less, rfl, enough⟩ := exists_fuel isEnough
  exact finds less cursor enough

/-- A greedy loop that may end begins a round if it may and the round leads to a match. -/
theorem Finds.round (greedy : l.reluctant = false) (mayEnd : l.least ≤ l.begun)
    (mayGoOn : l.mayGoOn pos = true)
    (finds : Finds s n l.body ({ l.next with last := some pos } :: outer) pos marks found) :
    Finds s (n + 1) (.again :: rest) (l :: outer) pos marks found := by
  intro fuel cursor isEnough
  obtain ⟨less, rfl, enough⟩ := exists_fuel isEnough
  rw [step_again s less rest outer pos _ greedy mayEnd, if_pos mayGoOn, finds less cursor enough]

/-- It ends if it may not begin another round, or if no round leads to a match. -/
theorem Finds.endLoop (greedy : l.reluctant = false) (mayEnd : l.least ≤ l.begun)
    (noRound : l.mayGoOn pos = true → Fails s l.body ({ l.next with last := some pos } :: outer) pos)
    (finds : Finds s n l.after outer pos marks found) :
    Finds s (n + 1) (.again :: rest) (l :: outer) pos marks found := by
  intro fuel cursor isEnough
  obtain ⟨less, rfl, enough⟩ := exists_fuel isEnough
  rw [step_again s less rest outer pos _ greedy mayEnd]
  split
  · next mayGoOn =>
    have failed := noRound mayGoOn less ⟨marks, cursor⟩
    cases ran : step s less l.body ({ l.next with last := some pos } :: outer) pos ⟨marks, cursor⟩ with
    | mk success now =>
        rw [ran] at failed
        cases failed
        exact finds less now.cursor enough
  · exact finds less cursor enough

end NotebookAudit.Pattern

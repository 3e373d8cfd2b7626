import NotebookAudit.Proofs.Pattern.Spelling

/-!
Programs that match in one way only.

`Reads` says of a program that it succeeds exactly where something is read, and that the value of what
it finds is what is read. To show it each instruction is gone through once (`Runs`). A greedy part needs
a reason why to give characters back is of no use, and mostly what follows cannot begin inside of it
(`Shuns`). A program that a pattern is compiled to is compared with a given one by computation
(`exists_compileUnder`).
-/

namespace NotebookAudit.Pattern

/-! ## Programs compared by computation -/

mutual

/-- Whether two instructions are seen to be the same. Of those with parts inside only loops are looked
at. -/
def Instr.same : Instr → Instr → Bool
  | .test shape t, .test shape' t' => shape == shape' && t == t'
  | .place p, .place p' => p == p'
  | .mark slot, .mark slot' => slot == slot'
  | .run greed least greatest t, .run greed' least' greatest' t' =>
    greed == greed' && least == least' && greatest == greatest' && t == t'
  | .loop reluctant least greatest body, .loop reluctant' least' greatest' body' =>
    reluctant == reluctant' && least == least' && greatest == greatest' && sameProgram body body'
  | .again, .again => true
  | _, _ => false

/-- Whether two programs are seen to be the same. -/
def sameProgram : List Instr → List Instr → Bool
  | [], [] => true
  | i :: rest, i' :: rest' => i.same i' && sameProgram rest rest'
  | _, _ => false

end

mutual

theorem Instr.eq_of_same : ∀ i i' : Instr, i.same i' = true → i = i'
  | .test _ _, i', same => by
      cases i' <;> simp_all [Instr.same]
  | .place _, i', same => by
      cases i' <;> simp_all [Instr.same]
  | .mark _, i', same => by
      cases i' <;> simp_all [Instr.same]
  | .run _ _ _ _, i', same => by
      cases i' <;> simp_all [Instr.same]
  | .loop _ _ _ body, i', same => by
      cases i' with
      | loop _ _ _ body' =>
          simp only [Instr.same, Bool.and_eq_true, beq_iff_eq] at same
          obtain ⟨⟨⟨rfl, rfl⟩, rfl⟩, sameBody⟩ := same
          rw [eq_of_sameProgram body body' sameBody]
      | _ => simp [Instr.same] at same
  | .again, i', same => by
      cases i' <;> simp_all [Instr.same]
  | .leave, _, same | .branch _, _, same | .keep _ _ _, _, same | .atomic _, _, same
  | .look _ _ _, _, same | .backref _ _, _, same | .conditional _ _ _, _, same => by
      simp [Instr.same] at same

theorem eq_of_sameProgram : ∀ p p' : List Instr, sameProgram p p' = true → p = p'
  | [], [], _ => rfl
  | i :: rest, i' :: rest', same => by
      rw [sameProgram, Bool.and_eq_true] at same
      rw [Instr.eq_of_same i i' same.1, eq_of_sameProgram rest rest' same.2]
  | [], _ :: _, same | _ :: _, [], same => by simp [sameProgram] at same

end

/-- A pattern whose program is seen to be a given one is compiled to it. -/
theorem exists_compileUnder {t : Text} {program : List Instr}
    (same : (compileUnder {} t).toOption.any (sameProgram program ·.program) = true) :
    ∃ p, compileUnder {} t = .ok p ∧ p.program = program := by
  cases compiled : compileUnder {} t with
  | error e =>
      rw [compiled] at same
      cases same
  | ok p =>
      rw [compiled] at same
      exact ⟨p, rfl, (eq_of_sameProgram _ _ same).symm⟩

/-! ## Programs without a choice -/

section Runs

variable {s : Subject} {rest body : List Instr} {loops : List Loop} {pos n m least slot : Nat}
  {greatest : Option Nat} {test other : CharTest} {w : Text} {marks : Array (Option Nat)}
  {o : Option State} {value : State → Text} {parsed : Option Text}

/-- With the fuel that is given to them the instructions find the state, or fail if there is none. -/
def Runs (s : Subject) (program : List Instr) (loops : List Loop) (pos : Nat)
    (marks : Array (Option Nat)) : Option State → Prop
  | some found => Finds s (boundOfAll s.size program) program loops pos marks found
  | none => Fails s program loops pos

/-- The instructions fail wherever a character follows that passes the test. -/
def Shuns (s : Subject) (test : CharTest) (program : List Instr) (loops : List Loop) : Prop :=
  ∀ pos, s.passes test pos = true → Fails s program loops pos

/-- The tests accept no character in common. -/
def Apart (test other : CharTest) : Prop := ∀ c, test.accepts c = true → other.accepts c = false

theorem Apart.symm (apart : Apart test other) : Apart other test := by
  intro c accepted
  rw [← Bool.not_eq_true]
  intro passes
  exact Bool.false_ne_true ((apart c passes).symm.trans accepted)

theorem Apart.fails (apart : Apart test other) (passes : s.passes test pos = true) :
    s.passes other pos = false := by
  rw [Subject.passes_eq] at passes ⊢
  cases next : (s.after pos).head? with
  | none => rfl
  | some c =>
      rw [next] at passes
      exact apart c passes

/-! ### What shuns -/

theorem Shuns.mark (shuns : Shuns s test rest loops) : Shuns s test (.mark slot :: rest) loops :=
  fun pos passes => .mark (shuns pos passes)

theorem Shuns.run (apart : Apart test other) :
    Shuns s test (.run .greedy (least + 1) greatest other :: rest) loops := by
  intro pos passes
  have noRound : roundsOf s other greatest pos = 0 := roundsOf_eq_zero (apart.fails passes)
  exact .run fun k atLeast atMost => by omega

theorem Shuns.skip (apart : Apart test other) (shuns : Shuns s test rest loops) :
    Shuns s test (.run .greedy 0 greatest other :: rest) loops := by
  intro pos passes
  have noRound : roundsOf s other greatest pos = 0 := roundsOf_eq_zero (apart.fails passes)
  refine .run fun k _ atMost => ?_
  obtain rfl : k = 0 := by omega
  exact shuns pos passes

theorem Shuns.spelled {c : CodePoint} (rejects : test.accepts c = false) :
    Shuns s test (spelled (c :: w) ++ rest) loops := by
  intro pos passes
  refine .spelled fun starts => ?_
  obtain ⟨t, there⟩ := List.isPrefixOf_iff_prefix.mp starts
  rw [Subject.passes_eq, ← there] at passes
  exact absurd (rejects.symm.trans passes) Bool.false_ne_true

/-! ### What runs -/

/-- A greedy part takes all that it can, if from inside of it nothing is found that is not found behind
it. -/
theorem Runs.run_of_inside (inner : Runs s rest loops (pos + roundsOf s test greatest pos) marks o)
    (inside : ∀ k < roundsOf s test greatest pos, o = none → Fails s rest loops (pos + k)) :
    Runs s (.run .greedy least greatest test :: rest) loops pos marks
      (if least ≤ roundsOf s test greatest pos then o else none) := by
  split
  · next enough =>
    cases o with
    | some found => exact (Finds.run enough inner).mono (Nat.le_of_eq (Nat.add_comm _ 1))
    | none =>
        refine .run fun k _ atMost => ?_
        rcases Nat.lt_or_eq_of_le atMost with isInside | rfl
        · exact inside k isInside rfl
        · exact inner
  · next tooFew => exact .run fun k atLeast atMost => absurd (Nat.le_trans atLeast atMost) tooFew

theorem Runs.run (shuns : Shuns s test rest loops)
    (inner : Runs s rest loops (pos + roundsOf s test greatest pos) marks o) :
    Runs s (.run .greedy least greatest test :: rest) loops pos marks
      (if least ≤ roundsOf s test greatest pos then o else none) :=
  .run_of_inside inner fun _ inside _ => shuns _ (passes_of_lt_count inside)

theorem Runs.mark (inner : Runs s rest loops pos ((State.mk marks pos).setMark slot pos).marks o) :
    Runs s (.mark slot :: rest) loops pos marks o := by
  cases o with
  | some found => exact (Finds.mark inner).mono (Nat.le_of_eq (Nat.add_comm _ 1))
  | none => exact Fails.mark inner

theorem Runs.place {condition : Place} (holds : s.holds pos condition = true)
    (inner : Runs s rest loops pos marks o) : Runs s (.place condition :: rest) loops pos marks o := by
  cases o with
  | some found => exact (Finds.place holds inner).mono (Nat.le_of_eq (Nat.add_comm _ 1))
  | none => exact Fails.place fun _ => inner

theorem Runs.spelled (inner : Runs s rest loops (pos + w.length) marks o) :
    Runs s (spelled w ++ rest) loops pos marks (if (s.after pos).startsWith w then o else none) := by
  split
  · next starts =>
    cases o with
    | some found =>
        refine (Finds.spelled starts inner).mono (Nat.le_of_eq ?_)
        rw [boundOfAll_spelled, Nat.add_comm]
    | none => exact Fails.spelled fun _ => inner
  · next elsewhere => exact Fails.spelled fun starts => absurd starts elsewhere

/-! ### What is read -/

/-- The instructions fail where nothing is read, and else what they find has the value that is read. -/
def Reads (s : Subject) (program : List Instr) (loops : List Loop) (pos : Nat)
    (marks : Array (Option Nat)) (value : State → Text) (parsed : Option Text) : Prop :=
  ∃ o, Runs s program loops pos marks o ∧ o.map value = parsed

theorem Reads.of_finds {found : State} {t : Text} (finds : Finds s n rest loops pos marks found)
    (enough : n ≤ boundOfAll s.size rest) (isValue : value found = t) :
    Reads s rest loops pos marks value (some t) :=
  ⟨some found, finds.mono enough, congrArg some isValue⟩

theorem Reads.mark
    (inner : Reads s rest loops pos ((State.mk marks pos).setMark slot pos).marks value parsed) :
    Reads s (.mark slot :: rest) loops pos marks value parsed := by
  obtain ⟨o, runs, same⟩ := inner
  exact ⟨o, runs.mark, same⟩

theorem Reads.start (inner : Reads s rest loops 0 marks value parsed) :
    Reads s (.place .textStart :: rest) loops 0 marks value parsed := by
  obtain ⟨o, runs, same⟩ := inner
  exact ⟨o, .place rfl runs, same⟩

end Runs

/-! ## Matches at the start of a line -/

/-- What a pattern matches at the start of a line. -/
def matchStart? (p : Pattern) (line : Text) : Option State :=
  match runAt ⟨line.toArray⟩ p.program 0 with
  | (true, found) => some found
  | (false, _) => none

/-- The text of a group in a line. The groups are counted from zero. -/
def State.text? (found : State) (line : Text) (group : Nat) : Option Text :=
  (found.span? group).map fun (start, stop) => (line.drop start).take (stop - start)

/-- What the program reads from the start of a line is the value of what the pattern matches there. -/
theorem map_matchStart? {p : Pattern} {line : Text} {value : State → Text} {parsed : Option Text}
    (reads : Reads ⟨line.toArray⟩ p.program [] 0 #[] value parsed) :
    (p.matchStart? line).map value = parsed := by
  obtain ⟨o, runs, same⟩ := reads
  rw [← same, matchStart?]
  cases o with
  | some found =>
      have ran : runAt ⟨line.toArray⟩ p.program 0 = (true, found) := runs _ _ (Nat.le_succ _)
      rw [ran]
  | none =>
      have failed : (runAt ⟨line.toArray⟩ p.program 0).1 = false := runs _ _
      cases ran : runAt ⟨line.toArray⟩ p.program 0 with
      | mk success found =>
          rw [ran] at failed
          cases failed
          rfl

end NotebookAudit.Pattern

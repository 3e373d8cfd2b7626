import NotebookAudit.Pattern.Basic
import NotebookAudit.Proofs.Text.LetterCase

/-!
Programs that do not see the case of ASCII letters.

A test of characters is blind if it answers alike for a letter and its lower-case form, and a
program is if all tests and references in it are. Every question that the matcher asks about the
subject then has the same answer when the letters of the subject are put into lower case, so that a
run takes the same steps (`step_small`). A pattern with a blind program is found in one of two
recased lines exactly if it is found in the other (`search_recased`).
-/

namespace NotebookAudit.Pattern

/-! ## Tests of characters -/

theorem Fold.apply_asciiLower {fold : Fold} (folds : fold ≠ .exact) (c : CodePoint) :
    fold.apply c.asciiLower = fold.apply c := by
  cases fold with
  | exact => exact absurd rfl folds
  | ascii => exact c.asciiLower_asciiLower
  | unicode => exact c.lower_asciiLower

/-- Case matters for every letter of ASCII. -/
theorem Fold.isCased_of_letter {fold : Fold} (folds : fold ≠ .exact) {c : Nat}
    (letter : CodePoint.isAsciiLetter c = true) : fold.isCased c = true := by
  cases fold with
  | exact => exact absurd rfl folds
  | ascii => exact letter
  | unicode =>
      have each : ∀ d : Nat, d < 128 → CodePoint.isAsciiLetter d = true →
          CodePoint.hasCase d = true := by decide +kernel
      have bounds := CodePoint.isAsciiLetter_iff.mp letter
      exact each c (by omega) letter

/-- Case matters in a range that holds a letter of ASCII. -/
theorem Fold.meetsCased_of_letter {fold : Fold} (folds : fold ≠ .exact) {c lo hi : Nat}
    (letter : CodePoint.isAsciiLetter c = true) (inside : lo ≤ c ∧ c ≤ hi) :
    fold.meetsCased lo hi = true := by
  have bounds := CodePoint.isAsciiLetter_iff.mp letter
  cases fold with
  | exact => exact absurd rfl folds
  | ascii =>
      simp only [meetsCased, Bool.or_eq_true, Bool.and_eq_true, decide_eq_true_eq]
      rcases bounds with capital | small
      · exact .inl ⟨inside.1.trans capital.2, capital.1.trans inside.2⟩
      · exact .inr ⟨inside.1.trans small.2, small.1.trans inside.2⟩
  | unicode =>
      have meets {first last target : Nat} (between : first ≤ c ∧ c ≤ last) :
          (⟨first, last, 1, target⟩ : CaseRun).meets lo hi = true := by
        simp only [CaseRun.meets, Bool.and_eq_true, decide_eq_true_eq, Nat.div_one]
        split <;> omega
      -- the first run of either table is that of the letters of ASCII
      rw [meetsCased, Bool.or_eq_true, List.any_eq_true, List.any_eq_true]
      rcases bounds with capital | small
      · exact .inl ⟨_, .head _, meets capital⟩
      · exact .inr ⟨_, .head _, meets small⟩

theorem CharClass.contains_asciiLower (asciiOnly : Bool) (k : CharClass) (c : CodePoint) :
    k.contains asciiOnly c.asciiLower = k.contains asciiOnly c := by
  cases k <;> cases asciiOnly <;> exact CodePoint.congr_asciiLower c (by decide +kernel)

/-- An item for which a folding does not matter compares letters of ASCII without their case, also
if they are not folded. -/
theorem SetItem.accepts_asciiLower {fold : Fold} (folds : fold ≠ .exact) (asciiOnly : Bool)
    {i : SetItem} (noCase : i.isCased fold = false) (c : CodePoint) :
    i.accepts .exact asciiOnly c.asciiLower = i.accepts .exact asciiOnly c := by
  cases i with
  | ofClass k negated => rw [accepts, accepts, CharClass.contains_asciiLower]
  | literal d =>
      refine CodePoint.congr_asciiLower_of_no_letter
        (p := fun x => (literal d).accepts .exact asciiOnly x) c fun x letter => ?_
      rw [isCased, Bool.or_eq_false_iff] at noCase
      have apart : x ≠ d := by
        rintro rfl
        rw [Fold.isCased_of_letter folds letter] at noCase
        cases noCase.1
      simp [accepts, Fold.equals, Fold.apply, apart]
  | range lo hi =>
      refine CodePoint.congr_asciiLower_of_no_letter
        (p := fun x => (range lo hi).accepts .exact asciiOnly x) c fun x letter => ?_
      rw [isCased, Bool.or_eq_false_iff] at noCase
      by_contra inside
      simp only [accepts, Bool.not_eq_false, Bool.and_eq_true, decide_eq_true_eq] at inside
      rw [Fold.meetsCased_of_letter folds letter inside] at noCase
      cases noCase.1

namespace CharTest

/-- The test does not tell a letter of ASCII from its lower-case form. -/
def IsBlind (t : CharTest) : Prop := ∀ c : CodePoint, t.accepts c.asciiLower = t.accepts c

theorem isBlind_of_folds {t : CharTest} (folds : t.fold ≠ .exact) : t.IsBlind := by
  intro c
  rw [accepts, accepts, Fold.apply_asciiLower folds]

/-- A test without folding is blind if some folding does not matter for its items. -/
theorem isBlind_of_exact {fold : Fold} (folds : fold ≠ .exact) (asciiOnly negated : Bool)
    {items : List SetItem} (noCase : ∀ i ∈ items, i.isCased fold = false) :
    (⟨.exact, asciiOnly, negated, items⟩ : CharTest).IsBlind := by
  intro c
  have same : items.any (SetItem.accepts .exact asciiOnly c.asciiLower) =
      items.any (SetItem.accepts .exact asciiOnly c) := by
    rw [Bool.eq_iff_iff, List.any_eq_true, List.any_eq_true]
    refine exists_congr fun i => and_congr_right fun member => ?_
    rw [SetItem.accepts_asciiLower folds asciiOnly (noCase i member)]
  exact congrArg (· != negated) same

end CharTest

/-! ## Subjects -/

namespace Subject

variable {s : Subject} {t : CharTest}

/-- The subject with the letters of ASCII in lower case. -/
def small (s : Subject) : Subject := ⟨s.chars.map CodePoint.asciiLower⟩

@[simp] theorem small_size : s.small.size = s.size := by simp [small, size]

theorem small_getElem? (pos : Nat) :
    s.small.chars[pos]? = s.chars[pos]?.map CodePoint.asciiLower := by
  simp [small]

theorem small_passes (blind : t.IsBlind) : s.small.passes t = s.passes t := by
  funext pos
  rw [passes, passes, small_getElem?]
  cases s.chars[pos]? with
  | none => rfl
  | some c => exact blind c

@[simp] theorem small_isLineFeed : s.small.isLineFeed = s.isLineFeed := by
  funext pos
  rw [isLineFeed, isLineFeed, small_getElem?]
  cases s.chars[pos]? with
  | none => rfl
  | some c => exact CodePoint.congr_asciiLower (p := fun c => some c == some 0x0a) c (by decide)

@[simp] theorem small_isWord : s.small.isWord = s.isWord := by
  funext asciiOnly pos
  rw [isWord, isWord, small_getElem?]
  cases s.chars[pos]? with
  | none => rfl
  | some c => exact CharClass.contains_asciiLower asciiOnly .word c

@[simp] theorem small_holds : s.small.holds = s.holds := by
  funext pos p
  cases p <;> simp [holds]

theorem small_count (blind : t.IsBlind) : s.small.count t = s.count t := by
  funext pos n
  induction n generalizing pos with
  | zero => rfl
  | succ n ih => rw [count, count, small_passes blind, ih]

theorem small_sameText {fold : Fold} (folds : fold ≠ .exact) :
    s.small.sameText fold = s.sameText fold := by
  funext a b n
  induction n generalizing a b with
  | zero => rfl
  | succ n ih =>
      rw [sameText, sameText, ih, small_getElem?, small_getElem?]
      cases s.chars[a]? with
      | none => rfl
      | some c =>
          cases s.chars[b]? with
          | none => rfl
          | some d => simp only [Option.map_some, Fold.apply_asciiLower folds]

end Subject

@[simp] theorem small_roundsLeft {s : Subject} : roundsLeft s.small = roundsLeft s := by
  funext greatest pos
  cases greatest <;> simp [roundsLeft]

/-! ## Programs -/

/-- All tests and references of an instruction, and of its parts, do not see the case of letters of
ASCII. -/
inductive Instr.IsBlind : Instr → Prop
  | test (shape : Shape) {t : CharTest} (blind : t.IsBlind) : IsBlind (.test shape t)
  | place (p : Place) : IsBlind (.place p)
  | mark (slot : Nat) : IsBlind (.mark slot)
  | leave : IsBlind .leave
  | branch {alternatives : List (List Instr)} (each : ∀ a ∈ alternatives, ∀ i ∈ a, IsBlind i) :
    IsBlind (.branch alternatives)
  | run (greed : Greed) (least : Nat) (greatest : Option Nat) {t : CharTest}
    (blind : t.IsBlind) : IsBlind (.run greed least greatest t)
  | loop (reluctant : Bool) (least : Nat) (greatest : Option Nat) {body : List Instr}
    (blind : ∀ i ∈ body, IsBlind i) : IsBlind (.loop reluctant least greatest body)
  | again : IsBlind .again
  | keep (least : Nat) (greatest : Option Nat) {body : List Instr} (blind : ∀ i ∈ body, IsBlind i) :
    IsBlind (.keep least greatest body)
  | atomic {body : List Instr} (blind : ∀ i ∈ body, IsBlind i) : IsBlind (.atomic body)
  | look (negated : Bool) (back : Nat) {body : List Instr} (blind : ∀ i ∈ body, IsBlind i) :
    IsBlind (.look negated back body)
  | backref {fold : Fold} (folds : fold ≠ .exact) (group : Nat) : IsBlind (.backref fold group)
  | conditional (group : Nat) {yes no : List Instr} (yesBlind : ∀ i ∈ yes, IsBlind i)
    (noBlind : ∀ i ∈ no, IsBlind i) : IsBlind (.conditional group yes no)

/-- The instructions do not see the case of letters of ASCII. -/
def AllBlind (program : List Instr) : Prop := ∀ i ∈ program, i.IsBlind

/-- The body of a loop and what follows it do not see the case of letters of ASCII. -/
structure Loop.IsBlind (l : Loop) : Prop where
  body : AllBlind l.body
  after : AllBlind l.after

theorem AllBlind.append {first second : List Instr} (left : AllBlind first)
    (right : AllBlind second) : AllBlind (first ++ second) :=
  List.forall_mem_append.mpr ⟨left, right⟩

theorem AllBlind.singleton {i : Instr} (blind : i.IsBlind) : AllBlind [i] :=
  List.forall_mem_singleton.mpr blind

theorem AllBlind.of_test {shape : Shape} {t : CharTest} {rest : List Instr}
    (blind : AllBlind (.test shape t :: rest)) : t.IsBlind := by
  cases blind _ List.mem_cons_self with
  | test _ testBlind => exact testBlind

variable {s : Subject} {program rest : List Instr}

theorem Subject.small_mayStart (pos : Nat) (blind : AllBlind program) :
    s.small.mayStart pos program = s.mayStart pos program := by
  unfold mayStart
  split
  · exact congrFun (small_passes blind.of_test) pos
  · exact congrFun (small_passes blind.of_test) pos
  · rfl

theorem small_endsFromLast (pos least n : Nat) (blind : AllBlind rest) :
    endsFromLast s.small pos least n rest = endsFromLast s pos least n rest := by
  unfold endsFromLast
  split
  · rw [Subject.small_passes blind.of_test]
  · rfl

/-! ## The matcher -/

theorem firstSuccess_congr {α : Type} {attempt other : α → State → Outcome} {choices : List α}
    (same : ∀ a ∈ choices, attempt a = other a) :
    firstSuccess attempt choices = firstSuccess other choices := by
  induction choices with
  | nil => rfl
  | cons a others ih =>
      rw [List.forall_mem_cons] at same
      funext st
      rw [firstSuccess, firstSuccess, same.1, ih same.2]

/-- A loop does not become another one by the rounds that it has begun. -/
theorem Loop.IsBlind.of_rounds {l : Loop} (blind : l.IsBlind) (begun : Nat) (last : Option Nat) :
    Loop.IsBlind { l with begun, last } := ⟨blind.body, blind.after⟩

/-- A subject in lower case is matched step by step as the subject is. The functions are equal, not
only their values at one place, since loops and alternatives go on from places that they find. -/
theorem step_small (fuel : Nat) {program : List Instr} {loops : List Loop}
    (blind : AllBlind program) (loopsBlind : ∀ l ∈ loops, l.IsBlind) :
    step s.small fuel program loops = step s fuel program loops := by
  -- on the fuel: each instruction asks the subject one question and goes on with blind instructions
  induction fuel generalizing program loops with
  | zero => rfl
  | succ fuel ih =>
      funext pos st
      cases program with
      | nil => rfl
      | cons i rest =>
          obtain ⟨first, restBlind⟩ := List.forall_mem_cons.mp blind
          have goesOn := ih restBlind loopsBlind
          cases first with
          | test shape testBlind => rw [step, step, Subject.small_passes testBlind, goesOn]
          | place p => rw [step, step, Subject.small_holds, goesOn]
          | mark slot => rw [step, step, goesOn]
          | leave => rw [step, step, goesOn]
          | branch each =>
              have starts := List.filter_congr fun a member =>
                Subject.small_mayStart (s := s) pos (each a member)
              rw [step, step, starts]
              refine congrFun (firstSuccess_congr fun a member => ?_) st
              have inBranch := each a (List.mem_of_mem_filter member)
              rw [ih (AllBlind.append inBranch restBlind) loopsBlind]
          | run greed least greatest testBlind =>
              simp only [step, small_roundsLeft, Subject.small_count testBlind,
                small_endsFromLast _ _ _ restBlind, goesOn]
          | loop reluctant least greatest bodyBlind =>
              have loopBlind : Loop.IsBlind ⟨reluctant, least, greatest, _, rest, 0, none⟩ :=
                ⟨bodyBlind, restBlind⟩
              rw [step, step,
                ih (.singleton .again) (List.forall_mem_cons.mpr ⟨loopBlind, loopsBlind⟩)]
          | again =>
              cases loops with
              | nil => rfl
              | cons l outer =>
                  obtain ⟨loopBlind, outerBlind⟩ := List.forall_mem_cons.mp loopsBlind
                  have round (begun : Nat) (last : Option Nat) :
                      step s.small fuel l.body ({ l with begun, last } :: outer) =
                        step s fuel l.body ({ l with begun, last } :: outer) :=
                    ih loopBlind.body
                      (List.forall_mem_cons.mpr ⟨loopBlind.of_rounds begun last, outerBlind⟩)
                  simp only [step, Loop.next, round, ih loopBlind.after outerBlind]
          | keep least greatest bodyBlind =>
              simp only [step, Subject.small_size, ih bodyBlind loopsBlind, goesOn]
          | atomic bodyBlind => simp only [step, ih bodyBlind loopsBlind, goesOn]
          | look negated back bodyBlind =>
              cases negated <;> simp only [step, ih bodyBlind loopsBlind, goesOn]
          | backref folds group => simp only [step, Subject.small_sameText folds, goesOn]
          | conditional group yesBlind noBlind =>
              simp only [step, ih (AllBlind.append yesBlind restBlind) loopsBlind,
                ih (AllBlind.append noBlind restBlind) loopsBlind]

/-! ## Searches -/

theorem runAt_small (blind : AllBlind program) : runAt s.small program = runAt s program := by
  funext pos
  rw [runAt, runAt, Subject.small_size, step_small _ blind (List.forall_mem_nil _)]

/-- A pattern whose program and whose test of the first character do not see the case of letters of
ASCII. -/
structure IsBlind (p : Pattern) : Prop where
  program : AllBlind p.program
  leading : ∀ t ∈ p.leading?, t.IsBlind

variable {p : Pattern}

theorem starts_small (blind : p.IsBlind) : p.starts s.small = p.starts s := by
  rw [starts, starts, Subject.small_size]
  cases leading : p.leading? with
  | none => rfl
  | some t => simp only [Subject.small_passes (blind.leading t leading)]

theorem search_asciiLower (blind : p.IsBlind) (line : Text) :
    p.search (line.map CodePoint.asciiLower) = p.search line := by
  have small : (⟨(line.map CodePoint.asciiLower).toArray⟩ : Subject) =
      Subject.small ⟨line.toArray⟩ := by
    simp [Subject.small]
  simp only [search, small, starts_small blind, runAt_small blind.program]

/-- A blind pattern is found in one of two lines that differ only in the case of letters of ASCII
exactly if it is found in the other, and so is a group of it that ends before it starts. -/
theorem search_recased (blind : p.IsBlind) {line other : Text} (recased : line.Recased other) :
    p.search line = p.search other := by
  rw [← search_asciiLower blind line, recased, search_asciiLower blind other]

end NotebookAudit.Pattern

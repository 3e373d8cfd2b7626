import NotebookAudit.Proofs.Pattern.LetterCase
import NotebookAudit.Proofs.Pattern.Limits
import NotebookAudit.Proofs.Result

/-!
Patterns in which the case of letters never matters.

A pattern is compiled with `ignoreCase` on, and only a group can turn it off again, for its own
parts. If no group of a pattern does (`mindsCase`), every test and every reference of its program
folds case, so the pattern is blind (`isBlind_of_compile`). The switches of the whole pattern may
turn others on, and `ignoreCase` again, but never off (`read_ignoreCase`).
-/

namespace NotebookAudit.Pattern

/-! ## Groups in which case matters -/

mutual

/-- Whether some group in a part turns `ignoreCase` off. -/
def Node.mindsCase : Node → Bool
  | .leaf _ => false
  | .group _ _ off body => off.ignoreCase || anyMindsCase body
  | .atomic body => anyMindsCase body
  | .branch alternatives => someMindCase alternatives
  | .rounds _ _ _ body => anyMindsCase body
  | .look _ _ body => anyMindsCase body
  | .conditional _ yes no => anyMindsCase yes || anyMindsCase no

/-- Whether some group in one of some parts turns `ignoreCase` off. -/
def anyMindsCase : List Node → Bool
  | [] => false
  | n :: rest => n.mindsCase || anyMindsCase rest

/-- Whether some group in one of some alternatives turns `ignoreCase` off. -/
def someMindCase : List (List Node) → Bool
  | [] => false
  | a :: rest => anyMindsCase a || someMindCase rest

end

/-- Whether some group of a pattern turns `ignoreCase` off. -/
def mindsCase (t : Text) : Bool :=
  match read { ignoreCase := true } t with
  | .ok r => anyMindsCase r.nodes
  | .error _ => false

/-! ## Programs of patterns in which case does not matter -/

namespace Flags

variable {f on off : Flags}

theorem fold_ne_exact (ignores : f.ignoreCase = true) : f.fold ≠ .exact := by
  rw [fold, ignores]
  cases f.ascii <;> decide

theorem within_ignoreCase (ignores : f.ignoreCase = true) (stays : off.ignoreCase = false) :
    (f.within on off).ignoreCase = true := by
  unfold within
  split <;> simp [union, minus, ignores, stays]

theorem compileLeaf_isBlind (ignores : f.ignoreCase = true) (l : Leaf) :
    (f.compileLeaf l).IsBlind := by
  have folds := fold_ne_exact ignores
  cases l with
  | literal | notLiteral | dot | set => exact .test _ (CharTest.isBlind_of_folds folds)
  | anchor a => exact .place _
  | backref group width => exact .backref folds _

end Flags

theorem compileRounds_isBlind (greed : Greed) (least : Nat) (greatest : Option Nat) (isUnit : Bool)
    {body : List Instr} (blind : AllBlind body) :
    (compileRounds greed least greatest isUnit body).IsBlind := by
  unfold compileRounds
  split
  · exact .run _ _ _ blind.of_test
  · cases greed with
    | greedy => exact .loop _ _ _ (blind.append (.singleton .again))
    | reluctant => exact .loop _ _ _ (blind.append (.singleton .again))
    | possessive => exact .keep _ _ blind

mutual

/-- A part in which no group turns `ignoreCase` off is compiled to blind instructions. -/
theorem compileNode_allBlind {f : Flags} (ignores : f.ignoreCase = true) {n : Node}
    (quiet : n.mindsCase = false) {program : List Instr}
    (compiled : compileNode f n = .ok program) : AllBlind program := by
  match n with
  | .leaf l =>
      cases compiled
      exact .singleton (Flags.compileLeaf_isBlind ignores l)
  | .group none on off body =>
      rw [Node.mindsCase, Bool.or_eq_false_iff] at quiet
      exact compileAll_allBlind (Flags.within_ignoreCase ignores quiet.1) quiet.2 compiled
  | .group (some i) on off body =>
      rw [Node.mindsCase, Bool.or_eq_false_iff] at quiet
      obtain ⟨inside, compiledBody, same⟩ := bind_eq_ok_iff.mp compiled
      cases same
      have inner : (f.within on off).ignoreCase = true :=
        Flags.within_ignoreCase ignores quiet.1
      have blind := compileAll_allBlind inner quiet.2 compiledBody
      exact List.forall_mem_cons.mpr ⟨.mark _, blind.append (.singleton (.mark _))⟩
  | .atomic body =>
      rw [Node.mindsCase] at quiet
      obtain ⟨inside, compiledBody, same⟩ := bind_eq_ok_iff.mp compiled
      cases same
      exact .singleton (.atomic (compileAll_allBlind ignores quiet compiledBody))
  | .branch alternatives =>
      rw [Node.mindsCase] at quiet
      obtain ⟨inside, compiledEach, same⟩ := bind_eq_ok_iff.mp compiled
      cases same
      exact .singleton (.branch (compileEach_allBlind ignores quiet compiledEach))
  | .rounds greed least greatest body =>
      rw [Node.mindsCase] at quiet
      rw [compileNode] at compiled
      split at compiled
      · cases compiled
      · obtain ⟨inside, compiledBody, same⟩ := bind_eq_ok_iff.mp compiled
        cases same
        have blind := compileAll_allBlind ignores quiet compiledBody
        exact .singleton (compileRounds_isBlind _ _ _ _ blind)
  | .look behind negated body =>
      rw [Node.mindsCase] at quiet
      obtain ⟨back, -, compiled⟩ := bind_eq_ok_iff.mp compiled
      obtain ⟨inside, compiledBody, same⟩ := bind_eq_ok_iff.mp compiled
      cases same
      exact .singleton (.look _ _ (compileAll_allBlind ignores quiet compiledBody))
  | .conditional group yes [] =>
      rw [Node.mindsCase, Bool.or_eq_false_iff] at quiet
      obtain ⟨ifYes, compiledYes, same⟩ := bind_eq_ok_iff.mp compiled
      cases same
      have yesBlind := compileAll_allBlind ignores quiet.1 compiledYes
      exact .singleton (.conditional _ yesBlind (List.forall_mem_nil _))
  | .conditional group yes (n :: rest) =>
      rw [Node.mindsCase, Bool.or_eq_false_iff] at quiet
      obtain ⟨ifYes, compiledYes, compiled⟩ := bind_eq_ok_iff.mp compiled
      obtain ⟨ifNo, compiledNo, same⟩ := bind_eq_ok_iff.mp compiled
      cases same
      have yesBlind := compileAll_allBlind ignores quiet.1 compiledYes
      have noBlind := compileAll_allBlind ignores quiet.2 compiledNo
      exact .singleton (.conditional _ (yesBlind.append (.singleton .leave)) noBlind)

theorem compileAll_allBlind {f : Flags} (ignores : f.ignoreCase = true) {nodes : List Node}
    (quiet : anyMindsCase nodes = false) {program : List Instr}
    (compiled : compileAll f nodes = .ok program) : AllBlind program := by
  match nodes with
  | [] =>
      cases compiled
      exact List.forall_mem_nil _
  | n :: rest =>
      rw [anyMindsCase, Bool.or_eq_false_iff] at quiet
      obtain ⟨first, compiledFirst, compiled⟩ := bind_eq_ok_iff.mp compiled
      obtain ⟨others, compiledOthers, same⟩ := bind_eq_ok_iff.mp compiled
      cases same
      exact (compileNode_allBlind ignores quiet.1 compiledFirst).append
        (compileAll_allBlind ignores quiet.2 compiledOthers)

theorem compileEach_allBlind {f : Flags} (ignores : f.ignoreCase = true)
    {alternatives : List (List Node)} (quiet : someMindCase alternatives = false)
    {programs : List (List Instr)} (compiled : compileEach f alternatives = .ok programs) :
    ∀ a ∈ programs, AllBlind a := by
  match alternatives with
  | [] =>
      cases compiled
      exact List.forall_mem_nil _
  | a :: rest =>
      rw [someMindCase, Bool.or_eq_false_iff] at quiet
      obtain ⟨first, compiledFirst, compiled⟩ := bind_eq_ok_iff.mp compiled
      obtain ⟨others, compiledOthers, same⟩ := bind_eq_ok_iff.mp compiled
      cases same
      exact List.forall_mem_cons.mpr
        ⟨(compileAll_allBlind ignores quiet.1 compiledFirst).append (.singleton .leave),
          compileEach_allBlind ignores quiet.2 compiledOthers⟩

end

/-! ## The first character -/

/-- The switches at the set with which parts begin are those in front of them, as far as case is
concerned. -/
theorem leadingSet?_ignoreCase {f inner : Flags} (ignores : f.ignoreCase = true) {fuel : Nat}
    {nodes : List Node} (quiet : anyMindsCase nodes = false) {negated : Bool}
    {items : List SetItem} (leads : leadingSet? f fuel nodes = some (inner, negated, items)) :
    inner.ignoreCase = true := by
  fun_induction leadingSet? f fuel nodes with
  | case1 f fuel _ on off body _ ih =>
      rw [anyMindsCase, Node.mindsCase, Bool.or_eq_false_iff, Bool.or_eq_false_iff] at quiet
      exact ih (Flags.within_ignoreCase ignores quiet.1.1) quiet.1.2 leads
  | case2 =>
      cases leads
      exact ignores
  | case3 => cases leads

theorem leadingTest?_isBlind {f : Flags} (ignores : f.ignoreCase = true) {nodes : List Node}
    (quiet : anyMindsCase nodes = false) {t : CharTest} (leads : leadingTest? f nodes = some t) :
    t.IsBlind := by
  unfold leadingTest? at leads
  split at leads
  · cases leads
  · split at leads
    · next inner negated items set =>
      split at leads
      · cases leads
      · next noCase =>
        cases leads
        rw [List.any_eq_true] at noCase
        have folds := Flags.fold_ne_exact (leadingSet?_ignoreCase ignores quiet set)
        refine CharTest.isBlind_of_exact folds _ _ fun i member => ?_
        exact Bool.eq_false_iff.mpr fun isCased => noCase ⟨i, member, isCased⟩
    · cases leads

/-! ## The switches of the whole pattern -/

/-- A step that is put together from two comes to its end as the second does after the first. -/
theorem exists_of_bind {α β : Type} {m : ReadM α} {f : α → ReadM β} {b : β} {s s'' : Reading}
    (ran : (m >>= f) s = .ok (b, s'')) :
    ∃ a s', m s = .ok (a, s') ∧ f a s' = .ok (b, s'') := by
  obtain ⟨⟨a, s'⟩, first, second⟩ := bind_eq_ok_iff.mp ran
  exact ⟨a, s', first, second⟩

/-- A step of reading after which `ignoreCase` is on for the whole pattern if it was on before. -/
def StaysOn {α : Type} (m : ReadM α) : Prop :=
  ∀ s a s', m s = .ok (a, s') → s.flags.ignoreCase = true → s'.flags.ignoreCase = true

namespace StaysOn

variable {α β : Type} {m : ReadM α} {f : α → ReadM β}

/-- A step that leaves the switches as they are leaves this one on. -/
theorem of_plain (plain : Plain m) : StaysOn m := by
  intro s a s' ran ignores
  have outcome := plain s.cursor.tokens s.cursor.tokens s.flags (List.infix_refl _) s
    ⟨List.suffix_refl _, rfl⟩
  rw [ran] at outcome
  exact outcome.2 ▸ ignores

theorem pure (a : α) : StaysOn (pure a : ReadM α) := .of_plain (.pure a)

theorem throw (e : Error) : StaysOn (throw e : ReadM α) := fun _ _ _ ran => nomatch ran

theorem bind (first : StaysOn m) (rest : ∀ a, StaysOn (f a)) : StaysOn (m >>= f) := by
  intro s b s'' ran ignores
  obtain ⟨a, s', ranFirst, ranRest⟩ := exists_of_bind ran
  exact rest a s' b s'' ranRest (first s a s' ranFirst ignores)

theorem ite {c : Prop} [Decidable c] {m' : ReadM α} (yes : StaysOn m) (no : StaysOn m') :
    StaysOn (if c then m else m') := by
  split
  · exact yes
  · exact no

/-- One of two steps may come first. -/
theorem ite_bind {c : Prop} [Decidable c] {m' : ReadM α} (yes : StaysOn m) (no : StaysOn m')
    (rest : ∀ a, StaysOn (f a)) : StaysOn (if c then m >>= f else m' >>= f) :=
  .ite (yes.bind rest) (no.bind rest)

/-- A step that is taken under a condition may come first. -/
theorem guard {c : Prop} [Decidable c] {first : ReadM PUnit} {rest : PUnit → ReadM β}
    (stays : StaysOn first) (goesOn : StaysOn (rest ⟨⟩)) :
    StaysOn (if c then first >>= rest else rest ⟨⟩) :=
  .ite (stays.bind fun _ => goesOn) goesOn

end StaysOn

theorem StaysOn.readFlagsOn (on : Flags) (t : Token) (fuel : Nat) :
    StaysOn (readFlagsOn on t fuel) := by
  induction fuel generalizing on t with
  | zero => exact .pure _
  | succ fuel ih =>
      unfold Pattern.readFlagsOn
      refine .guard (.of_plain (.fail _ _)) (.guard (.of_plain (.fail _ _)) ?_)
      refine .bind (.of_plain .take?) fun next => ?_
      cases next with
      | none => exact .of_plain (.fail _ _)
      | some next => exact .ite (.pure _) (.ite (ih _ _) (.of_plain (.notFlag _ _)))

/-- The letters of switches of the whole pattern turn switches on and none off. -/
theorem StaysOn.readFlags (t : Token) : StaysOn (readFlags t) := by
  have turnOn (on : Flags) :
      StaysOn (modify fun s => { s with flags := s.flags.union on } : ReadM PUnit) := by
    intro s a s' ran ignores
    cases ran
    exact Bool.or_eq_true_iff.mpr (.inl ignores)
  have ends (on off : Flags) : StaysOn (do
      if off.template then fail .globalFlagOff 1
      if on.meets off then fail .flagOnAndOff 1
      return some (on, off)) :=
    .guard (.of_plain (.fail _ _)) (.guard (.of_plain (.fail _ _)) (.pure _))
  unfold Pattern.readFlags
  refine .bind (.of_plain .remaining) fun fuel => .ite_bind (.pure _) (.readFlagsOn _ _ _) ?_
  intro result
  refine .ite (.bind (turnOn _) fun _ => .pure _) (.guard (.of_plain (.fail _ _)) (.ite ?_ ?_))
  · refine .bind (.of_plain .take?) fun first => ?_
    cases first with
    | none => exact .bind (.of_plain (.fail _ _)) (ends _)
    | some first =>
        exact .ite_bind (.of_plain (.readFlagsOff _ _ _)) (.of_plain (.notFlag _ _)) (ends _)
  · exact .bind (.pure _) (ends _)

theorem StaysOn.readOpening (start : Nat) : StaysOn (readOpening start) := by
  refine .bind (.of_plain (.accept _)) fun _ => .ite (.pure _) ?_
  refine .bind (.of_plain .take?) fun next => ?_
  cases next with
  | none => exact .of_plain (.fail _ _)
  | some t =>
      refine .ite (.of_plain .readNamed) (.ite (.pure _) (.ite ?_ (.ite (.pure _)
        (.ite (.pure _) (.ite ?_ (.ite ?_ (.ite (.pure _) (.ite ?_ ?_))))))))
      · exact .of_plain (.bind .remaining fun _ => .bind (.skipComment _ _) fun _ => .pure _)
      · refine .bind (.of_plain .take?) fun next => ?_
        cases next with
        | none => exact .of_plain (.fail _ _)
        | some d => exact .ite (.pure _) (.ite (.pure _) (.of_plain (.fail _ _)))
      · exact .of_plain (.bind .readCondition fun _ => .pure _)
      · refine .bind (.readFlags t) fun switches => ?_
        cases switches with
        | none => exact .pure _
        | some switches => exact .pure _
      · exact .of_plain (.fail _ _)

/-! ## Alternatives and sequences -/

/-- The four functions that read alternatives and sequences leave `ignoreCase` on, with some fuel.
-/
structure AllStayOn (fuel : Nat) : Prop where
  alternatives : ∀ verbose depth, StaysOn (readAlternatives fuel verbose depth)
  more : ∀ verbose depth, StaysOn (readMore fuel verbose depth)
  sequence : ∀ verbose depth isFirst done, StaysOn (readSequence fuel verbose depth isFirst done)
  contents : ∀ verbose depth start opening,
    StaysOn (readContents fuel verbose depth start opening)

section Succ

variable {fuel : Nat} (stay : AllStayOn fuel)

include stay

theorem AllStayOn.alternatives_succ (verbose : Bool) (depth : Nat) :
    StaysOn (readAlternatives (fuel + 1) verbose depth) := by
  rw [readAlternatives]
  refine .guard (.throw _) (.bind (stay.sequence _ _ _ _) fun first => ?_)
  exact .bind (stay.more _ _) fun _ => .pure _

theorem AllStayOn.more_succ (verbose : Bool) (depth : Nat) :
    StaysOn (readMore (fuel + 1) verbose depth) := by
  rw [readMore]
  refine .bind (.of_plain (.accept _)) fun _ => .ite ?_ (.pure _)
  refine .bind (.of_plain .get) fun _ => .bind (stay.sequence _ _ _ _) fun _ => ?_
  exact .bind (stay.more _ _) fun _ => .pure _

theorem AllStayOn.sequence_succ (verbose : Bool) (depth : Nat) (isFirst : Bool)
    (done : List Node) : StaysOn (readSequence (fuel + 1) verbose depth isFirst done) := by
  have again (verbose isFirst : Bool) (done : List Node) :
      StaysOn (readSequence fuel verbose depth isFirst done) :=
    stay.sequence verbose depth isFirst done
  rw [readSequence]
  refine .bind (.of_plain .peek) fun next => ?_
  cases next with
  | none => exact .pure _
  | some t =>
      refine .ite (.pure _) (.bind (.of_plain .take?) fun _ => .ite (again _ _ _) (.ite ?_ ?_))
      · refine .bind (.of_plain .remaining) fun _ => ?_
        exact .bind (.of_plain (.skipLine _)) fun _ => again _ _ _
      refine .ite (.bind (.of_plain (.readEscape t)) fun _ => again _ _ _) ?_
      refine .ite (.bind (.of_plain (.readSet _)) fun _ => again _ _ _) ?_
      refine .ite (.bind (.of_plain (.readRounds? t)) fun rounds => ?_) ?_
      · cases rounds with
        | none => exact again _ _ _
        | some bounds => exact .bind (.of_plain (.repeatLast _ _ _ _)) fun _ => again _ _ _
      refine .ite (again _ _ _) (.ite (again _ _ _) (.ite (again _ _ _) (.ite ?_ (again _ _ _))))
      refine .bind (.readOpening t.position) fun opening => ?_
      cases opening with
      | nothing => exact again _ _ _
      | globalFlags =>
          exact .guard (.of_plain (.refuse _)) (.bind (.of_plain .get) fun _ => again _ _ _)
      | backref l => exact again _ _ _
      | capture | plain | atomic | look | conditional =>
          exact .bind (stay.contents _ _ _ _) fun _ => again _ _ _

theorem AllStayOn.contents_succ (verbose : Bool) (depth start : Nat) (opening : Opening) :
    StaysOn (readContents (fuel + 1) verbose depth start opening) := by
  have closes (n : Node) : StaysOn (do
      closeParenthesis start
      return n) := .of_plain (.bind (.closeParenthesis _) fun _ => .pure _)
  unfold readContents
  cases opening with
  | look behind negated =>
      refine .bind (.of_plain .get) fun _ => ?_
      refine .guard (.of_plain (.modify (fun _ => rfl) fun _ => rfl)) ?_
      refine .bind (stay.alternatives _ _) fun body => ?_
      exact .guard (.of_plain (.modify (fun _ => rfl) fun _ => rfl)) (closes _)
  | conditional group =>
      refine .bind (stay.sequence _ _ _ _) fun yes => .bind (.of_plain (.accept _)) fun _ => ?_
      refine .ite (.bind (stay.sequence _ _ _ _) fun no => ?_) (.bind (.pure _) fun _ => closes _)
      refine .bind (.of_plain .peek) fun _ => .guard (.of_plain (.fail _ _)) ?_
      exact .bind (.pure _) fun _ => closes _
  | capture name? =>
      refine .bind (.of_plain (.openGroup _)) fun group => ?_
      refine .bind (stay.alternatives _ _) fun body => .of_plain ?_
      exact .bind (.closeParenthesis _) fun _ => .bind (.closeGroup _ _) fun _ => .pure _
  | plain on off => exact .bind (stay.alternatives _ _) fun body => closes _
  | nothing | globalFlags | backref | atomic =>
      exact .bind (stay.alternatives _ _) fun body => closes _

end Succ

theorem allStayOn (fuel : Nat) : AllStayOn fuel := by
  induction fuel with
  | zero =>
      constructor
      · intro verbose depth
        rw [readAlternatives]
        exact .throw _
      · intro verbose depth
        rw [readMore]
        exact .throw _
      · intro verbose depth isFirst done
        rw [readSequence]
        exact .throw _
      · intro verbose depth start opening
        unfold readContents
        exact .throw _
  | succ fuel ih =>
      exact ⟨ih.alternatives_succ, ih.more_succ, ih.sequence_succ, ih.contents_succ⟩

/-! ## Whole patterns -/

/-- The switches of a pattern that is read are those at the end of its reading. -/
theorem readAll_ignoreCase {fuel : Nat} {flags : Flags} {s s' : Reading} {r : Reading.Result}
    (ran : readAll fuel flags s = .ok (r, s')) (ignores : s.flags.ignoreCase = true) :
    r.flags.ignoreCase = true := by
  unfold readAll at ran
  obtain ⟨nodes, middle, ranNodes, ran⟩ := exists_of_bind ran
  have on : middle.flags.ignoreCase = true :=
    (allStayOn fuel).alternatives _ _ s nodes middle ranNodes ignores
  obtain ⟨got, same, isGet, ran⟩ := exists_of_bind ran
  cases isGet
  dsimp only at ran
  split at ran
  · obtain ⟨_, _, stopped, -⟩ := exists_of_bind ran
    cases stopped
  · split at ran
    · obtain ⟨_, _, stopped, -⟩ := exists_of_bind ran
      cases stopped
    · obtain ⟨_, _, -, ran⟩ := exists_of_bind ran
      cases ran
      exact on

theorem read_ignoreCase {t : Text} {r : Reading.Result}
    (isRead : read { ignoreCase := true } t = .ok r) : r.flags.ignoreCase = true := by
  obtain ⟨cursor, -, outcome⟩ := bind_eq_ok_iff.mp isRead
  change (readAll _ _ _).map Prod.fst = .ok r at outcome
  obtain ⟨⟨result, last⟩, ran, rfl⟩ := map_eq_ok_iff.mp outcome
  exact readAll_ignoreCase ran rfl

/-- A pattern in which no group turns `ignoreCase` off is blind. -/
theorem isBlind_of_compile {t : Text} {p : Pattern} (compiled : compile t = .ok p)
    (quiet : mindsCase t = false) : p.IsBlind := by
  obtain ⟨r, isRead, compiled⟩ := bind_eq_ok_iff.mp compiled
  obtain ⟨program, compiledAll, same⟩ := bind_eq_ok_iff.mp compiled
  cases same
  rw [mindsCase, isRead] at quiet
  have ignores := read_ignoreCase isRead
  exact ⟨compileAll_allBlind ignores quiet (mapError_eq_ok_iff.mp compiledAll),
    fun t leads => leadingTest?_isBlind ignores quiet leads⟩

end NotebookAudit.Pattern

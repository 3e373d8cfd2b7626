import NotebookAudit.Proofs.Pattern.Recognition
import NotebookAudit.Proofs.Symbol.LineGrammar

/-!
The forms of a declaration as patterns.

The start of a line is read by taking words, blanks and identifiers one after another, and the pattern
of a declaration matches them one after another. Each piece has one lemma on what the program does with
it (`Reads.word`, `Reads.someBlanks`, `Reads.identifier`, …). So the line declares the symbol that the
groups of the pattern give (`Declaration.importedSymbol?_eq_match`,
`Declaration.widgetSymbol?_eq_match`).
-/

namespace NotebookAudit

open Pattern

namespace Pattern

/-! ## Classes of characters -/

/-- The test `\s`. -/
def blankTest : CharTest := ⟨.exact, false, false, [.ofClass .blank false]⟩

/-- The test `[A-Za-z0-9_]`. -/
def identifierTest : CharTest :=
  ⟨.exact, false, false, [.range 0x41 0x5a, .range 0x61 0x7a, .range 0x30 0x39, .literal 0x5f]⟩

/-- The test `[A-Za-z0-9_.]`. -/
def moduleTest : CharTest :=
  ⟨.exact, false, false,
    [.range 0x41 0x5a, .range 0x61 0x7a, .range 0x30 0x39, .literal 0x5f, .literal 0x2e]⟩

theorem accepts_blankTest (c : CodePoint) : blankTest.accepts c = c.isBlank := by
  simp [blankTest, CharTest.accepts, SetItem.accepts, Fold.apply, CharClass.contains]

theorem accepts_identifierTest (c : CodePoint) : identifierTest.accepts c = c.isAsciiWord := by
  rw [Bool.eq_iff_iff]
  simp [identifierTest, CharTest.accepts, SetItem.accepts, Fold.apply, Fold.equals, lastBasic,
    CodePoint.isAsciiWord]
  tauto

theorem accepts_moduleTest (c : CodePoint) : moduleTest.accepts c = Declaration.isModuleChar c := by
  rw [Bool.eq_iff_iff]
  simp [moduleTest, CharTest.accepts, SetItem.accepts, Fold.apply, Fold.equals, lastBasic,
    Declaration.isModuleChar, CodePoint.isAsciiWord]
  tauto

/-! ## What is taken from the start of a text -/

section Pieces

variable {s : Subject} {rest : List Instr} {loops : List Loop} {pos : Nat} {marks : Array (Option Nat)}
  {value : State → Text} {parsed : Option Text}

theorem roundsOf_eq (s : Subject) (test : CharTest) (pos : Nat) :
    roundsOf s test none pos = ((s.after pos).takeWhile test.accepts).length := by
  rw [roundsOf, Subject.count_eq, roundsLeft, ← Subject.length_after, List.take_length]

theorem after_roundsOf (s : Subject) (test : CharTest) (pos : Nat) :
    s.after (pos + roundsOf s test none pos) = (s.after pos).dropWhile test.accepts := by
  rw [Subject.after_add, roundsOf_eq, drop_length_takeWhile]

theorem after_blanks (s : Subject) (pos : Nat) :
    s.after (pos + roundsOf s blankTest none pos) = (s.after pos).trimStart := by
  rw [after_roundsOf, Text.trimStart, funext accepts_blankTest]

/-- The word that must follow. -/
theorem Reads.word {f : Text → Option Text} (w : Text)
    (inner : Reads s rest loops (pos + w.length) marks value (f (s.after (pos + w.length)))) :
    Reads s (spelled w ++ rest) loops pos marks value
      (Declaration.takeWord? w (s.after pos) >>= f) := by
  obtain ⟨o, runs, same⟩ := inner
  refine ⟨_, runs.spelled, ?_⟩
  rw [Declaration.takeWord?]
  split
  · rw [same, Subject.after_add]
    rfl
  · rfl

/-- Blanks that may follow. -/
theorem Reads.blanks (shuns : Shuns s blankTest rest loops)
    (inner : Reads s rest loops (pos + roundsOf s blankTest none pos) marks value parsed) :
    Reads s (.run .greedy 0 none blankTest :: rest) loops pos marks value parsed := by
  obtain ⟨o, runs, same⟩ := inner
  have taken : Runs s (.run .greedy 0 none blankTest :: rest) loops pos marks _ := .run shuns runs
  rw [if_pos (Nat.zero_le _)] at taken
  exact ⟨o, taken, same⟩

theorem takeBlanks?_after (s : Subject) (pos : Nat) :
    Declaration.takeBlanks? (s.after pos) =
      if 1 ≤ roundsOf s blankTest none pos then
        some (s.after (pos + roundsOf s blankTest none pos)) else none := by
  rw [after_blanks, roundsOf_eq, funext accepts_blankTest]
  cases s.after pos with
  | nil => rfl
  | cons c t =>
      rw [Declaration.takeBlanks?]
      cases isBlank : c.isBlank <;> simp [isBlank, Text.trimStart]

/-- One blank or more that must follow. -/
theorem Reads.someBlanks {f : Text → Option Text} (shuns : Shuns s blankTest rest loops)
    (inner : Reads s rest loops (pos + roundsOf s blankTest none pos) marks value
      (f (s.after (pos + roundsOf s blankTest none pos)))) :
    Reads s (.run .greedy 1 none blankTest :: rest) loops pos marks value
      (Declaration.takeBlanks? (s.after pos) >>= f) := by
  obtain ⟨o, runs, same⟩ := inner
  refine ⟨_, .run shuns runs, ?_⟩
  rw [takeBlanks?_after]
  split
  · exact same
  · rfl

/-- The identifier that must follow. Where what comes after it is read whatever it is, no character of it
is given back. -/
theorem Reads.identifier {f : Text × Text → Option Text}
    (shuns : ∀ taken, f taken = none → Shuns s identifierTest rest loops)
    (inner : ∀ id, id = (s.after pos).takeWhile (·.isAsciiWord) →
      Reads s rest loops (pos + id.length) marks value (f (id, s.after (pos + id.length)))) :
    Reads s (.run .greedy 1 none identifierTest :: rest) loops pos marks value
      (Declaration.takeIdentifier? (s.after pos) >>= f) := by
  have rounds :
      roundsOf s identifierTest none pos = ((s.after pos).takeWhile (·.isAsciiWord)).length := by
    rw [roundsOf_eq, funext accepts_identifierTest]
  rw [Declaration.takeIdentifier?]
  split
  · next noId =>
    refine ⟨none, ?_, rfl⟩
    refine Fails.run fun k atLeast atMost => ?_
    rw [rounds, noId] at atMost
    exact absurd (Nat.le_trans atLeast atMost) (Nat.not_succ_le_zero 0)
  · next nonempty =>
    obtain ⟨o, runs, same⟩ := inner _ rfl
    rw [← rounds] at runs
    have inside {k : Nat} (isInside : k < roundsOf s identifierTest none pos) (noMore : o = none) :
        Fails s rest loops (pos + k) := by
      rw [noMore] at same
      exact shuns _ same.symm _ (passes_of_lt_count isInside)
    refine ⟨_, .run_of_inside runs fun k isInside => inside isInside, ?_⟩
    rw [if_pos (rounds ▸ List.length_pos_iff.mpr nonempty), same, Subject.after_add]
    rfl

end Pieces

/-! ## A new name -/

theorem apart_identifier_blank : Apart identifierTest blankTest := by
  intro c isAscii
  rw [accepts_identifierTest] at isAscii
  rw [accepts_blankTest]
  exact CodePoint.isBlank_of_isAsciiWord isAscii

section Loops

variable {s : Subject} {rest : List Instr} {loops outer : List Loop} {pos begun : Nat}
  {last : Option Nat} {marks : Array (Option Nat)} {value : State → Text}

/-- The part `\s+as\s+([A-Za-z0-9_]+)`, as the body of a loop. -/
def aliasBody : List Instr :=
  .run .greedy 1 none blankTest :: (spelled "as" ++ (.run .greedy 1 none blankTest :: .mark 2 ::
    .run .greedy 1 none identifierTest :: .mark 3 :: [.again]))

/-- The groups with the second group set. -/
def withAlias (marks : Array (Option Nat)) (start stop : Nat) : Array (Option Nat) :=
  ((State.mk ((State.mk marks start).setMark 2 start).marks stop).setMark 3 stop).marks

/-- The fuel of a loop is enough for a round. -/
theorem boundOfAll_lt_loop (n least : Nat) (greatest : Option Nat) (body : List Instr) :
    boundOfAll n body + 2 < boundOfAll n [.loop false least greatest body] := by
  have rounds := Nat.le_mul_of_pos_left (boundOfAll n body + 2) (by omega : 0 < least + n + 3)
  simp only [boundOfAll, Instr.bound]
  omega

/-- A new name is read in a round of the loop, after which the loop ends. -/
theorem reads_aliasBody
    (named : ∀ start id, id = (s.after start).takeWhile (·.isAsciiWord) →
      value ⟨withAlias marks start (start + id.length), start + id.length⟩ = id) :
    Reads s aliasBody [⟨false, 0, some 1, aliasBody, [], 1, last⟩] pos marks value
      (Declaration.alias? (s.after pos)) := by
  refine .someBlanks (.spelled rfl) (.word _ (.someBlanks ?_ (.mark (.identifier ?_ fun id isId =>
    .mark (.of_finds (.endLoop rfl (Nat.zero_le _) (fun mayGoOn => ?_) .nil) (Nat.le_refl 2) ?_)))))
  · exact .mark (.run apart_identifier_blank.symm)
  · intro taken noName
    cases noName
  · cases mayGoOn
  · exact named _ _ isId

/-- The loop of a new name finds the name if there is one, and else it ends where it has begun. -/
theorem reads_alias {t : Text}
    (named : ∀ start id, id = (s.after start).takeWhile (·.isAsciiWord) →
      value ⟨withAlias marks start (start + id.length), start + id.length⟩ = id)
    (unnamed : value ⟨marks, pos⟩ = t) :
    Reads s [.loop false 0 (some 1) aliasBody] [] pos marks value
      (some ((Declaration.alias? (s.after pos)).getD t)) := by
  have body : Reads s aliasBody [⟨false, 0, some 1, aliasBody, [], 1, some pos⟩] pos marks value
      (Declaration.alias? (s.after pos)) := reads_aliasBody named
  obtain ⟨o, runs, same⟩ := body
  have enough := boundOfAll_lt_loop s.size 0 (some 1) aliasBody
  rw [← same]
  cases o with
  | some found =>
      exact .of_finds (.loop (.round rfl (Nat.le_refl 0) rfl runs)) (Nat.le_of_lt enough) rfl
  | none =>
      have ends : Finds s 3 [.loop false 0 (some 1) aliasBody] [] pos marks ⟨marks, pos⟩ :=
        .loop (.endLoop rfl (Nat.le_refl 0) (fun _ => runs) .nil)
      exact .of_finds ends (by omega) unnamed

/-! ## Qualifiers -/

/-- The part `\.[A-Za-z0-9_]+`, as the body of a loop. -/
def qualifierBody : List Instr := spelled "." ++ [.run .greedy 1 none identifierTest, .again]

theorem mayGoOn_of_moved (moved : last ≠ some pos) :
    (⟨false, 0, none, qualifierBody, rest, begun, last⟩ : Loop).mayGoOn pos = true := by
  rw [Loop.mayGoOn, Bool.true_and, bne_iff_ne]
  exact moved

/-- No qualifier is matched where no dot and identifier stand. -/
theorem fails_qualifier
    (missing : ∀ c t, s.after pos = 0x2e :: c :: t → c.isAsciiWord = false) :
    Fails s qualifierBody loops pos := by
  refine .spelled fun starts => ?_
  obtain ⟨t, there⟩ := List.isPrefixOf_iff_prefix.mp starts
  have second : s.after (pos + 1) = t := Subject.after_succ there.symm
  have noIdentifier : s.passes identifierTest (pos + 1) = false := by
    rw [Subject.passes_eq, second]
    cases t with
    | nil => rfl
    | cons c t => exact (accepts_identifierTest c).trans (missing c t there.symm)
  have noRound : roundsOf s identifierTest none (pos + 1) = 0 := roundsOf_eq_zero noIdentifier
  refine .run fun k atLeast atMost => ?_
  have atMost : k ≤ roundsOf s identifierTest none (pos + 1) := atMost
  omega

theorem finds_noQualifier {n : Nat} {found : State}
    (missing : ∀ c t, s.after pos = 0x2e :: c :: t → c.isAsciiWord = false)
    (follows : Finds s n rest outer pos marks found) :
    Finds s (n + 1) [.again] (⟨false, 0, none, qualifierBody, rest, begun, last⟩ :: outer) pos marks
      found :=
  .endLoop rfl (Nat.zero_le _) (fun _ => fails_qualifier missing) follows

/-- The loop of the qualifiers goes on behind them. -/
theorem finds_qualifiers (t : Text) (there : s.after pos = t) (moved : last ≠ some pos) :
    ∃ stop, pos ≤ stop ∧ s.after stop = Declaration.dropQualifiers t ∧
      (stop = pos ∨ t.head? = some 0x2e) ∧ ∀ n found, Finds s n rest outer stop marks found →
        Finds s (n + 3 * t.length + 1) [.again]
          (⟨false, 0, none, qualifierBody, rest, begun, last⟩ :: outer) pos marks found := by
  induction t using Declaration.dropQualifiers.induct generalizing pos begun last with
  | case1 c t isWord ih =>
      have starts : (s.after pos).startsWith "." = true := by
        rw [there]
        rfl
      have second : s.after (pos + 1) = c :: t := Subject.after_succ there
      have rounds :
          roundsOf s identifierTest none (pos + 1) = (t.takeWhile (·.isAsciiWord)).length + 1 := by
        rw [roundsOf_eq, second, funext accepts_identifierTest, List.takeWhile_cons_of_pos isWord,
          List.length_cons]
      have third : s.after (pos + 1 + roundsOf s identifierTest none (pos + 1)) =
          t.dropWhile (·.isAsciiWord) := by
        rw [after_roundsOf, second, funext accepts_identifierTest, List.dropWhile_cons_of_pos isWord]
      have onward : some pos ≠ some (pos + 1 + roundsOf s identifierTest none (pos + 1)) := by
        rw [Ne, Option.some.injEq]
        omega
      obtain ⟨stop, le, rest, -, finds⟩ := @ih _ (begun + 1) _ third onward
      refine ⟨stop, by omega, ?_, .inr rfl, fun n found follows => ?_⟩
      · rw [Declaration.dropQualifiers, if_pos isWord]
        exact rest
      · have enough : 1 ≤ roundsOf s identifierTest none (pos + 1) := rounds ▸ Nat.succ_pos _
        have body := Finds.spelled starts (.run enough (finds n found follows))
        have shorter := (List.dropWhile_sublist (fun x : CodePoint => x.isAsciiWord) (l := t)).length_le
        refine (Finds.round rfl (Nat.zero_le _) (mayGoOn_of_moved moved) body).mono ?_
        show n + 3 * _ + 1 + 1 + 1 + 1 ≤ n + 3 * (t.length + 1 + 1) + 1
        omega
  | case2 c t noWord =>
      refine ⟨pos, Nat.le_refl pos, ?_, .inl rfl, fun n found follows => ?_⟩
      · rw [Declaration.dropQualifiers, if_neg noWord, there]
      · refine (finds_noQualifier (fun d t' same => ?_) follows).mono (by omega)
        cases there.symm.trans same
        exact Bool.eq_false_iff.mpr noWord
  | case3 t other =>
      refine ⟨pos, Nat.le_refl pos, ?_, .inl rfl, fun n found follows => ?_⟩
      · rw [there, Declaration.dropQualifiers]
        exact other
      · refine (finds_noQualifier (fun d t' same => ?_) follows).mono (by omega)
        exact absurd (there.symm.trans same) (other d t')

end Loops

/-- The symbol of an import that is matched: the second group, or else the first up to its first dot. -/
def symbolOf (line : Text) (found : State) : Text :=
  (found.text? line 1).getD (((found.text? line 0).getD []).takeWhile (· != 0x2e))

theorem withAlias_eq (a b c d : Nat) :
    withAlias #[some a, some b] c d = #[some a, some b, some c, some d] := by
  simp [withAlias, State.setMark]

theorem groups_eq (a b : Nat) :
    ((State.mk ((State.mk #[] a).setMark 0 a).marks b).setMark 1 b).marks = #[some a, some b] := by
  simp [State.setMark]

section Groups

variable {line id : Text} {a b start stop cursor : Nat}

theorem take_takeWhile (isId : id = (line.drop start).takeWhile (·.isAsciiWord)) :
    (line.drop start).take id.length = id := by
  rw [isId]
  exact (List.prefix_iff_eq_take.mp (List.takeWhile_prefix _)).symm

theorem span?_of_le {marks : Array (Option Nat)} {group : Nat}
    (first : marks[2 * group]? = some (some a))
    (second : marks[2 * group + 1]? = some (some b)) (le : a ≤ b) :
    (State.mk marks cursor).span? group = some (a, b) := by
  rw [State.span?]
  dsimp only
  rw [first, second]
  exact if_pos le

theorem symbolOf_alias (isId : id = (line.drop start).takeWhile (·.isAsciiWord)) :
    symbolOf line ⟨withAlias #[some a, some b] start (start + id.length), cursor⟩ = id := by
  rw [withAlias_eq, symbolOf, State.text?, span?_of_le rfl rfl (Nat.le_add_right _ _)]
  show ((line.drop start).take (start + id.length - start)) = id
  rw [Nat.add_sub_cancel_left, take_takeWhile isId]

/-- The first group up to its first dot is the identifier at its start. -/
theorem symbolOf_name (isId : id = (line.drop start).takeWhile (·.isAsciiWord))
    (le : start + id.length ≤ stop)
    (isDot : stop = start + id.length ∨ (line.drop (start + id.length)).head? = some 0x2e) :
    symbolOf line ⟨#[some start, some stop], cursor⟩ = id := by
  have noDot : ∀ c ∈ id, (c != 0x2e) = true := by
    intro c member
    rw [isId] at member
    have isWord := List.mem_takeWhile_imp member
    rw [bne_iff_ne]
    rintro rfl
    cases isWord
  have text : (line.drop start).take (stop - start) =
      id ++ (line.drop (start + id.length)).take (stop - (start + id.length)) := by
    have length : stop - start = id.length + (stop - (start + id.length)) := by omega
    rw [length, List.take_add, take_takeWhile isId, List.drop_drop]
  have noSecond : (State.mk #[some start, some stop] cursor).span? 1 = none := rfl
  rw [symbolOf, State.text?, State.text?, noSecond, span?_of_le rfl rfl (by omega)]
  show ((line.drop start).take (stop - start)).takeWhile (· != 0x2e) = id
  rw [text, List.takeWhile_append_of_pos noDot]
  rcases isDot with rfl | isDot
  · rw [Nat.sub_self, List.take_zero, List.takeWhile_nil, List.append_nil]
  · obtain ⟨rest, there⟩ := List.head?_eq_some_iff.mp isDot
    rw [there]
    cases stop - (start + id.length) with
    | zero => exact List.append_nil id
    | succ n => exact List.append_nil id

end Groups

/-! ## Imports -/

/-- The pattern of an import. -/
def importExpression : Text :=
  "^\\s*import\\s+([A-Za-z0-9_]+(?:\\.[A-Za-z0-9_]+)*)(?:\\s+as\\s+([A-Za-z0-9_]+))?"

/-- Its program. -/
def importProgram : List Instr :=
  .place .textStart :: .run .greedy 0 none blankTest :: (spelled "import" ++
    (.run .greedy 1 none blankTest :: .mark 0 :: .run .greedy 1 none identifierTest ::
      .loop false 0 none qualifierBody :: .mark 1 :: [.loop false 0 (some 1) aliasBody]))

theorem compileUnder_importExpression :
    ∃ p, compileUnder {} importExpression = .ok p ∧ p.program = importProgram :=
  exists_compileUnder (by decide +kernel)

theorem spelled_shuns_blanks {s : Subject} {rest : List Instr} {loops : List Loop} {c : CodePoint}
    {w : Text} (noBlank : c.isBlank = false) : Shuns s blankTest (spelled (c :: w) ++ rest) loops :=
  .spelled ((accepts_blankTest c).trans noBlank)

theorem boundOfAll_qualifiers (n : Nat) (rest : List Instr) :
    boundOfAll n (.loop false 0 none qualifierBody :: rest) = (n + 3) * 6 + 2 + boundOfAll n rest := by
  rw [boundOfAll, Instr.bound, Nat.zero_add, qualifierBody, boundOfAll_spelled]
  rfl

/-- Behind the identifier at the start of a name its qualifiers and a new name are matched. -/
theorem reads_qualifiedName {line id : Text} {start : Nat}
    (isId : id = (line.drop start).takeWhile (·.isAsciiWord)) :
    Reads ⟨line.toArray⟩
      [.loop false 0 none qualifierBody, .mark 1, .loop false 0 (some 1) aliasBody] []
      (start + id.length) ((State.mk #[] start).setMark 0 start).marks (symbolOf line)
      (some ((Declaration.alias?
        (Declaration.dropQualifiers (line.drop (start + id.length)))).getD id)) := by
  let s : Subject := ⟨line.toArray⟩
  have shorter : (line.drop (start + id.length)).length ≤ line.length :=
    (List.drop_sublist _ _).length_le
  obtain ⟨stop, le, there, isDot, finds⟩ := finds_qualifiers (s := s)
    (line.drop (start + id.length)) rfl (Option.some_ne_none (start + id.length)).symm
  have isName : symbolOf line ⟨#[some start, some stop], stop⟩ = id := symbolOf_name isId le isDot
  obtain ⟨o, runs, same⟩ := reads_alias (s := s) (fun _ _ isAlias => symbolOf_alias isAlias) isName
  obtain ⟨found, rfl, isSymbol⟩ := Option.map_eq_some_iff.mp same
  rw [← groups_eq] at runs
  refine .of_finds (.loop (finds _ _ (.mark runs))) ?_ ?_
  · rw [boundOfAll_qualifiers]
    show _ ≤ (line.length + 3) * 6 + 2 + (1 + boundOfAll s.size _)
    omega
  · rw [isSymbol, there]

/-- From the start of a line the program of an import reads the symbol that is imported. -/
theorem reads_importProgram (line : Text) :
    Reads ⟨line.toArray⟩ importProgram [] 0 #[] (symbolOf line) (Declaration.importSymbol? line) := by
  let s : Subject := ⟨line.toArray⟩
  have begins : line.trimStart = s.after (0 + roundsOf s blankTest none 0) := (after_blanks s 0).symm
  rw [Declaration.importSymbol?, begins]
  refine .start (.blanks (spelled_shuns_blanks rfl) (.word _ (.someBlanks ?_ (.mark (.identifier ?_
    fun id isId => reads_qualifiedName isId)))))
  · exact .mark (.run apart_identifier_blank.symm)
  · intro taken noName
    cases noName

/-! ## Imports from a module -/

/-- The test for an opening parenthesis. -/
def parenthesisTest : CharTest := Flags.literalTest {} false 0x28

section Modules

variable {s : Subject} {rest : List Instr} {loops : List Loop} {pos k : Nat}
  {marks : Array (Option Nat)} {value : State → Text}

theorem apart_module_blank : Apart moduleTest blankTest := by
  intro c isModule
  rw [accepts_moduleTest] at isModule
  rw [accepts_blankTest]
  exact Declaration.isBlank_of_isModuleChar isModule

/-- The text after the name of a module. -/
def takeModule? (t : Text) : Option Text :=
  if t.takeWhile Declaration.isModuleChar = [] then none
  else some (t.dropWhile Declaration.isModuleChar)

/-- The text after one or more blanks, a parenthesis if one follows, and blanks. -/
def takeOpening? (t : Text) : Option Text :=
  Declaration.takeBlanks? t >>= fun t => some ((Declaration.takeWord? "(" t).getD t).trimStart

/-- An import from a module is read piece by piece. -/
theorem fromSymbol?_eq (line : Text) :
    Declaration.fromSymbol? line =
      (Declaration.takeWord? "from" line.trimStart >>= fun t => Declaration.takeBlanks? t >>= fun t =>
        takeModule? t >>= fun t => Declaration.takeBlanks? t >>= fun t =>
        Declaration.takeWord? "import" t >>= fun t => takeOpening? t >>= fun t =>
        Declaration.takeIdentifier? t >>= fun taken =>
        some ((Declaration.alias? taken.2).getD taken.1)) := by
  rw [Declaration.fromSymbol?]
  refine congrArg _ (funext fun t => congrArg _ (funext fun t => ?_))
  cases t with
  | nil => rfl
  | cons c t =>
      rw [takeModule?]
      cases isModule : Declaration.isModuleChar c with
      | false =>
          rw [List.takeWhile_cons_of_neg (by rw [isModule]; exact Bool.false_ne_true), if_pos rfl]
          simp [isModule]
      | true =>
          rw [List.takeWhile_cons_of_pos isModule, if_neg (List.cons_ne_nil _ _),
            List.dropWhile_cons_of_pos isModule]
          simp [isModule, takeOpening?, Option.bind_assoc]

/-- The name of a module that must follow. -/
theorem Reads.moduleName {f : Text → Option Text} (shuns : Shuns s moduleTest rest loops)
    (inner : Reads s rest loops (pos + roundsOf s moduleTest none pos) marks value
      (f (s.after (pos + roundsOf s moduleTest none pos)))) :
    Reads s (.run .greedy 1 none moduleTest :: rest) loops pos marks value
      (takeModule? (s.after pos) >>= f) := by
  obtain ⟨o, runs, same⟩ := inner
  refine ⟨_, .run shuns runs, ?_⟩
  rw [after_roundsOf, funext accepts_moduleTest] at same
  rw [roundsOf_eq, funext accepts_moduleTest, takeModule?]
  by_cases noModule : (s.after pos).takeWhile Declaration.isModuleChar = []
  · rw [if_pos noModule, noModule]
    rfl
  · rw [if_neg noModule, if_pos (Nat.succ_le_of_lt (List.length_pos_iff.mpr noModule)), same]
    rfl

theorem length_takeWhile_drop {p : CodePoint → Bool} {t : Text} (inside : k ≤ (t.takeWhile p).length) :
    k + ((t.drop k).takeWhile p).length = (t.takeWhile p).length := by
  induction t generalizing k with
  | nil =>
      obtain rfl := Nat.le_zero.mp inside
      rfl
  | cons c t ih =>
      cases k with
      | zero => exact Nat.zero_add _
      | succ k =>
          cases passes : p c with
          | false =>
              rw [List.takeWhile_cons_of_neg (by rw [passes]; exact Bool.false_ne_true)] at inside
              cases inside
          | true =>
              rw [List.takeWhile_cons_of_pos passes, List.length_cons] at inside ⊢
              rw [List.drop_succ_cons, Nat.add_right_comm, ih (Nat.le_of_succ_le_succ inside)]

/-- From inside a run its rest is left. -/
theorem add_roundsOf (inside : k ≤ roundsOf s blankTest none pos) :
    pos + k + roundsOf s blankTest none (pos + k) = pos + roundsOf s blankTest none pos := by
  rw [roundsOf_eq] at inside
  rw [Nat.add_assoc, roundsOf_eq, roundsOf_eq, Subject.after_add, length_takeWhile_drop inside]

/-- Behind a run no blank follows. -/
theorem not_passes_blankTest (s : Subject) (pos : Nat) :
    s.passes blankTest (pos + roundsOf s blankTest none pos) = false := by
  rw [Subject.passes_eq, after_roundsOf]
  have stops := List.head?_dropWhile_not blankTest.accepts (s.after pos)
  cases next : ((s.after pos).dropWhile blankTest.accepts).head? with
  | none => rfl
  | some c =>
      rw [next] at stops
      simpa using stops

theorem passes_parenthesisTest (s : Subject) (pos : Nat) :
    s.passes parenthesisTest pos = (s.after pos).startsWith "(" := by
  rw [Subject.passes_eq]
  cases s.after pos with
  | nil => rfl
  | cons c t =>
      rw [List.head?_cons, Option.any_some, parenthesisTest, accepts_literal]
      show (c == 0x28) = (0x28 == c && true)
      rw [Bool.and_true, Bool.eq_iff_iff, beq_iff_eq, beq_iff_eq]
      exact eq_comm

theorem apart_parenthesis_blank : Apart parenthesisTest blankTest := by
  intro c isParenthesis
  rw [parenthesisTest, accepts_literal, beq_iff_eq] at isParenthesis
  rw [isParenthesis]
  rfl

theorem apart_parenthesis_identifier : Apart parenthesisTest identifierTest := by
  intro c isParenthesis
  rw [parenthesisTest, accepts_literal, beq_iff_eq] at isParenthesis
  rw [isParenthesis]
  rfl

/-- A parenthesis is passed over if it follows. -/
theorem after_parenthesis (s : Subject) (pos : Nat) :
    s.after (pos + roundsOf s parenthesisTest (some 1) pos) =
      (Declaration.takeWord? "(" (s.after pos)).getD (s.after pos) := by
  rw [Declaration.takeWord?, ← passes_parenthesisTest]
  cases passes : s.passes parenthesisTest pos with
  | false =>
      rw [roundsOf_eq_zero passes]
      rfl
  | true =>
      have left : roundsLeft s (some 1) pos = 1 := by
        rw [roundsLeft, ← Subject.length_after]
        rw [Subject.passes_eq] at passes
        cases there : s.after pos with
        | nil =>
            rw [there] at passes
            cases passes
        | cons c t =>
            rw [List.length_cons]
            omega
      rw [roundsOf, left, Subject.count, passes, Subject.after_add]
      rfl

/-- What may stand in front of a name is not found from a blank on if behind the blanks no name is. -/
theorem fails_opening (isBlank : s.passes blankTest pos = true)
    (shunsBlanks : Shuns s blankTest rest loops)
    (fails : Fails s rest loops (pos + roundsOf s blankTest none pos)) :
    Fails s (.run .greedy 0 (some 1) parenthesisTest :: .run .greedy 0 none blankTest :: rest) loops
      pos := by
  have noParenthesis : roundsOf s parenthesisTest (some 1) pos = 0 :=
    roundsOf_eq_zero (apart_parenthesis_blank.symm.fails isBlank)
  refine .run fun j _ none => .run fun i _ atMost => ?_
  obtain rfl : j = 0 := by omega
  rcases Nat.lt_or_eq_of_le atMost with isBefore | rfl
  · exact shunsBlanks _ (passes_of_lt_count isBefore)
  · exact fails

/-- Blanks and a parenthesis in front of a name. What is given back of the first blanks the others
take. -/
theorem Reads.opening {f : Text → Option Text} (shunsBlanks : Shuns s blankTest rest loops)
    (shunsParenthesis : Shuns s parenthesisTest rest loops)
    (inner : ∀ start, takeOpening? (s.after pos) = some (s.after start) →
      Reads s rest loops start marks value (f (s.after start))) :
    Reads s (.run .greedy 1 none blankTest :: .run .greedy 0 (some 1) parenthesisTest ::
        .run .greedy 0 none blankTest :: rest) loops pos marks value
      (takeOpening? (s.after pos) >>= f) := by
  let stop := pos + roundsOf s blankTest none pos
  let name := stop + roundsOf s parenthesisTest (some 1) stop
  let start := name + roundsOf s blankTest none name
  by_cases enough : 1 ≤ roundsOf s blankTest none pos
  · have opening : takeOpening? (s.after pos) = some (s.after start) := by
      rw [takeOpening?, takeBlanks?_after, if_pos enough]
      show some (Text.trimStart ((Declaration.takeWord? "(" (s.after stop)).getD (s.after stop))) = _
      rw [← after_parenthesis, ← after_blanks]
    obtain ⟨o, runs, same⟩ := inner start opening
    have second : Runs s (.run .greedy 0 (some 1) parenthesisTest ::
        .run .greedy 0 none blankTest :: rest) loops stop marks _ :=
      .run (.skip apart_parenthesis_blank shunsParenthesis) (.run shunsBlanks runs)
    rw [if_pos (Nat.zero_le _), if_pos (Nat.zero_le _)] at second
    refine ⟨_, .run_of_inside second fun k isInside noMore => ?_, ?_⟩
    · refine fails_opening (passes_of_lt_count isInside) shunsBlanks ?_
      rw [add_roundsOf (Nat.le_of_lt isInside)]
      -- The blanks given back are taken again, and then what follows fails as it did before.
      show Fails s rest loops stop
      cases isParenthesis : s.passes parenthesisTest stop with
      | true => exact shunsParenthesis stop isParenthesis
      | false =>
          have same : start = stop := by
            simp only [start, name, roundsOf_eq_zero isParenthesis, Nat.add_zero]
            rw [roundsOf_eq_zero (not_passes_blankTest s pos), Nat.add_zero]
          rw [noMore] at runs
          exact same ▸ runs
    · rw [if_pos enough, opening]
      exact same
  · refine ⟨none, Fails.run fun k atLeast atMost => absurd (Nat.le_trans atLeast atMost) enough, ?_⟩
    rw [takeOpening?, takeBlanks?_after, if_neg enough]
    rfl

end Modules

/-- The pattern of an import from a module. -/
def fromExpression : Text :=
  "^\\s*from\\s+[A-Za-z0-9_.]+\\s+import\\s+\\(?\\s*([A-Za-z0-9_]+)(?:\\s+as\\s+([A-Za-z0-9_]+))?"

/-- Its program. -/
def fromProgram : List Instr :=
  .place .textStart :: .run .greedy 0 none blankTest :: (spelled "from" ++
    (.run .greedy 1 none blankTest :: .run .greedy 1 none moduleTest :: .run .greedy 1 none blankTest ::
      (spelled "import" ++ (.run .greedy 1 none blankTest :: .run .greedy 0 (some 1) parenthesisTest ::
        .run .greedy 0 none blankTest :: .mark 0 :: .run .greedy 1 none identifierTest :: .mark 1 ::
          [.loop false 0 (some 1) aliasBody]))))

theorem compileUnder_fromExpression :
    ∃ p, compileUnder {} fromExpression = .ok p ∧ p.program = fromProgram :=
  exists_compileUnder (by decide +kernel)

/-- From the start of a line the program of an import from a module reads the symbol that is imported. -/
theorem reads_fromProgram (line : Text) :
    Reads ⟨line.toArray⟩ fromProgram [] 0 #[] (symbolOf line) (Declaration.fromSymbol? line) := by
  let s : Subject := ⟨line.toArray⟩
  have begins : line.trimStart = s.after (0 + roundsOf s blankTest none 0) := (after_blanks s 0).symm
  rw [fromSymbol?_eq, begins]
  refine .start (.blanks (spelled_shuns_blanks rfl) (.word _ (.someBlanks ?_ (.moduleName ?_
    (.someBlanks (spelled_shuns_blanks rfl) (.word _ (.opening ?_ ?_ fun start there =>
      .mark (.identifier ?_ fun id isId => .mark ?_))))))))
  · exact .run apart_module_blank.symm
  · exact .run apart_module_blank
  · exact .mark (.run apart_identifier_blank.symm)
  · exact .mark (.run apart_parenthesis_identifier)
  · intro taken noName
    cases noName
  · rw [groups_eq]
    exact reads_alias (fun _ _ isAlias => symbolOf_alias isAlias)
      (symbolOf_name isId (Nat.le_refl _) (.inl rfl))

/-! ## Assignments from a widget -/

/-- The pattern of an assignment from a widget. -/
def widgetExpression : Text := "^\\s*([A-Za-z0-9_]+)\\s*=\\s*dbutils\\.widgets\\.get\\s*\\("

/-- Its program. -/
def widgetProgram : List Instr :=
  .place .textStart :: .run .greedy 0 none blankTest :: .mark 0 :: .run .greedy 1 none identifierTest ::
    .mark 1 :: .run .greedy 0 none blankTest :: (spelled "=" ++ (.run .greedy 0 none blankTest ::
      (spelled "dbutils.widgets.get" ++ (.run .greedy 0 none blankTest :: (spelled "(" ++ [])))))

theorem compileUnder_widgetExpression :
    ∃ p, compileUnder {} widgetExpression = .ok p ∧ p.program = widgetProgram :=
  exists_compileUnder (by decide +kernel)

/-- The variable of an assignment that is matched: the first group. -/
def variableOf (line : Text) (found : State) : Text := (found.text? line 0).getD []

theorem variableOf_name {line id : Text} {start cursor : Nat}
    (isId : id = (line.drop start).takeWhile (·.isAsciiWord)) :
    variableOf line ⟨#[some start, some (start + id.length)], cursor⟩ = id := by
  rw [variableOf, State.text?, span?_of_le rfl rfl (Nat.le_add_right _ _)]
  show ((line.drop start).take (start + id.length - start)) = id
  rw [Nat.add_sub_cancel_left, take_takeWhile isId]

/-- Blanks that may follow, and a word that must. -/
theorem Reads.blanksWord {s : Subject} {rest : List Instr} {loops : List Loop} {pos : Nat}
    {marks : Array (Option Nat)} {value : State → Text} {f : Text → Option Text} {c : CodePoint}
    {w : Text}
    (noBlank : c.isBlank = false)
    (inner : ∀ stop, Reads s rest loops stop marks value (f (s.after stop))) :
    Reads s (.run .greedy 0 none blankTest :: (spelled (c :: w) ++ rest)) loops pos
      marks value (Declaration.takeWord? (c :: w) (s.after pos).trimStart >>= f) := by
  rw [← after_blanks]
  exact .blanks (spelled_shuns_blanks noBlank) (.word _ (inner _))

/-- From the start of a line the program of an assignment from a widget reads the variable. -/
theorem reads_widgetProgram (line : Text) :
    Reads ⟨line.toArray⟩ widgetProgram [] 0 #[] (variableOf line) (Declaration.widgetSymbol? line) := by
  let s : Subject := ⟨line.toArray⟩
  have begins : line.trimStart = s.after (0 + roundsOf s blankTest none 0) := (after_blanks s 0).symm
  rw [Declaration.widgetSymbol?, begins]
  refine .start (.blanks (.mark (.run apart_identifier_blank.symm)) (.mark (.identifier ?_
    fun id isId => .mark ?_)))
  · exact fun _ _ => .mark (.skip apart_identifier_blank (.spelled rfl))
  · rw [groups_eq]
    refine .blanksWord rfl fun _ => .blanksWord rfl fun _ => .blanksWord rfl fun _ => ?_
    exact .of_finds .nil (Nat.le_refl 1) (variableOf_name isId)

end Pattern

/-! ## The declarations of a line -/

namespace Declaration

/-- The symbol that a line imports is that of the first of the two patterns that matches at its start. -/
theorem importedSymbol?_eq_match :
    ∃ imports fromModule, compileUnder {} importExpression = .ok imports ∧
      compileUnder {} fromExpression = .ok fromModule ∧ ∀ line : Text, importedSymbol? line =
        ((imports.matchStart? line).or (fromModule.matchStart? line)).map (symbolOf line) := by
  obtain ⟨imports, compiled, program⟩ := compileUnder_importExpression
  obtain ⟨fromModule, compiled', program'⟩ := compileUnder_fromExpression
  refine ⟨imports, fromModule, compiled, compiled', fun line => ?_⟩
  have first : (imports.matchStart? line).map (symbolOf line) = importSymbol? line :=
    map_matchStart? (program ▸ reads_importProgram line)
  have second : (fromModule.matchStart? line).map (symbolOf line) = fromSymbol? line :=
    map_matchStart? (program' ▸ reads_fromProgram line)
  rw [importedSymbol?, ← first, ← second]
  cases imports.matchStart? line <;> rfl

/-- The variable to which a line assigns the value of a widget is that of the pattern that matches at its
start. -/
theorem widgetSymbol?_eq_match :
    ∃ widgets, compileUnder {} widgetExpression = .ok widgets ∧ ∀ line : Text,
      widgetSymbol? line = (widgets.matchStart? line).map (variableOf line) := by
  obtain ⟨widgets, compiled, program⟩ := compileUnder_widgetExpression
  refine ⟨widgets, compiled, fun line => ?_⟩
  exact (map_matchStart? (program ▸ reads_widgetProgram line)).symm

end Declaration

end NotebookAudit

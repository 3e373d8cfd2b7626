import NotebookAudit.Proofs.Json.Numbers
import NotebookAudit.Proofs.Json.Strings
import NotebookAudit.Proofs.Result

/-!
What is read as JSON is JSON.

A value that is read from a place is spelled by the text in front of what is left
(`Json.readers_sound`), and a text that is read is a document of the grammar
(`Json.document_of_read`). The three readers call each other with one unit of fuel less, so the
induction is on the fuel and over all three of them.
-/

namespace NotebookAudit.Json

variable {c after : Cursor} {v : Json} {depth : Nat}

/-! ## Blanks -/

/-- What is skipped are blanks. -/
theorem skipBlanks_split (c : Cursor) :
    ∃ blanks, IsBlanks blanks ∧ c.rest = blanks ++ c.skipBlanks.rest :=
  ⟨_, fun _ member => List.mem_takeWhile_imp member,
    (List.prefix_iff_eq_append.mp (List.takeWhile_prefix _)).symm⟩

/-! ## Words and numbers -/

theorem spells_of_readNumber (read : readNumber c = .ok (v, after)) :
    ∃ s, Spells depth s v ∧ c.rest = s ++ after.rest := by
  unfold readNumber at read
  split at read
  next negative digits isSigned =>
  split at read
  · cases read
  · cases read
  next v' length magnitude =>
  cases read
  obtain ⟨s, rest, isMagnitude, rfl, split⟩ := magnitude_of_readMagnitude magnitude
  split at isSigned
  · next minus =>
    cases isSigned
    refine ⟨0x2d :: s, .negative isMagnitude, ?_⟩
    show c.rest = 0x2d :: s ++ c.rest.drop (s.length + 1)
    rw [minus, split, List.drop_succ_cons, List.drop_left, List.cons_append]
  · cases isSigned
    refine ⟨s, .number isMagnitude, ?_⟩
    show c.rest = s ++ c.rest.drop s.length
    rw [split, List.drop_left]

theorem spells_of_readAtom (read : readAtom c = .ok (v, after)) :
    ∃ s, Spells depth s v ∧ c.rest = s ++ after.rest := by
  unfold readAtom at read
  split at read
  · next word v' found =>
    cases read
    have starts : Text.startsWith c.rest word = true := List.find?_some (a := (word, v)) found
    obtain ⟨rest, split⟩ := List.isPrefixOf_iff_prefix.mp starts
    refine ⟨word, .word (List.mem_of_find?_eq_some found), ?_⟩
    have isRest : (c.advance word.length).rest = rest := by
      show c.rest.drop word.length = rest
      rw [← split, List.drop_left]
    rw [isRest]
    exact split.symm
  · exact spells_of_readNumber read

/-! ## Values -/

/-- The reader of values, given some fuel, reads what the grammar says. -/
def ValueSound (fuel : Nat) : Prop :=
  ∀ {depth c v after}, readValue fuel depth c = .ok (v, after) →
    ∃ s, Spells depth s v ∧ c.rest = s ++ after.rest

/-- The reader of items, given some fuel, reads what the grammar says. -/
def ItemsSound (fuel : Nat) : Prop :=
  ∀ {depth done c v after before}, readItems fuel depth done c = .ok (v, after) → IsBlanks before →
    ∃ items : List Item, items ≠ [] ∧ (∀ i ∈ items, Spells depth i.text i.value) ∧
      v = .array (done.reverse ++ items.map (·.value)) ∧
      before ++ c.rest = Text.joinWith 0x2c (items.map (·.spelling)) ++ 0x5d :: after.rest

/-- The reader of members, given some fuel, reads what the grammar says. -/
def MembersSound (fuel : Nat) : Prop :=
  ∀ {depth done c v after before}, readMembers fuel depth done c = .ok (v, after) →
    IsBlanks before →
    ∃ members : List Member, members ≠ [] ∧
      (∀ m ∈ members, Spells depth m.item.text m.item.value) ∧
      v = .object (ofMembers (done.reverse ++ members.map fun m => (m.name, m.item.value))) ∧
      before ++ c.rest = Text.joinWith 0x2c (members.map (·.spelling)) ++ 0x7d :: after.rest

theorem rest_advance_one {d : CodePoint} {tail : Text} (starts : c.rest = d :: tail) :
    (c.advance 1).rest = tail := by
  show c.rest.drop 1 = tail
  rw [starts, List.drop_succ_cons, List.drop_zero]

/-- A value that is read is an item with the blanks around it. -/
theorem item_of_readValue {fuel : Nat} (value : ValueSound fuel) {before : Text}
    (isBefore : IsBlanks before) (read : readValue fuel depth c = .ok (v, after)) :
    ∃ item : Item, item.value = v ∧ Spells depth item.text v ∧
      before ++ c.rest = item.spelling ++ after.skipBlanks.rest := by
  obtain ⟨s, spells, split⟩ := value read
  obtain ⟨blanks, isBlanks, behind⟩ := skipBlanks_split after
  refine ⟨⟨before, s, blanks, v, isBefore, isBlanks⟩, rfl, spells, ?_⟩
  show before ++ c.rest = before ++ (s ++ blanks) ++ after.skipBlanks.rest
  rw [split, behind]
  simp

theorem itemsSound_succ {fuel : Nat} (value : ValueSound fuel) (items : ItemsSound fuel) :
    ItemsSound (fuel + 1) := by
  intro depth done c v after before read isBefore
  rw [readItems] at read
  obtain ⟨⟨v', afterValue⟩, readFirst, read⟩ := bind_eq_ok_iff.mp read
  obtain ⟨item, rfl, spells, split⟩ := item_of_readValue value isBefore readFirst
  dsimp only at read
  split at read
  · next closing =>
    cases read
    refine ⟨[item], List.cons_ne_nil _ _, List.forall_mem_singleton.mpr spells, by simp, ?_⟩
    rw [split, rest_advance_one closing, closing]
    rfl
  · next comma =>
    obtain ⟨before', isBefore', between⟩ := skipBlanks_split (afterValue.skipBlanks.advance 1)
    obtain ⟨items', nonempty, each, rfl, rest⟩ := items read isBefore'
    refine ⟨item :: items', List.cons_ne_nil _ _, List.forall_mem_cons.mpr ⟨spells, each⟩, by simp,
      ?_⟩
    rw [← between, rest_advance_one comma] at rest
    rw [split, comma, rest, List.map_cons, joinWith_cons _ _ (by simpa using nonempty)]
    simp
  · cases read

theorem membersSound_succ {fuel : Nat} (value : ValueSound fuel) (members : MembersSound fuel) :
    MembersSound (fuel + 1) := by
  intro depth done c v after before read isBefore
  rw [readMembers] at read
  split at read
  · next tail quote =>
    obtain ⟨⟨name, afterName⟩, readName, read⟩ := bind_eq_ok_iff.mp read
    obtain ⟨body, _, isBody, rfl, bodySplit⟩ := body_of_readChars readName
    obtain ⟨blanks, isBlanks, behind⟩ := skipBlanks_split afterName
    dsimp only at read
    split at read
    · next colon =>
      obtain ⟨before', isBefore', between⟩ := skipBlanks_split (afterName.skipBlanks.advance 1)
      obtain ⟨⟨v', afterValue⟩, readFirst, read⟩ := bind_eq_ok_iff.mp read
      obtain ⟨item, rfl, spells, split⟩ := item_of_readValue value isBefore' readFirst
      let m : Member := ⟨before, body, blanks, name, item, isBefore, isBlanks, isBody⟩
      have spelling : before ++ c.rest = m.spelling ++ afterValue.skipBlanks.rest := by
        show _ = before ++ 0x22 :: (body ++ 0x22 :: (blanks ++ 0x3a :: item.spelling)) ++ _
        rw [← between, rest_advance_one colon] at split
        rw [quote, bodySplit, behind, colon, split]
        simp
      dsimp only at read
      split at read
      · next closing =>
        cases read
        refine ⟨[m], List.cons_ne_nil _ _, List.forall_mem_singleton.mpr spells, by simp [m], ?_⟩
        rw [spelling, rest_advance_one closing, closing]
        rfl
      · next comma =>
        obtain ⟨before'', isBefore'', between'⟩ :=
          skipBlanks_split (afterValue.skipBlanks.advance 1)
        obtain ⟨members', nonempty, each, rfl, rest⟩ := members read isBefore''
        refine ⟨m :: members', List.cons_ne_nil _ _, List.forall_mem_cons.mpr ⟨spells, each⟩,
          by simp [m], ?_⟩
        rw [← between', rest_advance_one comma] at rest
        rw [spelling, comma, rest, List.map_cons, joinWith_cons _ _ (by simpa using nonempty)]
        simp
      · cases read
    · cases read
  · cases read

theorem valueSound_succ {fuel : Nat} (items : ItemsSound fuel) (members : MembersSound fuel) :
    ValueSound (fuel + 1) := by
  intro depth c v after read
  rw [readValue.eq_def] at read
  dsimp only at read
  split at read
  · next rest quote =>
    obtain ⟨⟨t, afterText⟩, readText, read⟩ := bind_eq_ok_iff.mp read
    cases read
    obtain ⟨body, _, isBody, rfl, split⟩ := body_of_readChars readText
    refine ⟨_, .text isBody, ?_⟩
    rw [quote, split]
    simp
  · next rest bracket =>
    split at read
    · cases read
    next depth =>
    obtain ⟨blanks, isBlanks, inside⟩ := skipBlanks_split (c.advance 1)
    rw [rest_advance_one bracket] at inside
    split at read
    · next closing =>
      cases read
      obtain ⟨tail, closing⟩ := List.head?_eq_some_iff.mp closing
      refine ⟨_, .emptyArray isBlanks, ?_⟩
      rw [bracket, inside, rest_advance_one closing, closing]
      simp
    · obtain ⟨list, nonempty, each, rfl, split⟩ := items read isBlanks
      refine ⟨_, .array nonempty each, ?_⟩
      rw [bracket, inside, split]
      simp
  · next rest brace =>
    split at read
    · cases read
    next depth =>
    obtain ⟨blanks, isBlanks, inside⟩ := skipBlanks_split (c.advance 1)
    rw [rest_advance_one brace] at inside
    split at read
    · next closing =>
      cases read
      obtain ⟨tail, closing⟩ := List.head?_eq_some_iff.mp closing
      refine ⟨_, .emptyObject isBlanks, ?_⟩
      rw [brace, inside, rest_advance_one closing, closing]
      simp
    · obtain ⟨list, nonempty, each, rfl, split⟩ := members read isBlanks
      refine ⟨_, .object nonempty each, ?_⟩
      rw [brace, inside, split]
      simp
  · exact spells_of_readAtom read

/-- What any fuel reads is what the grammar says. -/
theorem readers_sound (fuel : Nat) : ValueSound fuel ∧ ItemsSound fuel ∧ MembersSound fuel := by
  induction fuel with
  | zero =>
      refine ⟨fun read => ?_, fun read => ?_, fun read => ?_⟩
      · rw [readValue] at read
        cases read
      · rw [readItems] at read
        cases read
      · rw [readMembers] at read
        cases read
  | succ fuel ih =>
      obtain ⟨value, items, members⟩ := ih
      exact ⟨valueSound_succ items members, itemsSound_succ value items,
        membersSound_succ value members⟩

/-- A text that is read as a value is a document that spells it. -/
theorem document_of_read {t : Text} (read : Json.read t = .ok v) : Document t v := by
  rw [Json.read] at read
  split at read
  · cases read
  · obtain ⟨⟨v', after⟩, readFirst, read⟩ := bind_eq_ok_iff.mp read
    obtain ⟨before, isBefore, front⟩ := skipBlanks_split ⟨0, t⟩
    obtain ⟨s, spells, split⟩ := (readers_sound _).1 readFirst
    obtain ⟨behind, isBehind, last⟩ := skipBlanks_split after
    dsimp only at read
    split at read
    · next ended =>
      cases read
      rw [ended, List.append_nil] at last
      rw [split, last] at front
      exact ⟨before, s, behind, isBefore, isBehind, front, spells⟩
    · cases read

end NotebookAudit.Json

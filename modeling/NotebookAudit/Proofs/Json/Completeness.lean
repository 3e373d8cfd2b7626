import NotebookAudit.Proofs.Json.Soundness

/-!
What is JSON is read as JSON.

A text that spells a value is read from in front of whatever may follow a value, if there is fuel
enough for its length (`Json.readValue_of_spells`); the induction is on the way the text is spelled.
With `Json.document_of_read` this makes the reader decide the grammar (`Json.read_eq_ok_iff`).
-/

namespace NotebookAudit.Json

variable {depth fuel : Nat} {s rest blanks : Text} {v : Json}

/-- What may follow a value: nothing, a blank, a comma or a closing bracket. -/
def EndsValue (t : Text) : Prop :=
  ∀ c ∈ t.head?, Cursor.isBlank c = true ∨ c = 0x2c ∨ c = 0x5d ∨ c = 0x7d

theorem isBlank_iff {c : CodePoint} :
    Cursor.isBlank c = true ↔ c = 0x20 ∨ c = 0x09 ∨ c = 0x0a ∨ c = 0x0d := by
  simp [Cursor.isBlank, or_assoc]

theorem EndsValue.afterNumber (ends : EndsValue rest) : AfterNumber rest := by
  intro c head
  rcases ends c head with blank | rfl | rfl | rfl
  · rcases isBlank_iff.mp blank with rfl | rfl | rfl | rfl <;> decide
  all_goals decide

/-- Blanks in front of what may follow a value may follow it as well. -/
theorem EndsValue.append (isBlanks : IsBlanks blanks) (ends : EndsValue rest) :
    EndsValue (blanks ++ rest) := by
  cases blanks with
  | nil => exact ends
  | cons b bs =>
      intro c head
      cases head
      exact .inl (isBlanks b List.mem_cons_self)

/-- The text does not start with a blank. -/
def NoBlank (t : Text) : Prop := ∀ c ∈ t.head?, Cursor.isBlank c = false

/-- Blanks are skipped up to something else. -/
theorem skipBlanks_append (isBlanks : IsBlanks blanks) (noBlank : NoBlank rest) (p : Nat) :
    Cursor.skipBlanks ⟨p, blanks ++ rest⟩ = ⟨p + blanks.length, rest⟩ := by
  rw [Cursor.skipBlanks, takeWhile_append_of_stops isBlanks noBlank, Cursor.advance, List.drop_left]

/-! ## Words and numbers -/

theorem readAtom_word (known : (s, v) ∈ words) (p : Nat) (rest : Text) :
    readAtom ⟨p, s ++ rest⟩ = .ok (v, ⟨p + s.length, rest⟩) := by
  simp only [words, List.mem_cons, Prod.mk.injEq, List.not_mem_nil, or_false] at known
  rcases known with ⟨rfl, rfl⟩ | ⟨rfl, rfl⟩ | ⟨rfl, rfl⟩ | ⟨rfl, rfl⟩ | ⟨rfl, rfl⟩ | ⟨rfl, rfl⟩ <;> rfl

/-- A number starts with a digit. -/
theorem magnitude_head {negative : Bool} (magnitude : Magnitude negative s v) :
    ∃ d tail, s = d :: tail ∧ d.isAsciiDigit = true := by
  have whole {w : Text} (isWhole : IsWhole w) : ∃ d tail, w = d :: tail ∧ d.isAsciiDigit = true := by
    cases isWhole with
    | zero => exact ⟨_, _, rfl, rfl⟩
    | digits first areDigits => exact ⟨_, _, rfl, areDigits _ List.mem_cons_self⟩
  cases magnitude with
  | int isWhole short => exact whole isWhole
  | float isWhole isFraction isExponent noInt =>
      obtain ⟨d, tail, rfl, isDigit⟩ := whole isWhole
      exact ⟨d, _, rfl, isDigit⟩

theorem digit_cases {d : Nat} (isDigit : CodePoint.isAsciiDigit d = true) :
    d = 0x30 ∨ d = 0x31 ∨ d = 0x32 ∨ d = 0x33 ∨ d = 0x34 ∨ d = 0x35 ∨ d = 0x36 ∨ d = 0x37 ∨
      d = 0x38 ∨ d = 0x39 := by
  rw [CodePoint.isAsciiDigit, Bool.and_eq_true, decide_eq_true_iff, decide_eq_true_iff] at isDigit
  have low : 0x30 ≤ d := isDigit.1
  have high : d ≤ 0x39 := isDigit.2
  omega

/-- No word starts with a digit, with or without a minus in front of it. -/
theorem find?_words_of_digit {d : CodePoint} (isDigit : d.isAsciiDigit = true) (t : Text) :
    (words.find? fun w => Text.startsWith (d :: t) w.1) = none ∧
      (words.find? fun w => Text.startsWith (0x2d :: d :: t) w.1) = none := by
  rcases digit_cases isDigit with rfl | rfl | rfl | rfl | rfl | rfl | rfl | rfl | rfl | rfl <;>
    exact ⟨rfl, rfl⟩

theorem readAtom_number (magnitude : Magnitude false s v) (ends : EndsValue rest) (p : Nat) :
    readAtom ⟨p, s ++ rest⟩ = .ok (v, ⟨p + s.length, rest⟩) := by
  obtain ⟨d, tail, rfl, isDigit⟩ := magnitude_head magnitude
  have number := readMagnitude_of_magnitude magnitude ends.afterNumber
  have noWord := (find?_words_of_digit isDigit (tail ++ rest)).1
  have read : readNumber ⟨p, d :: tail ++ rest⟩ =
      .ok (v, Cursor.advance ⟨p, d :: tail ++ rest⟩ (d :: tail).length) := by
    rw [readNumber]
    split
    next negative digits isSigned =>
    split at isSigned
    · next minus =>
      rw [(List.cons.inj minus).1] at isDigit
      cases isDigit
    · cases isSigned
      rw [number]
      rfl
  rw [readAtom, List.cons_append, noWord]
  refine read.trans ?_
  rw [Cursor.advance, List.drop_left]

theorem readAtom_negative (magnitude : Magnitude true s v) (ends : EndsValue rest) (p : Nat) :
    readAtom ⟨p, 0x2d :: s ++ rest⟩ = .ok (v, ⟨p + (s.length + 1), rest⟩) := by
  obtain ⟨d, tail, rfl, isDigit⟩ := magnitude_head magnitude
  have number := readMagnitude_of_magnitude magnitude ends.afterNumber
  have noWord := (find?_words_of_digit isDigit (tail ++ rest)).2
  have read : readNumber ⟨p, 0x2d :: (d :: tail ++ rest)⟩ =
      .ok (v, Cursor.advance ⟨p, 0x2d :: (d :: tail ++ rest)⟩ ((d :: tail).length + 1)) := by
    rw [readNumber]
    split
    next negative digits isSigned =>
    cases isSigned
    rw [number]
    rfl
  rw [readAtom, List.cons_append, List.cons_append, noWord]
  refine read.trans ?_
  rw [Cursor.advance, List.drop_succ_cons, List.drop_left]

/-! ## Values -/

/-- A value is spelled by some text, which starts neither with a blank nor with a closing bracket nor
with a byte order mark. -/
theorem spells_head (spells : Spells depth s v) :
    ∃ c tail, s = c :: tail ∧ Cursor.isBlank c = false ∧ c ≠ 0x5d ∧ c ≠ 0xfeff := by
  cases spells with
  | word known =>
      simp only [words, List.mem_cons, Prod.mk.injEq, List.not_mem_nil, or_false] at known
      rcases known with ⟨rfl, -⟩ | ⟨rfl, -⟩ | ⟨rfl, -⟩ | ⟨rfl, -⟩ | ⟨rfl, -⟩ | ⟨rfl, -⟩ <;>
        exact ⟨_, _, rfl, by decide⟩
  | number magnitude =>
      obtain ⟨d, tail, rfl, isDigit⟩ := magnitude_head magnitude
      refine ⟨d, tail, rfl, ?_⟩
      rcases digit_cases isDigit with rfl | rfl | rfl | rfl | rfl | rfl | rfl | rfl | rfl | rfl <;>
        decide
  | negative magnitude => exact ⟨_, _, rfl, by decide⟩
  | text isBody => exact ⟨_, _, rfl, by decide⟩
  | emptyArray blanks => exact ⟨_, _, rfl, by decide⟩
  | array nonempty each => exact ⟨_, _, rfl, by decide⟩
  | emptyObject blanks => exact ⟨_, _, rfl, by decide⟩
  | object nonempty each => exact ⟨_, _, rfl, by decide⟩

theorem noBlank_of_spells (spells : Spells depth s v) (rest : Text) : NoBlank (s ++ rest) := by
  obtain ⟨c, tail, rfl, notBlank, -⟩ := spells_head spells
  intro c' head
  cases head
  exact notBlank

/-- The reader of values, with fuel enough for the length of the text, reads the value in front of
whatever may follow it. -/
def ValueComplete (depth : Nat) (s : Text) (v : Json) : Prop :=
  ∀ {fuel p rest}, EndsValue rest → 2 * s.length ≤ fuel →
    ∃ p', readValue fuel depth ⟨p, s ++ rest⟩ = .ok (v, ⟨p', rest⟩)

/-- A text that starts with none of the brackets and quotes is read as a word or a number. -/
theorem readValue_eq_readAtom {c : CodePoint} {tail : Text} {p : Nat}
    (plain : c ≠ 0x22 ∧ c ≠ 0x5b ∧ c ≠ 0x7b) :
    readValue (fuel + 1) depth ⟨p, c :: tail⟩ = readAtom ⟨p, c :: tail⟩ := by
  rw [readValue.eq_def]
  dsimp only
  split
  · next quote => exact absurd (List.cons.inj quote).1 plain.1
  · next bracket => exact absurd (List.cons.inj bracket).1 plain.2.1
  · next brace => exact absurd (List.cons.inj brace).1 plain.2.2
  · rfl

/-- Fuel that is enough for a text is some for its first character, and enough for the others. -/
theorem fuel_of_cons {c : CodePoint} {t : Text} (enough : 2 * (c :: t).length ≤ fuel) :
    ∃ f, fuel = f + 1 ∧ 2 * t.length + 1 ≤ f := by
  rw [List.length_cons] at enough
  exact ⟨fuel - 1, by omega, by omega⟩

theorem valueComplete_word (known : (s, v) ∈ words) : ValueComplete depth s v := by
  intro fuel p rest ends enough
  have word := readAtom_word known p rest
  simp only [words, List.mem_cons, Prod.mk.injEq, List.not_mem_nil, or_false] at known
  obtain ⟨c, tail, rfl, plain⟩ : ∃ c tail, s = c :: tail ∧ c ≠ 0x22 ∧ c ≠ 0x5b ∧ c ≠ 0x7b := by
    rcases known with ⟨rfl, -⟩ | ⟨rfl, -⟩ | ⟨rfl, -⟩ | ⟨rfl, -⟩ | ⟨rfl, -⟩ | ⟨rfl, -⟩ <;>
      exact ⟨_, _, rfl, by decide⟩
  obtain ⟨fuel, rfl, enough⟩ := fuel_of_cons enough
  exact ⟨_, (readValue_eq_readAtom plain).trans word⟩

theorem digit_plain {d : CodePoint} (isDigit : d.isAsciiDigit = true) :
    d ≠ 0x22 ∧ d ≠ 0x5b ∧ d ≠ 0x7b := by
  rcases digit_cases isDigit with rfl | rfl | rfl | rfl | rfl | rfl | rfl | rfl | rfl | rfl <;>
    decide

theorem valueComplete_number (magnitude : Magnitude false s v) : ValueComplete depth s v := by
  intro fuel p rest ends enough
  have number := readAtom_number magnitude ends p
  obtain ⟨d, tail, rfl, isDigit⟩ := magnitude_head magnitude
  obtain ⟨fuel, rfl, enough⟩ := fuel_of_cons enough
  exact ⟨_, (readValue_eq_readAtom (digit_plain isDigit)).trans number⟩

theorem valueComplete_negative (magnitude : Magnitude true s v) :
    ValueComplete depth (0x2d :: s) v := by
  intro fuel p rest ends enough
  obtain ⟨fuel, rfl, enough⟩ := fuel_of_cons enough
  exact ⟨_, (readValue_eq_readAtom (by decide)).trans (readAtom_negative magnitude ends p)⟩

theorem valueComplete_text {body t : Text} (isBody : Body body t) :
    ValueComplete depth (0x22 :: (body ++ [0x22])) (.text t) := by
  intro fuel p rest ends enough
  obtain ⟨fuel, rfl, enough⟩ := fuel_of_cons enough
  obtain ⟨p', read⟩ := readChars_of_body isBody p (p + 1) [] rest
  have split : 0x22 :: (body ++ [0x22]) ++ rest = 0x22 :: (body ++ 0x22 :: rest) := by simp
  rw [split, readValue.eq_def]
  refine ⟨p', ?_⟩
  show (readChars p (p + 1) [] (body ++ 0x22 :: rest) >>= fun _ => _) = _
  rw [read]
  rfl

theorem endsValue_cons {c : CodePoint} (closes : c = 0x2c ∨ c = 0x5d ∨ c = 0x7d) (t : Text) :
    EndsValue (c :: t) ∧ NoBlank (c :: t) := by
  refine ⟨fun d head => ?_, fun d head => ?_⟩
  · cases head
    exact .inr closes
  · cases head
    rcases closes with rfl | rfl | rfl <;> rfl

/-- A reader of parts that a comma separates, such as the items of an array: it reads the last part
with the closing bracket, and every other part with its comma, each with less fuel. -/
def ReadsParts {α β : Type} (close : CodePoint) (spelling : α → Text) (value : α → β)
    (whole : List β → Json) (reader : Nat → List β → Cursor → Except Fault (Json × Cursor))
    (parts : List α) : Prop :=
  ∀ x ∈ parts, ∀ {fuel : Nat} (done : List β) (p : Nat) (rest : Text),
    2 * (spelling x).length ≤ fuel →
    (∃ p', reader (fuel + 1) done (Cursor.skipBlanks ⟨p, spelling x ++ close :: rest⟩) =
      .ok (whole (value x :: done).reverse, ⟨p', rest⟩)) ∧
    ∃ p', reader (fuel + 1) done (Cursor.skipBlanks ⟨p, spelling x ++ 0x2c :: rest⟩) =
      reader fuel (value x :: done) (Cursor.skipBlanks ⟨p', rest⟩)

/-- A reader of parts reads them joined by commas, with fuel enough for their length. -/
theorem ReadsParts.joined {α β : Type} {close : CodePoint} {spelling : α → Text} {value : α → β}
    {whole : List β → Json} {reader : Nat → List β → Cursor → Except Fault (Json × Cursor)}
    {parts : List α} (reads : ReadsParts close spelling value whole reader parts)
    (nonempty : parts ≠ []) (done : List β) (p : Nat)
    (enough : 2 * (Text.joinWith 0x2c (parts.map spelling)).length + 1 ≤ fuel) (rest : Text) :
    ∃ p', reader fuel done
        (Cursor.skipBlanks ⟨p, Text.joinWith 0x2c (parts.map spelling) ++ close :: rest⟩) =
      .ok (whole (done.reverse ++ parts.map value), ⟨p', rest⟩) := by
  induction parts generalizing fuel done p with
  | nil => exact absurd rfl nonempty
  | cons x parts ih =>
      rw [ReadsParts, List.forall_mem_cons] at reads
      obtain ⟨fuel, rfl⟩ : ∃ f, fuel = f + 1 := ⟨fuel - 1, by omega⟩
      by_cases last : parts = []
      · subst last
        have single : Text.joinWith 0x2c ([x].map spelling) = spelling x := rfl
        rw [single] at enough ⊢
        have fits : 2 * (spelling x).length ≤ fuel := by omega
        obtain ⟨p', read⟩ := (reads.1 done p rest fits).1
        exact ⟨p', by rw [read]; simp⟩
      · have split : Text.joinWith 0x2c ((x :: parts).map spelling) ++ close :: rest =
            spelling x ++ 0x2c :: (Text.joinWith 0x2c (parts.map spelling) ++ close :: rest) := by
          rw [List.map_cons, joinWith_cons _ _ (by simpa using last)]
          simp
        rw [List.map_cons, joinWith_cons _ _ (by simpa using last), List.length_append,
          List.length_cons] at enough
        have fits : 2 * (spelling x).length ≤ fuel := by omega
        have restFits : 2 * (Text.joinWith 0x2c (parts.map spelling)).length + 1 ≤ fuel := by omega
        obtain ⟨p', readFirst⟩ := (reads.1 done p _ fits).2
        obtain ⟨p'', readRest⟩ := ih reads.2 last (value x :: done) p' restFits
        refine ⟨p'', ?_⟩
        rw [split, readFirst, readRest]
        simp

/-- An item is read up to what stands behind it, the blanks around it skipped. -/
theorem readValue_of_item {i : Item} (spells : Spells depth i.text i.value)
    (complete : ValueComplete depth i.text i.value) (ends : EndsValue rest) (noBlank : NoBlank rest)
    (fits : 2 * i.spelling.length ≤ fuel) (p : Nat) :
    ∃ after p', readValue fuel depth (Cursor.skipBlanks ⟨p, i.spelling ++ rest⟩) =
      .ok (i.value, after) ∧ after.skipBlanks = ⟨p', rest⟩ := by
  have split : i.spelling ++ rest = i.before ++ (i.text ++ (i.after ++ rest)) := by
    simp [Item.spelling]
  have enough : 2 * i.text.length ≤ fuel := by
    simp only [Item.spelling, List.length_append] at fits
    omega
  rw [split, skipBlanks_append i.isBefore (noBlank_of_spells spells _)]
  obtain ⟨p', read⟩ := complete (ends.append i.isAfter) enough
  exact ⟨_, _, read, skipBlanks_append i.isAfter noBlank p'⟩

theorem readItems_last {c after : Cursor} {done : List Json} {p : Nat}
    (read : readValue fuel depth c = .ok (v, after)) (behind : after.skipBlanks = ⟨p, 0x5d :: rest⟩) :
    readItems (fuel + 1) depth done c = .ok (.array (v :: done).reverse, ⟨p + 1, rest⟩) := by
  simp only [readItems, read, bind, Except.bind, behind]
  rfl

theorem readItems_more {c after : Cursor} {done : List Json} {p : Nat}
    (read : readValue fuel depth c = .ok (v, after)) (behind : after.skipBlanks = ⟨p, 0x2c :: rest⟩) :
    readItems (fuel + 1) depth done c =
      readItems fuel depth (v :: done) (Cursor.skipBlanks ⟨p + 1, rest⟩) := by
  simp only [readItems, read, bind, Except.bind, behind]
  rfl

/-- The items of an array are read up to its closing bracket, the blanks in front skipped. -/
theorem readItems_of_items {items : List Item} (nonempty : items ≠ [])
    (each : ∀ i ∈ items, Spells depth i.text i.value)
    (complete : ∀ i ∈ items, ValueComplete depth i.text i.value) (done : List Json) (p : Nat)
    (enough : 2 * (Text.joinWith 0x2c (items.map (·.spelling))).length + 1 ≤ fuel) (rest : Text) :
    ∃ p', readItems fuel depth done
        (Cursor.skipBlanks ⟨p, Text.joinWith 0x2c (items.map (·.spelling)) ++ 0x5d :: rest⟩) =
      .ok (.array (done.reverse ++ items.map (·.value)), ⟨p', rest⟩) := by
  have reads : ReadsParts 0x5d Item.spelling Item.value .array (fun fuel => readItems fuel depth)
      items := by
    intro i member fuel done p rest fits
    constructor
    · obtain ⟨ends, noBlank⟩ := endsValue_cons (.inr (.inl rfl)) rest
      obtain ⟨after, p', read, behind⟩ :=
        readValue_of_item (each i member) (complete i member) ends noBlank fits p
      exact ⟨p' + 1, readItems_last read behind⟩
    · obtain ⟨ends, noBlank⟩ := endsValue_cons (.inl rfl) rest
      obtain ⟨after, p', read, behind⟩ :=
        readValue_of_item (each i member) (complete i member) ends noBlank fits p
      exact ⟨p' + 1, readItems_more read behind⟩
  exact reads.joined nonempty done p enough rest

/-- The name and the value of a member are read from a place, with the colon between them, up to the
next place that holds no blank. -/
def ReadsMember (fuel depth : Nat) (c : Cursor) (t : Text) (v : Json) (next : Cursor) : Prop :=
  ∃ tail afterName q value after, c.rest = 0x22 :: tail ∧
    readChars c.position (c.position + 1) [] tail = .ok (t, afterName) ∧
    afterName.skipBlanks = ⟨q, 0x3a :: value⟩ ∧
    readValue fuel depth (Cursor.skipBlanks ⟨q + 1, value⟩) = .ok (v, after) ∧
    after.skipBlanks = next

theorem readMembers_last {c : Cursor} {t : Text} {done : List (Text × Json)} {p : Nat}
    (reads : ReadsMember fuel depth c t v ⟨p, 0x7d :: rest⟩) :
    readMembers (fuel + 1) depth done c =
      .ok (.object (ofMembers ((t, v) :: done).reverse), ⟨p + 1, rest⟩) := by
  obtain ⟨tail, afterName, q, value, after, quote, readName, colon, read, behind⟩ := reads
  obtain ⟨position, _⟩ := c
  subst quote
  have read : readValue fuel depth (Cursor.advance ⟨q, 0x3a :: value⟩ 1).skipBlanks =
      .ok (v, after) := read
  simp only [readMembers, readName, colon, read, bind, Except.bind, behind]
  rfl

theorem readMembers_more {c : Cursor} {t : Text} {done : List (Text × Json)} {p : Nat}
    (reads : ReadsMember fuel depth c t v ⟨p, 0x2c :: rest⟩) :
    readMembers (fuel + 1) depth done c =
      readMembers fuel depth ((t, v) :: done) (Cursor.skipBlanks ⟨p + 1, rest⟩) := by
  obtain ⟨tail, afterName, q, value, after, quote, readName, colon, read, behind⟩ := reads
  obtain ⟨position, _⟩ := c
  subst quote
  have read : readValue fuel depth (Cursor.advance ⟨q, 0x3a :: value⟩ 1).skipBlanks =
      .ok (v, after) := read
  simp only [readMembers, readName, colon, read, bind, Except.bind, behind]
  rfl

/-- A member is read up to what stands behind it, the blanks around it skipped. -/
theorem readsMember_of_member {m : Member} (spells : Spells depth m.item.text m.item.value)
    (complete : ValueComplete depth m.item.text m.item.value) (ends : EndsValue rest)
    (noBlank : NoBlank rest) (fits : 2 * m.spelling.length ≤ fuel) (p : Nat) :
    ∃ p', ReadsMember fuel depth (Cursor.skipBlanks ⟨p, m.spelling ++ rest⟩) m.name m.item.value
      ⟨p', rest⟩ := by
  have split : m.spelling ++ rest = m.before ++
      0x22 :: (m.body ++ 0x22 :: (m.after ++ 0x3a :: (m.item.spelling ++ rest))) := by
    simp [Member.spelling]
  have quote : NoBlank (0x22 :: (m.body ++ 0x22 :: (m.after ++ 0x3a :: (m.item.spelling ++ rest)))) :=
    fun c head => by cases head; rfl
  have colon : NoBlank (0x3a :: (m.item.spelling ++ rest)) := fun c head => by cases head; rfl
  have itemFits : 2 * m.item.spelling.length ≤ fuel := by
    simp only [Member.spelling, List.length_append, List.length_cons] at fits
    omega
  rw [split, skipBlanks_append m.isBefore quote]
  obtain ⟨q, readName⟩ := readChars_of_body m.isName (p + m.before.length)
    (p + m.before.length + 1) [] (m.after ++ 0x3a :: (m.item.spelling ++ rest))
  obtain ⟨after, p', read, behind⟩ :=
    readValue_of_item spells complete ends noBlank itemFits (q + m.after.length + 1)
  exact ⟨p', _, _, _, _, after, rfl, readName, skipBlanks_append m.isAfter colon q, read, behind⟩

/-- The members of an object are read up to its closing brace, the blanks in front skipped. -/
theorem readMembers_of_members {members : List Member} (nonempty : members ≠ [])
    (each : ∀ m ∈ members, Spells depth m.item.text m.item.value)
    (complete : ∀ m ∈ members, ValueComplete depth m.item.text m.item.value)
    (done : List (Text × Json)) (p : Nat)
    (enough : 2 * (Text.joinWith 0x2c (members.map (·.spelling))).length + 1 ≤ fuel) (rest : Text) :
    ∃ p', readMembers fuel depth done
        (Cursor.skipBlanks ⟨p, Text.joinWith 0x2c (members.map (·.spelling)) ++ 0x7d :: rest⟩) =
      .ok (.object (ofMembers (done.reverse ++ members.map fun m => (m.name, m.item.value))),
        ⟨p', rest⟩) := by
  have reads : ReadsParts 0x7d Member.spelling (fun m => (m.name, m.item.value))
      (fun members => .object (ofMembers members)) (fun fuel => readMembers fuel depth) members := by
    intro m member fuel done p rest fits
    constructor
    · obtain ⟨ends, noBlank⟩ := endsValue_cons (.inr (.inr rfl)) rest
      obtain ⟨p', reads⟩ :=
        readsMember_of_member (each m member) (complete m member) ends noBlank fits p
      exact ⟨p' + 1, readMembers_last reads⟩
    · obtain ⟨ends, noBlank⟩ := endsValue_cons (.inl rfl) rest
      obtain ⟨p', reads⟩ :=
        readsMember_of_member (each m member) (complete m member) ends noBlank fits p
      exact ⟨p' + 1, readMembers_more reads⟩
  exact reads.joined nonempty done p enough rest

/-! ## Arrays and objects -/

theorem readValue_bracket {t : Text} {p : Nat} :
    readValue (fuel + 1) (depth + 1) ⟨p, 0x5b :: t⟩ =
      if (Cursor.skipBlanks ⟨p + 1, t⟩).rest.head? = some 0x5d then
        .ok (.array [], (Cursor.skipBlanks ⟨p + 1, t⟩).advance 1)
      else readItems fuel depth [] (Cursor.skipBlanks ⟨p + 1, t⟩) := rfl

theorem readValue_brace {t : Text} {p : Nat} :
    readValue (fuel + 1) (depth + 1) ⟨p, 0x7b :: t⟩ =
      if (Cursor.skipBlanks ⟨p + 1, t⟩).rest.head? = some 0x7d then
        .ok (.object [], (Cursor.skipBlanks ⟨p + 1, t⟩).advance 1)
      else readMembers fuel depth [] (Cursor.skipBlanks ⟨p + 1, t⟩) := rfl

/-- Joined texts start with the first of them. -/
theorem joinWith_starts (c : CodePoint) (t : Text) (list : List Text) :
    ∃ rest, Text.joinWith c (t :: list) = t ++ rest := by
  cases list with
  | nil => exact ⟨[], (List.append_nil t).symm⟩
  | cons u list => exact ⟨_, rfl⟩

/-- The first item of an array does not start with a closing bracket. -/
theorem items_head {items : List Item} (nonempty : items ≠ [])
    (each : ∀ i ∈ items, Spells depth i.text i.value) (p : Nat) (rest : Text) :
    (Cursor.skipBlanks
      ⟨p, Text.joinWith 0x2c (items.map (·.spelling)) ++ rest⟩).rest.head? ≠ some 0x5d := by
  cases items with
  | nil => exact absurd rfl nonempty
  | cons i items =>
      have spells := each i List.mem_cons_self
      obtain ⟨more, starts⟩ := joinWith_starts 0x2c i.spelling (items.map (·.spelling))
      have split : Text.joinWith 0x2c ((i :: items).map (·.spelling)) ++ rest =
          i.before ++ (i.text ++ (i.after ++ (more ++ rest))) := by
        rw [List.map_cons, starts]
        simp [Item.spelling]
      rw [split, skipBlanks_append i.isBefore (noBlank_of_spells spells _)]
      obtain ⟨c, tail, text, -, notBracket, -⟩ := spells_head spells
      rw [text]
      exact fun head => notBracket (Option.some.inj head)

/-- The first member of an object starts with a quote, and so with no closing brace. -/
theorem members_head {members : List Member} (nonempty : members ≠ []) (p : Nat) (rest : Text) :
    (Cursor.skipBlanks
      ⟨p, Text.joinWith 0x2c (members.map (·.spelling)) ++ rest⟩).rest.head? ≠ some 0x7d := by
  cases members with
  | nil => exact absurd rfl nonempty
  | cons m members =>
      obtain ⟨more, starts⟩ := joinWith_starts 0x2c m.spelling (members.map (·.spelling))
      obtain ⟨tail, split⟩ : ∃ tail, Text.joinWith 0x2c ((m :: members).map (·.spelling)) ++ rest =
          m.before ++ 0x22 :: tail := by
        refine ⟨m.body ++ 0x22 :: (m.after ++ 0x3a :: (m.item.spelling ++ (more ++ rest))), ?_⟩
        rw [List.map_cons, starts]
        simp [Member.spelling]
      have quote : NoBlank (0x22 :: tail) := fun c head => by cases head; rfl
      rw [split, skipBlanks_append m.isBefore quote]
      exact fun head => absurd (Option.some.inj head) (by decide)

/-- A text that spells a value is read as that value, in front of whatever may follow it. -/
theorem readValue_of_spells (spells : Spells depth s v) : ValueComplete depth s v := by
  induction spells with
  | word known => exact valueComplete_word known
  | number magnitude => exact valueComplete_number magnitude
  | negative magnitude => exact valueComplete_negative magnitude
  | text isBody => exact valueComplete_text isBody
  | @emptyArray depth inside blanks =>
      intro fuel p rest ends enough
      obtain ⟨fuel, rfl, enough⟩ := fuel_of_cons enough
      have split : 0x5b :: (inside ++ [0x5d]) ++ rest = 0x5b :: (inside ++ 0x5d :: rest) := by simp
      have skipped := skipBlanks_append blanks (endsValue_cons (.inr (.inl rfl)) rest).2 (p + 1)
      rw [split, readValue_bracket, skipped]
      exact ⟨_, rfl⟩
  | @array depth items nonempty each complete =>
      intro fuel p rest ends enough
      obtain ⟨fuel, rfl, enough⟩ := fuel_of_cons enough
      have split : 0x5b :: (Text.joinWith 0x2c (items.map (·.spelling)) ++ [0x5d]) ++ rest =
          0x5b :: (Text.joinWith 0x2c (items.map (·.spelling)) ++ 0x5d :: rest) := by simp
      have fits : 2 * (Text.joinWith 0x2c (items.map (·.spelling))).length + 1 ≤ fuel := by
        simp at enough
        omega
      obtain ⟨p', read⟩ := readItems_of_items nonempty each complete [] (p + 1) fits rest
      refine ⟨p', ?_⟩
      rw [split, readValue_bracket, if_neg (items_head nonempty each _ _), read]
      rfl
  | @emptyObject depth inside blanks =>
      intro fuel p rest ends enough
      obtain ⟨fuel, rfl, enough⟩ := fuel_of_cons enough
      have split : 0x7b :: (inside ++ [0x7d]) ++ rest = 0x7b :: (inside ++ 0x7d :: rest) := by simp
      have skipped := skipBlanks_append blanks (endsValue_cons (.inr (.inr rfl)) rest).2 (p + 1)
      rw [split, readValue_brace, skipped]
      exact ⟨_, rfl⟩
  | @object depth members nonempty each complete =>
      intro fuel p rest ends enough
      obtain ⟨fuel, rfl, enough⟩ := fuel_of_cons enough
      have split : 0x7b :: (Text.joinWith 0x2c (members.map (·.spelling)) ++ [0x7d]) ++ rest =
          0x7b :: (Text.joinWith 0x2c (members.map (·.spelling)) ++ 0x7d :: rest) := by simp
      have fits : 2 * (Text.joinWith 0x2c (members.map (·.spelling))).length + 1 ≤ fuel := by
        simp at enough
        omega
      obtain ⟨p', read⟩ := readMembers_of_members nonempty each complete [] (p + 1) fits rest
      refine ⟨p', ?_⟩
      rw [split, readValue_brace, if_neg (members_head nonempty _ _), read]
      rfl

/-! ## Documents -/

/-- A document does not start with a byte order mark. -/
theorem Document.head_ne {t : Text} (document : Document t v) : t.head? ≠ some 0xfeff := by
  obtain ⟨before, text, after, isBefore, -, rfl, spells⟩ := document
  cases before with
  | nil =>
      obtain ⟨c, tail, rfl, -, -, noMark⟩ := spells_head spells
      exact fun head => noMark (Option.some.inj head)
  | cons b before =>
      intro head
      have blank := isBefore b List.mem_cons_self
      rw [Option.some.inj head] at blank
      cases blank

/-- What the grammar calls a document is read as its value. -/
theorem read_of_document {t : Text} (document : Document t v) : read t = .ok v := by
  have noMark := document.head_ne
  obtain ⟨before, text, after, isBefore, isAfter, rfl, spells⟩ := document
  have ends : EndsValue (after ++ []) := EndsValue.append isAfter fun c head => by cases head
  rw [List.append_nil] at ends
  have fits : 2 * text.length ≤ 2 * (before ++ (text ++ after)).length + 2 := by
    simp only [List.length_append]
    omega
  obtain ⟨p', readText⟩ := readValue_of_spells spells (p := 0 + before.length) ends fits
  have noMore : NoBlank [] := fun c head => by cases head
  have behind := skipBlanks_append isAfter noMore p'
  rw [List.append_nil] at behind
  rw [read, if_neg noMark, skipBlanks_append isBefore (noBlank_of_spells spells _), readText]
  simp only [bind, Except.bind, behind]
  rfl

/-- The reader decides the grammar: it reads the documents, and each as the value that it spells. -/
theorem read_eq_ok_iff {t : Text} : read t = .ok v ↔ Document t v :=
  ⟨document_of_read, read_of_document⟩

end NotebookAudit.Json

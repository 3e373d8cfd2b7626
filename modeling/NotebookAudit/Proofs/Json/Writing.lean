import NotebookAudit.Proofs.Json.Completeness
import NotebookAudit.Proofs.Json.Escapes

/-!
What is written as JSON is JSON.

`Json.Writable` says which values can be written and read back: integers within the digit limit,
objects whose names are distinct, texts as `Json.WritableText` says, and containers that nest no deeper
than the limit. In whatever style such a value is written, the text spells it
(`Json.document_write`), and it consists of characters that can be encoded
(`Json.isEncodable_write`).
-/

namespace NotebookAudit.Json

variable {asciiOnly : Bool} {s : Style} {depth level : Nat} {v : Json} {name after : Text}
  {members : List (Text × Json)}

/-- A value that can be written and read back, in which arrays and objects nest at most `depth` deep.
Whether a double is read back is a property of its digits. -/
inductive Writable (asciiOnly : Bool) : (depth : Nat) → Json → Prop
  | null {depth : Nat} : Writable asciiOnly depth .null
  | bool {depth : Nat} (b : Bool) : Writable asciiOnly depth (.bool b)
  | int {depth : Nat} {i : Int} (short : i.natAbs < 10 ^ digitLimit) :
    Writable asciiOnly depth (.int i)
  | float {depth : Nat} {d : Double} (readsBack : Spells depth (FloatStyle.json.write d) (.float d)) :
    Writable asciiOnly depth (.float d)
  | text {depth : Nat} {t : Text} (isText : WritableText asciiOnly t) :
    Writable asciiOnly depth (.text t)
  | array {depth : Nat} {items : List Json} (each : ∀ v ∈ items, Writable asciiOnly depth v) :
    Writable asciiOnly (depth + 1) (.array items)
  | object {depth : Nat} {members : List (Text × Json)}
    (distinct : (members.map Prod.fst).Nodup)
    (names : ∀ m ∈ members, WritableText asciiOnly m.1)
    (each : ∀ m ∈ members, Writable asciiOnly depth m.2) :
    Writable asciiOnly (depth + 1) (.object members)

/-! ## Distinct names -/

theorem setMember_of_absent (absent : name ∉ members.map Prod.fst) (v : Json) :
    setMember name v members = members ++ [(name, v)] := by
  induction members with
  | nil => rfl
  | cons m members ih =>
      rw [List.map_cons, List.mem_cons, not_or] at absent
      rw [setMember, if_neg fun same => absent.1 same.symm, ih absent.2, List.cons_append]

/-- Members with distinct names are kept as they are. -/
theorem ofMembers_of_nodup (distinct : (members.map Prod.fst).Nodup) :
    ofMembers members = members := by
  have append (rest done : List (Text × Json)) (distinct : ((done ++ rest).map Prod.fst).Nodup) :
      rest.foldl (fun all m => setMember m.1 m.2 all) done = done ++ rest := by
    induction rest generalizing done with
    | nil => rw [List.foldl_nil, List.append_nil]
    | cons m rest ih =>
        have absent : m.1 ∉ done.map Prod.fst := by
          rw [List.map_append, List.nodup_append] at distinct
          exact fun member => distinct.2.2 m.1 member m.1 List.mem_cons_self rfl
        rw [List.append_cons] at distinct ⊢
        rw [List.foldl_cons, setMember_of_absent absent, ih _ distinct]
  exact append members [] distinct

/-! ## Numbers -/

/-- An integer within the digit limit is read back. -/
theorem spells_ofInt {i : Int} (short : i.natAbs < 10 ^ digitLimit) :
    Spells depth (Text.ofInt i) (.int i) := by
  have digits {n : Nat} (short : n < 10 ^ digitLimit) : (Text.ofNat n).length ≤ digitLimit :=
    (Text.length_ofNat_le_iff (by decide)).mpr short
  cases i with
  | ofNat n =>
      have magnitude : Magnitude false (Text.ofNat n) _ := .int (Text.isWhole_ofNat n) (digits short)
      rw [Text.value_ofNat] at magnitude
      exact .number magnitude
  | negSucc n =>
      have magnitude : Magnitude true (Text.ofNat (n + 1)) _ :=
        .int (Text.isWhole_ofNat (n + 1)) (digits short)
      rw [Text.value_ofNat] at magnitude
      exact .negative magnitude

/-! ## Containers -/

theorem isBlanks_newLine (s : Style) (level : Nat) : IsBlanks (s.newLine level) := by
  intro c member
  rw [Style.newLine] at member
  split at member
  · cases member
  · rcases List.mem_cons.mp member with rfl | indented
    · rfl
    · rw [List.eq_of_mem_replicate indented]
      rfl

theorem exists_colon (s : Style) : ∃ blanks, IsBlanks blanks ∧ s.colon = 0x3a :: blanks := by
  rw [Style.colon]
  cases s.indent with
  | none => exact ⟨[], List.forall_mem_nil _, rfl⟩
  | some width => exact ⟨[0x20], List.forall_mem_singleton.mpr rfl, rfl⟩

/-- The first value of an array and the others, as they are written, are items. -/
theorem exists_items {rest : List Json}
    (each : ∀ w ∈ v :: rest, Spells depth (writeAt s level w) w) (isAfter : IsBlanks after) :
    ∃ items : List Item, items ≠ [] ∧ (∀ i ∈ items, Spells depth i.text i.value) ∧
      items.map (·.value) = v :: rest ∧
      Text.joinWith 0x2c (items.map (·.spelling)) =
        s.newLine level ++ (writeAt s level v ++ (writeItems s level rest ++ after)) := by
  induction rest generalizing v with
  | nil =>
      let item : Item := ⟨s.newLine level, writeAt s level v, after, v, isBlanks_newLine s level, isAfter⟩
      exact ⟨[item], List.cons_ne_nil _ _, List.forall_mem_singleton.mpr (each v List.mem_cons_self),
        rfl, rfl⟩
  | cons w rest ih =>
      obtain ⟨first, others⟩ := List.forall_mem_cons.mp each
      obtain ⟨items, nonempty, spells, values, joined⟩ := ih others
      let item : Item := ⟨s.newLine level, writeAt s level v, [], v, isBlanks_newLine s level,
        List.forall_mem_nil _⟩
      refine ⟨item :: items, List.cons_ne_nil _ _, List.forall_mem_cons.mpr ⟨first, spells⟩,
        congrArg (v :: ·) values, ?_⟩
      have spelling : item.spelling = s.newLine level ++ writeAt s level v := by
        rw [Item.spelling, List.append_nil]
      rw [List.map_cons, joinWith_cons _ _ (by simpa using nonempty), joined, spelling, writeItems]
      simp only [List.append_assoc]
      rfl

/-- A member, as it is written, is a member. -/
theorem exists_member (isName : WritableText s.asciiOnly name) (level : Nat) (v : Json)
    (isAfter : IsBlanks after) :
    ∃ m : Member, (m.name, m.item.value) = (name, v) ∧ m.item.text = writeAt s level v ∧
      m.spelling = s.newLine level ++
        (writeText s.asciiOnly name ++ (s.colon ++ (writeAt s level v ++ after))) := by
  obtain ⟨blanks, isBlanks, colon⟩ := exists_colon s
  let item : Item := ⟨blanks, writeAt s level v, after, v, isBlanks, isAfter⟩
  let member : Member := ⟨s.newLine level, name.flatMap (writeChar s.asciiOnly), [], name, item,
    isBlanks_newLine s level, List.forall_mem_nil _, body_writeChars isName⟩
  refine ⟨member, rfl, rfl, ?_⟩
  rw [colon, writeText, Member.spelling, Item.spelling]
  simp only [member, item, List.append_assoc, List.cons_append, List.nil_append]

/-- The first member of an object and the others, as they are written, are members. -/
theorem exists_members {rest : List (Text × Json)}
    (names : ∀ m ∈ (name, v) :: rest, WritableText s.asciiOnly m.1)
    (each : ∀ m ∈ (name, v) :: rest, Spells depth (writeAt s level m.2) m.2)
    (isAfter : IsBlanks after) :
    ∃ members : List Member, members ≠ [] ∧
      (∀ m ∈ members, Spells depth m.item.text m.item.value) ∧
      members.map (fun m => (m.name, m.item.value)) = (name, v) :: rest ∧
      Text.joinWith 0x2c (members.map (·.spelling)) =
        s.newLine level ++ (writeText s.asciiOnly name ++
          (s.colon ++ (writeAt s level v ++ (writeMembers s level rest ++ after)))) := by
  have spells {name : Text} {v : Json} {m : Member} (isMember : (m.name, m.item.value) = (name, v))
      (text : m.item.text = writeAt s level v) (value : Spells depth (writeAt s level v) v) :
      Spells depth m.item.text m.item.value := by
    rw [text, (Prod.mk.inj isMember).2]
    exact value
  induction rest generalizing name v with
  | nil =>
      obtain ⟨m, isMember, text, spelling⟩ :=
        exists_member (names (name, v) List.mem_cons_self) level v isAfter
      refine ⟨[m], List.cons_ne_nil _ _, List.forall_mem_singleton.mpr ?_,
        congrArg ([·]) isMember, spelling⟩
      exact spells isMember text (each (name, v) List.mem_cons_self)
  | cons w rest ih =>
      obtain ⟨isName, names⟩ := List.forall_mem_cons.mp names
      obtain ⟨first, others⟩ := List.forall_mem_cons.mp each
      obtain ⟨members, nonempty, spellsOthers, values, joined⟩ := ih names others
      obtain ⟨m, isMember, text, spelling⟩ := exists_member isName level v (List.forall_mem_nil _)
      refine ⟨m :: members, List.cons_ne_nil _ _,
        List.forall_mem_cons.mpr ⟨spells isMember text first, spellsOthers⟩, ?_, ?_⟩
      · rw [List.map_cons, isMember, values]
      · rw [List.map_cons, joinWith_cons _ _ (by simpa using nonempty), joined, spelling, writeMembers]
        simp only [List.append_assoc, List.nil_append]
        rfl

/-! ## Values -/

/-- In whatever style and at whatever level a value is written, the text spells it. -/
theorem spells_writeAt (writable : Writable s.asciiOnly depth v) (level : Nat) :
    Spells depth (writeAt s level v) v := by
  induction writable generalizing level with
  | null =>
      rw [writeAt]
      exact .word (.head _)
  | bool b =>
      cases b with
      | true => exact .word (.tail _ (.head _))
      | false => exact .word (.tail _ (.tail _ (.head _)))
  | int short =>
      rw [writeAt]
      exact spells_ofInt short
  | float readsBack =>
      rw [writeAt]
      exact readsBack
  | text isText =>
      rw [writeAt, writeText, List.cons_append]
      exact .text (body_writeChars isText)
  | @array depth items each ih =>
      cases items with
      | nil =>
          rw [writeAt]
          exact .emptyArray (List.forall_mem_nil _)
      | cons v rest =>
          obtain ⟨items, nonempty, spells, values, joined⟩ :=
            exists_items (fun w member => ih w member (level + 1)) (isBlanks_newLine s level)
          have whole : writeAt s level (.array (v :: rest)) =
              0x5b :: (Text.joinWith 0x2c (items.map (·.spelling)) ++ [0x5d]) := by
            rw [writeAt, joined]
            simp only [List.append_assoc]
            rfl
          rw [whole, ← values]
          exact .array nonempty spells
  | @object depth members distinct names each ih =>
      cases members with
      | nil =>
          rw [writeAt]
          exact .emptyObject (List.forall_mem_nil _)
      | cons m rest =>
          obtain ⟨name, v⟩ := m
          obtain ⟨members, nonempty, spells, values, joined⟩ :=
            exists_members names (fun w member => ih w member (level + 1)) (isBlanks_newLine s level)
          have whole : writeAt s level (.object ((name, v) :: rest)) =
              0x7b :: (Text.joinWith 0x2c (members.map (·.spelling)) ++ [0x7d]) := by
            rw [writeAt, joined]
            simp only [List.append_assoc]
            rfl
          have isObject : (name, v) :: rest =
              ofMembers (members.map fun m => (m.name, m.item.value)) := by
            rw [values, ofMembers_of_nodup distinct]
          rw [whole, isObject]
          exact .object nonempty spells

/-- In whatever style a value is written, the text is a document of the value. -/
theorem document_write (writable : Writable s.asciiOnly depthLimit v) : Document (write s v) v :=
  ⟨[], write s v, [], List.forall_mem_nil _, List.forall_mem_nil _, (List.append_nil _).symm,
    spells_writeAt writable 0⟩

/-! ## Characters -/

/-- A text of characters of ASCII that are shown, with no blanks. -/
def Graphic (t : Text) : Prop := ∀ c : Nat, c ∈ t → 0x20 < c ∧ c < 0x7f

instance (t : Text) : Decidable (Graphic t) := List.decidableBAll _ t

theorem Graphic.append {t u : Text} (first : Graphic t) (second : Graphic u) : Graphic (t ++ u) :=
  List.forall_mem_append.mpr ⟨first, second⟩

theorem Graphic.printed {t : Text} (graphic : Graphic t) : Printed asciiOnly t :=
  printed_of_ascii fun c member => ⟨Nat.le_of_lt (graphic c member).1, (graphic c member).2⟩

theorem graphic_ofNat (n : Nat) : Graphic (Text.ofNat n) := by
  intro c member
  have digit : 0x30 ≤ c ∧ c ≤ 0x39 := by
    simpa [CodePoint.isAsciiDigit] using Text.isDigits_ofNat n c member
  omega

theorem graphic_ofInt (i : Int) : Graphic (Text.ofInt i) := by
  cases i with
  | ofNat n => exact graphic_ofNat n
  | negSucc n =>
      have minus : Graphic [0x2d] := by decide
      exact minus.append (graphic_ofNat (n + 1))

theorem graphic_replicate (k : Nat) : Graphic (List.replicate k 0x30) := by
  intro c member
  rw [List.eq_of_mem_replicate member]
  decide

theorem graphic_digits (d : Decimal) : Graphic (FloatStyle.json.digits d) := by
  have digits := graphic_ofNat d.significand
  have point : Graphic [0x2e] := by decide
  unfold FloatStyle.digits
  dsimp only
  split
  · split
    · have zero : Graphic ".0" := by decide
      exact (digits.append (graphic_replicate _)).append zero
    split
    · refine .append (fun c member => digits c (List.mem_of_mem_take member)) (point.append ?_)
      exact fun c member => digits c (List.mem_of_mem_drop member)
    · have zero : Graphic "0." := by decide
      exact (zero.append (graphic_replicate _)).append digits
  · refine .append (.append (.append ?_ ?_) (graphic_replicate _)) (graphic_ofNat _)
    · generalize Text.ofNat d.significand = ds at digits
      split
      · exact digits
      · exact digits
      · next c rest _ =>
        obtain ⟨first, others⟩ := List.forall_mem_cons.mp digits
        exact List.forall_mem_cons.mpr ⟨first, point.append others⟩
    · split
      · decide
      · decide

/-- A double is written without blanks. -/
theorem graphic_writeFloat (d : Double) : Graphic (FloatStyle.json.write d) := by
  have sign (negative : Bool) : Graphic (if negative then [0x2d] else []) := by
    cases negative <;> decide
  cases d with
  | nan =>
      show Graphic "NaN"
      decide
  | infinity negative =>
      have word : Graphic "Infinity" := by decide
      exact (sign negative).append word
  | finite negative m e =>
      refine (sign negative).append ?_
      split
      · decide
      · exact graphic_digits _

theorem printed_newLine (s : Style) (level : Nat) : Printed s.asciiOnly (s.newLine level) := by
  intro c member
  rw [Style.newLine] at member
  split at member
  · cases member
  · rcases List.mem_cons.mp member with lineFeed | indented
    · exact .inl lineFeed
    · have blank : Printed s.asciiOnly [0x20] := printed_of_ascii (by decide)
      rw [List.eq_of_mem_replicate indented]
      exact blank _ List.mem_cons_self

theorem printed_colon (s : Style) : Printed s.asciiOnly s.colon := by
  rw [Style.colon]
  split
  · exact printed_of_ascii (by decide)
  · exact printed_of_ascii (by decide)

theorem printed_writeItems {rest : List Json}
    (each : ∀ v ∈ rest, Printed s.asciiOnly (writeAt s level v)) :
    Printed s.asciiOnly (writeItems s level rest) := by
  have comma : Printed s.asciiOnly [0x2c] := printed_of_ascii (by decide)
  induction rest with
  | nil =>
      rw [writeItems]
      exact List.forall_mem_nil _
  | cons v rest ih =>
      obtain ⟨first, others⟩ := List.forall_mem_cons.mp each
      rw [writeItems]
      exact .append (.append (.append comma (printed_newLine s level)) first) (ih others)

theorem printed_writeMembers {rest : List (Text × Json)}
    (names : ∀ m ∈ rest, WritableText s.asciiOnly m.1)
    (each : ∀ m ∈ rest, Printed s.asciiOnly (writeAt s level m.2)) :
    Printed s.asciiOnly (writeMembers s level rest) := by
  have comma : Printed s.asciiOnly [0x2c] := printed_of_ascii (by decide)
  induction rest with
  | nil =>
      rw [writeMembers]
      exact List.forall_mem_nil _
  | cons m rest ih =>
      obtain ⟨isName, names⟩ := List.forall_mem_cons.mp names
      obtain ⟨first, others⟩ := List.forall_mem_cons.mp each
      rw [writeMembers]
      exact .append (.append (.append (.append (.append comma (printed_newLine s level))
        (printed_writeText isName)) (printed_colon s)) first) (ih names others)

/-- In whatever style and at whatever level a value is written, all characters can be encoded, and
they are ASCII where the others are escaped. -/
theorem printed_writeAt (writable : Writable s.asciiOnly depth v) (level : Nat) :
    Printed s.asciiOnly (writeAt s level v) := by
  induction writable generalizing level with
  | null =>
      rw [writeAt]
      exact printed_of_ascii (by decide)
  | bool b =>
      cases b with
      | true =>
          rw [writeAt]
          exact printed_of_ascii (by decide)
      | false =>
          rw [writeAt]
          exact printed_of_ascii (by decide)
  | @int _ i short =>
      rw [writeAt]
      exact (graphic_ofInt i).printed
  | @float _ d readsBack =>
      rw [writeAt]
      exact (graphic_writeFloat d).printed
  | text isText =>
      rw [writeAt]
      exact printed_writeText isText
  | @array depth items each ih =>
      cases items with
      | nil =>
          rw [writeAt]
          exact printed_of_ascii (by decide)
      | cons v rest =>
          obtain ⟨first, others⟩ := List.forall_mem_cons.mp fun v member => ih v member (level + 1)
          rw [writeAt]
          have opened : Printed s.asciiOnly [0x5b] := printed_of_ascii (by decide)
          have closed : Printed s.asciiOnly [0x5d] := printed_of_ascii (by decide)
          exact .append (.append (.append (.append (.append opened (printed_newLine s (level + 1)))
            first) (printed_writeItems others)) (printed_newLine s level)) closed
  | @object depth members distinct names each ih =>
      cases members with
      | nil =>
          rw [writeAt]
          exact printed_of_ascii (by decide)
      | cons m rest =>
          obtain ⟨isName, names⟩ := List.forall_mem_cons.mp names
          obtain ⟨first, others⟩ := List.forall_mem_cons.mp fun m member => ih m member (level + 1)
          rw [writeAt]
          have opened : Printed s.asciiOnly [0x7b] := printed_of_ascii (by decide)
          have closed : Printed s.asciiOnly [0x7d] := printed_of_ascii (by decide)
          exact .append (.append (.append (.append (.append (.append (.append opened
            (printed_newLine s (level + 1))) (printed_writeText isName)) (printed_colon s)) first)
            (printed_writeMembers names others)) (printed_newLine s level)) closed

/-- In whatever style a value is written, the text can be encoded. -/
theorem isEncodable_write (writable : Writable s.asciiOnly depth v) :
    Utf8.IsEncodable (write s v) := (printed_writeAt writable 0).isEncodable

end NotebookAudit.Json

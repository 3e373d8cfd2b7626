import Mathlib.Data.List.Chain
import NotebookAudit.Proofs.Json.Writing

/-!
Values that are read from JSON texts.

A value that is spelled by a text of scalar values can be written again: its texts hold no two halves of
a surrogate pair side by side, its integers are within the digit limit, and the names of its objects are
distinct (`Json.writable_of_spells`). Two things are left to be asked: how deep its arrays and objects
nest (`Json.nesting`), and that the doubles in it are read back (`Json.KeepsDoubles`). In the other
direction, what can be written is read from a text (`Json.Writable.isDecoded`).
-/

namespace NotebookAudit.Json

variable {depth : Nat} {s t name : Text} {v : Json} {members : List (Text × Json)}

/-! ## Nesting, and doubles in a value -/

mutual

/-- How deep arrays and objects nest in a value. -/
def nesting : Json → Nat
  | .array items => nestingItems items + 1
  | .object members => nestingMembers members + 1
  | _ => 0

/-- How deep arrays and objects nest in the items of an array. -/
def nestingItems : List Json → Nat
  | [] => 0
  | v :: rest => max (nesting v) (nestingItems rest)

/-- How deep arrays and objects nest in the members of an object. -/
def nestingMembers : List (Text × Json) → Nat
  | [] => 0
  | (_, v) :: rest => max (nesting v) (nestingMembers rest)

end

theorem nestingItems_le_iff {items : List Json} :
    nestingItems items ≤ depth ↔ ∀ v ∈ items, nesting v ≤ depth := by
  induction items with
  | nil => simp [nestingItems]
  | cons v rest ih => rw [nestingItems, Nat.max_le, List.forall_mem_cons, ih]

theorem nestingMembers_le_iff :
    nestingMembers members ≤ depth ↔ ∀ m ∈ members, nesting m.2 ≤ depth := by
  induction members with
  | nil => simp [nestingMembers]
  | cons m rest ih =>
      obtain ⟨name, v⟩ := m
      rw [nestingMembers, Nat.max_le, List.forall_mem_cons, ih]

/-- The items of an array nest one less deep than the array. -/
theorem exists_depth_of_array {items : List Json} (shallow : nesting (.array items) ≤ depth) :
    ∃ below, depth = below + 1 ∧ ∀ v ∈ items, nesting v ≤ below := by
  rw [nesting] at shallow
  cases depth with
  | zero => exact absurd shallow (Nat.not_succ_le_zero _)
  | succ below => exact ⟨below, rfl, nestingItems_le_iff.mp (Nat.le_of_succ_le_succ shallow)⟩

/-- The members of an object nest one less deep than the object. -/
theorem exists_depth_of_object (shallow : nesting (.object members) ≤ depth) :
    ∃ below, depth = below + 1 ∧ ∀ m ∈ members, nesting m.2 ≤ below := by
  rw [nesting] at shallow
  cases depth with
  | zero => exact absurd shallow (Nat.not_succ_le_zero _)
  | succ below => exact ⟨below, rfl, nestingMembers_le_iff.mp (Nat.le_of_succ_le_succ shallow)⟩

/-- The double stands somewhere in the value. -/
inductive Occurs (d : Double) : Json → Prop
  | here : Occurs d (.float d)
  | item {items : List Json} {v : Json} (member : v ∈ items) (inside : Occurs d v) :
    Occurs d (.array items)
  | member {members : List (Text × Json)} {m : Text × Json} (member : m ∈ members)
    (inside : Occurs d m.2) : Occurs d (.object members)

/-- The doubles in a value are read back from what is written for them. -/
def KeepsDoubles (v : Json) : Prop :=
  ∀ d, Occurs d v → read (FloatStyle.json.write d) = .ok (.float d)

/-- The value is read from some text of scalar values. -/
def IsDecoded (v : Json) : Prop := ∃ t, Utf8.IsEncodable t ∧ read t = .ok v

/-! ## Texts -/

theorem hexValue?_lt {c n : Nat} (digit : CodePoint.hexValue? c = some n) : n < 16 := by
  grind [CodePoint.hexValue?]

theorem hex4?_lt {digits : Text} {c : Nat} (spelled : hex4? digits = some c) : c < 0x10000 := by
  unfold hex4? at spelled
  split at spelled
  · simp only [Option.bind_eq_bind, Option.bind_eq_some_iff, Option.pure_def, Option.some.injEq]
      at spelled
    obtain ⟨a, first, b, second, c, third, d, fourth, rfl⟩ := spelled
    have := hexValue?_lt first
    have := hexValue?_lt second
    have := hexValue?_lt third
    have := hexValue?_lt fourth
    omega
  · cases spelled

theorem escapedChar?_lt {c d : Nat} (escaped : escapedChar? c = some d) : d < 0x80 := by
  grind [escapedChar?]

/-- The character of a surrogate pair is astral. -/
theorem joinSurrogates_bounds {high low c : Nat} (isHigh : isHighSurrogate high = true)
    (isLow : isLowSurrogate low = true) (joined : joinSurrogates high low = c) :
    0x10000 ≤ c ∧ c < 0x110000 := by
  rw [isHighSurrogate_iff] at isHigh
  rw [isLowSurrogate_iff] at isLow
  have value : 0x10000 + (high - 0xd800) * 0x400 + (low - 0xdc00) = c := joined
  omega

/-- The second half of a surrogate pair is spelled by its escape only. -/
theorem startsWithLow_of_body {d : Nat} (body : Body s t) (encodable : Utf8.IsEncodable s)
    (head : t.head? = some d) (isLow : isLowSurrogate d = true) : StartsWithLow s := by
  have bounds := isLowSurrogate_iff.mp isLow
  cases body with
  | nil => cases head
  | @plain c s t visible notQuote notBackslash rest =>
      have same : c = d := Option.some.inj head
      have scalar := Utf8.isScalar_iff.mp (encodable c List.mem_cons_self)
      rw [same] at scalar
      omega
  | @letter c c' s t escaped rest =>
      have same : c' = d := Option.some.inj head
      have small := escapedChar?_lt escaped
      rw [same] at small
      omega
  | @unit digits c s t spelled single rest =>
      have same : c = d := Option.some.inj head
      rw [← same] at isLow
      exact ⟨digits, c, s, spelled, isLow, rfl⟩
  | @pair digits digits' high low s t first isHigh second isLow' rest =>
      have same : joinSurrogates high low = d := Option.some.inj head
      have astral := (joinSurrogates_bounds isHigh isLow' same).1
      omega

theorem encodable_tail {front : Text} (encodable : Utf8.IsEncodable (front ++ s)) :
    Utf8.IsEncodable s := fun c member => encodable c (List.mem_append_right front member)

/-- The characters that a string of scalar values spells, with nothing but halves of surrogate pairs
besides other such values. -/
theorem codePoint_of_body (body : Body s t) (encodable : Utf8.IsEncodable s) :
    ∀ c : Nat, c ∈ t → c < 0x110000 := by
  induction body with
  | nil => exact fun _ member => nomatch member
  | @plain c s t visible notQuote notBackslash rest ih =>
      obtain ⟨scalar, others⟩ := List.forall_mem_cons.mp encodable
      have bounds := Utf8.isScalar_iff.mp scalar
      exact List.forall_mem_cons.mpr ⟨by omega, ih others⟩
  | @letter c d s t escaped rest ih =>
      have others : Utf8.IsEncodable ([0x5c, c] ++ s) := encodable
      have small := escapedChar?_lt escaped
      exact List.forall_mem_cons.mpr ⟨by omega, ih (encodable_tail others)⟩
  | @unit digits c s t spelled single rest ih =>
      have others : Utf8.IsEncodable ((0x5c :: 0x75 :: digits) ++ s) := encodable
      have small := hex4?_lt spelled
      exact List.forall_mem_cons.mpr ⟨by omega, ih (encodable_tail others)⟩
  | @pair digits digits' high low s t first isHigh second isLow rest ih =>
      have others : Utf8.IsEncodable ((0x5c :: 0x75 :: digits) ++ ((0x5c :: 0x75 :: digits') ++ s)) :=
        encodable
      have bounds := (joinSurrogates_bounds isHigh isLow rfl).2
      exact List.forall_mem_cons.mpr ⟨bounds, ih (encodable_tail (encodable_tail others))⟩

/-- A string of scalar values spells no two halves of a surrogate pair side by side. -/
theorem apart_of_body (body : Body s t) (encodable : Utf8.IsEncodable s) :
    t.IsChain fun c d => isHighSurrogate c = true → isLowSurrogate d = false := by
  induction body with
  | nil => exact .nil
  | @plain c s t visible notQuote notBackslash rest ih =>
      obtain ⟨scalar, others⟩ := List.forall_mem_cons.mp encodable
      exact List.isChain_cons.mpr
        ⟨fun _ _ high => absurd high (not_isHighSurrogate scalar), ih others⟩
  | @letter c d s t escaped rest ih =>
      have others : Utf8.IsEncodable ([0x5c, c] ++ s) := encodable
      have small := escapedChar?_lt escaped
      refine List.isChain_cons.mpr ⟨fun _ _ high => ?_, ih (encodable_tail others)⟩
      rw [isHighSurrogate_iff] at high
      omega
  | @unit digits c s t spelled single rest ih =>
      have others : Utf8.IsEncodable ((0x5c :: 0x75 :: digits) ++ s) := encodable
      refine List.isChain_cons.mpr ⟨fun d head high => ?_, ih (encodable_tail others)⟩
      rw [← Bool.not_eq_true]
      intro isLow
      exact single high (startsWithLow_of_body rest (encodable_tail others) head isLow)
  | @pair digits digits' high low s t first isHigh second isLow rest ih =>
      have others : Utf8.IsEncodable ((0x5c :: 0x75 :: digits) ++ ((0x5c :: 0x75 :: digits') ++ s)) :=
        encodable
      have astral := (joinSurrogates_bounds isHigh isLow rfl).1
      refine List.isChain_cons.mpr ⟨fun _ _ high => ?_, ih (encodable_tail (encodable_tail others))⟩
      rw [isHighSurrogate_iff] at high
      omega

/-- What is spelled by a string of scalar values can be written. -/
theorem writableText_of_body (body : Body s t) (encodable : Utf8.IsEncodable s) :
    WritableText true t :=
  ⟨codePoint_of_body body encodable, (fun raw => nomatch raw), apart_of_body body encodable⟩

/-! ## Members -/

theorem mem_setMember {m : Text × Json} (member : m ∈ setMember name v members) :
    m = (name, v) ∨ m ∈ members := by
  induction members with
  | nil => exact .inl (List.mem_singleton.mp member)
  | cons first rest ih =>
      rw [setMember] at member
      split at member
      · next same =>
        rcases List.mem_cons.mp member with rfl | later
        · exact .inl (by rw [same])
        · exact .inr (List.mem_cons_of_mem _ later)
      · rcases List.mem_cons.mp member with rfl | later
        · exact .inr List.mem_cons_self
        · exact (ih later).imp_right (List.mem_cons_of_mem _)

/-- The names stay distinct when a member is set. -/
theorem nodup_setMember (distinct : (members.map Prod.fst).Nodup) (name : Text) (v : Json) :
    ((setMember name v members).map Prod.fst).Nodup := by
  induction members with
  | nil => exact List.pairwise_singleton _ name
  | cons first rest ih =>
      rw [List.map_cons, List.nodup_cons] at distinct
      rw [setMember]
      split
      · exact List.nodup_cons.mpr distinct
      · next other =>
        refine List.nodup_cons.mpr ⟨fun again => ?_, ih distinct.2⟩
        obtain ⟨m, member, sameName⟩ := List.mem_map.mp again
        rcases mem_setMember member with rfl | old
        · exact other sameName.symm
        · exact distinct.1 (List.mem_map.mpr ⟨m, old, sameName⟩)

/-- The members of an object have distinct names, and each is one of those that are read. -/
theorem ofMembers_spec (members : List (Text × Json)) :
    ((ofMembers members).map Prod.fst).Nodup ∧ ∀ m ∈ ofMembers members, m ∈ members := by
  have general (done : List (Text × Json)) (distinct : (done.map Prod.fst).Nodup) :
      ((members.foldl (fun all m => setMember m.1 m.2 all) done).map Prod.fst).Nodup ∧
        ∀ m ∈ members.foldl (fun all m => setMember m.1 m.2 all) done, m ∈ done ∨ m ∈ members := by
    induction members generalizing done with
    | nil => exact ⟨distinct, fun m member => .inl member⟩
    | cons first rest ih =>
        obtain ⟨stays, each⟩ := ih _ (nodup_setMember distinct first.1 first.2)
        refine ⟨stays, fun m member => ?_⟩
        rcases each m member with set | later
        · rcases mem_setMember set with rfl | old
          · exact .inr List.mem_cons_self
          · exact .inl old
        · exact .inr (List.mem_cons_of_mem _ later)
  obtain ⟨distinct, each⟩ := general [] List.nodup_nil
  refine ⟨distinct, fun m member => ?_⟩
  rcases each m member with none | isMember
  · cases none
  · exact isMember

/-! ## Values -/

/-- What is written for a double spells it, if it is read back. -/
theorem spells_writeFloat {d : Double} (readsBack : read (FloatStyle.json.write d) = .ok (.float d)) :
    Spells depth (FloatStyle.json.write d) (.float d) := by
  obtain ⟨before, text, after, isBefore, isAfter, same, spells⟩ := read_eq_ok_iff.mp readsBack
  have graphic := graphic_writeFloat d
  have noBlank (t : Text) (isBlanks : IsBlanks t) (inside : ∀ c ∈ t, c ∈ FloatStyle.json.write d) :
      t = [] := by
    rw [List.eq_nil_iff_forall_not_mem]
    intro c member
    have shown := (graphic c (inside c member)).1
    rcases isBlank_iff.mp (isBlanks c member) with rfl | rfl | rfl | rfl
    all_goals exact absurd shown (by decide)
  have nothingBefore : before = [] := noBlank before isBefore fun c member => by
    rw [same]
    exact List.mem_append_left _ member
  have nothingAfter : after = [] := noBlank after isAfter fun c member => by
    rw [same]
    exact List.mem_append_right _ (List.mem_append_right _ member)
  rw [nothingBefore, nothingAfter, List.nil_append, List.append_nil] at same
  rw [same]
  cases spells with
  | word known => exact .word known
  | number magnitude => exact .number magnitude
  | negative magnitude => exact .negative magnitude

theorem writable_of_float {d : Double} (keeps : KeepsDoubles (.float d)) :
    Writable true depth (.float d) := .float (spells_writeFloat (keeps d .here))

/-- The value of a word can be written. -/
theorem writable_of_word (known : (t, v) ∈ words) (keeps : KeepsDoubles v) : Writable true depth v := by
  simp only [words, List.mem_cons, Prod.mk.injEq, List.not_mem_nil, or_false] at known
  rcases known with ⟨-, rfl⟩ | ⟨-, rfl⟩ | ⟨-, rfl⟩ | ⟨-, rfl⟩ | ⟨-, rfl⟩ | ⟨-, rfl⟩
  · exact .null
  · exact .bool true
  · exact .bool false
  all_goals exact writable_of_float keeps

/-- A number can be written. -/
theorem writable_of_magnitude {negative : Bool} (magnitude : Magnitude negative t v)
    (keeps : KeepsDoubles v) : Writable true depth v := by
  cases magnitude with
  | @int _ isWhole short =>
      refine .int (Nat.lt_of_lt_of_le ?_ (Nat.pow_le_pow_right (by decide) short))
      have below := Text.value_lt t
      split <;> omega
  | float isWhole isFraction isExponent noInt => exact writable_of_float keeps

theorem encodable_of_subset (encodable : Utf8.IsEncodable t) (subset : s ⊆ t) : Utf8.IsEncodable s :=
  fun c member => encodable c (subset member)

/-- The parts of a text that is put together are in it. -/
theorem subset_joinWith {sep : CodePoint} {list : List Text} (member : t ∈ list) :
    t ⊆ Text.joinWith sep list := by
  induction list with
  | nil => cases member
  | cons first rest ih =>
      cases rest with
      | nil =>
          rw [List.mem_singleton.mp member]
          exact List.Subset.refl _
      | cons second others =>
          rw [joinWith_cons _ _ (List.cons_ne_nil _ _)]
          rcases List.mem_cons.mp member with rfl | later
          · exact List.subset_append_left _ _
          · exact List.Subset.trans (ih later)
              (List.Subset.trans (List.subset_cons_self _ _) (List.subset_append_right _ _))

theorem subset_item (i : Item) : i.text ⊆ i.spelling :=
  List.Subset.trans (List.subset_append_left _ _) (List.subset_append_right _ _)

theorem subset_brackets (first last : CodePoint) (t : Text) : t ⊆ first :: (t ++ [last]) :=
  List.Subset.trans (List.subset_append_left _ _) (List.subset_cons_self _ _)

theorem subset_member (m : Member) : m.item.text ⊆ m.spelling := by
  intro c inText
  have inItem : c ∈ m.item.spelling := subset_item m.item inText
  simp only [Member.spelling, List.mem_append, List.mem_cons]
  exact .inr (.inr (.inr (.inr (.inr (.inr inItem)))))

theorem subset_name (m : Member) : m.body ⊆ m.spelling := by
  intro c inBody
  simp only [Member.spelling, List.mem_append, List.mem_cons]
  exact .inr (.inr (.inl inBody))

/-- A value that a text of scalar values spells can be written, to whatever depth it nests. -/
theorem writable_of_spells {limit : Nat} (spells : Spells limit t v) (encodable : Utf8.IsEncodable t)
    (keeps : KeepsDoubles v) (shallow : nesting v ≤ depth) : Writable true depth v := by
  induction spells generalizing depth with
  | word known => exact writable_of_word known keeps
  | number magnitude => exact writable_of_magnitude magnitude keeps
  | negative magnitude => exact writable_of_magnitude magnitude keeps
  | @text _ body t isBody =>
      exact .text (writableText_of_body isBody (encodable_of_subset encodable (subset_brackets _ _ _)))
  | emptyArray blanks =>
      obtain ⟨below, rfl, -⟩ := exists_depth_of_array shallow
      exact .array (List.forall_mem_nil _)
  | @array _ items nonempty each ih =>
      obtain ⟨below, rfl, eachBelow⟩ := exists_depth_of_array shallow
      refine .array fun w member => ?_
      obtain ⟨i, inItems, rfl⟩ := List.mem_map.mp member
      have inText : i.text ⊆ 0x5b :: (Text.joinWith 0x2c (items.map (·.spelling)) ++ [0x5d]) :=
        List.Subset.trans (subset_item i) (List.Subset.trans
          (subset_joinWith (List.mem_map_of_mem inItems)) (subset_brackets _ _ _))
      exact ih i inItems (encodable_of_subset encodable inText)
        (fun d occurs => keeps d (.item member occurs)) (eachBelow _ member)
  | emptyObject blanks =>
      obtain ⟨below, rfl, -⟩ := exists_depth_of_object shallow
      exact .object List.nodup_nil (List.forall_mem_nil _) (List.forall_mem_nil _)
  | @object _ members nonempty each ih =>
      obtain ⟨below, rfl, eachBelow⟩ := exists_depth_of_object shallow
      obtain ⟨distinct, kept⟩ := ofMembers_spec (members.map fun m => (m.name, m.item.value))
      have inText (m : Member) (inMembers : m ∈ members) :
          m.spelling ⊆ 0x7b :: (Text.joinWith 0x2c (members.map (·.spelling)) ++ [0x7d]) :=
        List.Subset.trans (subset_joinWith (List.mem_map_of_mem inMembers)) (subset_brackets _ _ _)
      refine .object distinct (fun w member => ?_) fun w member => ?_
      · obtain ⟨m, inMembers, rfl⟩ := List.mem_map.mp (kept w member)
        exact writableText_of_body m.isName
          (encodable_of_subset encodable (List.Subset.trans (subset_name m) (inText m inMembers)))
      · obtain ⟨m, inMembers, rfl⟩ := List.mem_map.mp (kept w member)
        exact ih m inMembers
          (encodable_of_subset encodable (List.Subset.trans (subset_member m) (inText m inMembers)))
          (fun d occurs => keeps d (.member member occurs)) (eachBelow _ member)

/-- A value that is read from a text of scalar values can be written, to whatever depth it nests. -/
theorem IsDecoded.writable (decoded : IsDecoded v) (keeps : KeepsDoubles v)
    (shallow : nesting v ≤ depth) : Writable true depth v := by
  obtain ⟨t, encodable, read⟩ := decoded
  obtain ⟨before, text, after, -, -, rfl, spells⟩ := read_eq_ok_iff.mp read
  have inside : text ⊆ before ++ (text ++ after) :=
    List.Subset.trans (List.subset_append_left _ _) (List.subset_append_right _ _)
  exact writable_of_spells spells (encodable_of_subset encodable inside) keeps shallow

/-- What is spelled nests no deeper than the limit of its grammar. -/
theorem nesting_le_of_spells {limit : Nat} (spells : Spells limit t v) : nesting v ≤ limit := by
  induction spells with
  | @word _ w v known =>
      have flat : ∀ w ∈ words, nesting w.2 = 0 := by decide
      exact Nat.le_trans (Nat.le_of_eq (flat _ known)) (Nat.zero_le _)
  | number magnitude | negative magnitude =>
      cases magnitude <;> exact Nat.zero_le _
  | text isBody => exact Nat.zero_le _
  | emptyArray blanks => exact Nat.succ_le_succ (Nat.zero_le _)
  | array nonempty each ih =>
      refine Nat.succ_le_succ (nestingItems_le_iff.mpr fun w member => ?_)
      obtain ⟨i, inItems, rfl⟩ := List.mem_map.mp member
      exact ih i inItems
  | emptyObject blanks => exact Nat.succ_le_succ (Nat.zero_le _)
  | @object _ members nonempty each ih =>
      refine Nat.succ_le_succ (nestingMembers_le_iff.mpr fun w member => ?_)
      obtain ⟨m, inMembers, rfl⟩ := List.mem_map.mp ((ofMembers_spec _).2 w member)
      exact ih m inMembers

theorem IsDecoded.nesting_le (decoded : IsDecoded v) : nesting v ≤ depthLimit := by
  obtain ⟨t, -, read⟩ := decoded
  obtain ⟨before, text, after, -, -, -, spells⟩ := read_eq_ok_iff.mp read
  exact nesting_le_of_spells spells

/-- What can be written is read from what is written. -/
theorem Writable.isDecoded (writable : Writable true depthLimit v) : IsDecoded v :=
  ⟨write .file v, isEncodable_write writable, read_of_document (document_write writable)⟩

end NotebookAudit.Json

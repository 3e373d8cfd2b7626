import NotebookAudit.Proofs.Text.Start

/-!
Parts of a text under lower-casing.

A part of a text is lowered as it would be by itself, except that the text around it may change the form
of a capital sigma (`Text.lowerWithin_eq_lower_iff`). A sigma is settled if the characters beside it in
the part decide its form whatever stands around the part. So the lower-case form of a text is a part of
that of every text which holds it exactly if all its capital sigmas are settled
(`Text.sigmasSettled_iff`).
-/

namespace NotebookAudit.Text

variable {before before' after after' front t u v : Text} {c : CodePoint}

/-! ## Parts of a text -/

/-- The lower-case form of a part of a text: `before` stands in front of it, nearest first, and `after`
behind it. -/
def lowerWithin (before : Text) : (t after : Text) → Text
  | [], _ => []
  | c :: rest, after => lowerAt before c (rest ++ after) ++ lowerWithin (c :: before) rest after

theorem lowerFrom_append (before t after : Text) :
    lowerFrom before (t ++ after) =
      lowerWithin before t after ++ lowerFrom (t.reverse ++ before) after := by
  induction t generalizing before with
  | nil => rfl
  | cons c rest ih =>
      rw [List.cons_append, lowerFrom, lowerWithin, ih, List.append_assoc, List.reverse_cons,
        List.append_assoc, List.singleton_append]

theorem lower_eq_lowerWithin (t : Text) : t.lower = lowerWithin [] t [] := by
  have parts := lowerFrom_append [] t []
  rwa [List.append_nil, lowerFrom, List.append_nil] at parts

/-- A text that stands in another one is lowered there as a part. -/
theorem lower_append (front t after : Text) :
    (front ++ (t ++ after)).lower =
      lowerWithin [] front (t ++ after) ++
        (lowerWithin front.reverse t after ++ lowerFrom (t.reverse ++ front.reverse) after) := by
  rw [lower, lowerFrom_append, lowerFrom_append, List.append_nil]

/-! ## The form of a sigma -/

/-- Whether a capital sigma between two texts, the first of them reversed, is lowered to the final
form. -/
def isFinalSigma (before after : Text) : Bool := meetsCased before && !meetsCased after

theorem lowerAt_eq_iff :
    lowerAt before c after = lowerAt before' c after' ↔
      (c = 0x3a3 → isFinalSigma before after = isFinalSigma before' after') := by
  by_cases dotted : c = 0x130
  · subst dotted
    simp [lowerAt]
  by_cases sigma : c = 0x3a3
  · have forms (x y : Bool) : [if x then 0x3c2 else 0x3c3] = [if y then 0x3c2 else 0x3c3] ↔
        x = y := by
      cases x <;> cases y <;> decide
    subst sigma
    simp only [lowerAt, if_neg dotted, if_true, isFinalSigma, true_imp_iff]
    exact forms _ _
  · simp [lowerAt, dotted, sigma]

theorem length_lowerAt : (lowerAt before c after).length = (lowerAt before' c after').length := by
  unfold lowerAt
  split
  · rfl
  · split <;> rfl

theorem length_lowerWithin :
    (lowerWithin before t after).length = (lowerWithin before' t after').length := by
  induction t generalizing before before' with
  | nil => rfl
  | cons c rest ih =>
      simp only [lowerWithin, List.length_append]
      exact congrArg₂ _ length_lowerAt ih

theorem lowerWithin_eq_nil_iff : lowerWithin before t after = [] ↔ t = [] := by
  have sameLength : (lowerWithin before t after).length = t.lower.length := by
    rw [lower_eq_lowerWithin]
    exact length_lowerWithin
  rw [← List.length_eq_zero_iff, sameLength, List.length_eq_zero_iff, lower_eq_nil_iff]

/-- Two texts around a part lower it in the same way exactly if they give each of its capital sigmas the
same form. -/
theorem lowerWithin_eq_iff :
    lowerWithin before t after = lowerWithin before' t after' ↔
      ∀ u v, t = u ++ 0x3a3 :: v →
        isFinalSigma (u.reverse ++ before) (v ++ after) =
          isFinalSigma (u.reverse ++ before') (v ++ after') := by
  induction t generalizing before before' with
  | nil => simp [lowerWithin]
  | cons c rest ih =>
      have moved (u before : Text) : (c :: u).reverse ++ before = u.reverse ++ c :: before := by
        rw [List.reverse_cons, List.append_assoc, List.singleton_append]
      rw [lowerWithin, lowerWithin]
      constructor
      · intro same
        obtain ⟨first, others⟩ := List.append_inj same length_lowerAt
        rintro (- | ⟨d, u⟩) v split
        · obtain ⟨rfl, rfl⟩ := List.cons.inj split
          exact lowerAt_eq_iff.mp first rfl
        · obtain ⟨rfl, rfl⟩ := List.cons.inj split
          rw [moved, moved]
          exact ih.mp others u v rfl
      · intro sameForms
        have first : lowerAt before c (rest ++ after) = lowerAt before' c (rest ++ after') := by
          rw [lowerAt_eq_iff]
          rintro rfl
          exact sameForms [] rest rfl
        have others : lowerWithin (c :: before) rest after =
            lowerWithin (c :: before') rest after' := by
          rw [ih]
          rintro u v rfl
          rw [← moved, ← moved]
          exact sameForms (c :: u) v rfl
        rw [first, others]

/-- The text around a part leaves the forms of its capital sigmas as they are in the part by itself. -/
def KeepsSigmas (before t after : Text) : Prop :=
  ∀ u v, t = u ++ 0x3a3 :: v →
    isFinalSigma (u.reverse ++ before) (v ++ after) = isFinalSigma u.reverse v

theorem lowerWithin_eq_lower_iff : lowerWithin before t after = t.lower ↔ KeepsSigmas before t after := by
  rw [lower_eq_lowerWithin, lowerWithin_eq_iff, KeepsSigmas]
  simp only [List.append_nil]

/-- Where the text around a part keeps the forms of its sigmas, its lower-case form is found. -/
theorem KeepsSigmas.lower_isInfix (keeps : KeepsSigmas front.reverse t after) :
    t.lower <:+: (front ++ (t ++ after)).lower := by
  rw [lower_append, lowerWithin_eq_lower_iff.mpr keeps]
  exact ⟨_, _, List.append_assoc _ _ _⟩

/-! ## Settled sigmas -/

/-- The nearest character that is not passed over. -/
def nearest? (t : Text) : Option CodePoint := t.find? fun c => !c.isCaseIgnorable

theorem meetsCased_eq (t : Text) : meetsCased t = (nearest? t).any (·.isCased) := by
  induction t with
  | nil => rfl
  | cons c rest ih =>
      rw [meetsCased, nearest?, List.find?_cons]
      cases c.isCaseIgnorable with
      | true => exact ih
      | false => rfl

theorem nearest?_append (t after : Text) :
    nearest? (t ++ after) = (nearest? t).or (nearest? after) :=
  List.find?_append

/-- The characters between which a capital sigma stands decide its form: behind it the nearest one that
is not passed over is a cased letter, or in front of it the nearest one is none, or there is one on
either side. -/
def IsSettled (front after : Text) : Prop :=
  (∃ c ∈ nearest? after, c.isCased = true) ∨ (∃ c ∈ nearest? front.reverse, c.isCased = false) ∨
    ((nearest? front.reverse).isSome ∧ (nearest? after).isSome)

/-- All capital sigmas of a text are settled in it. -/
def SigmasSettled (t : Text) : Prop := ∀ u v, t = u ++ 0x3a3 :: v → IsSettled u v

/-- A settled sigma has the same form wherever the text stands. -/
theorem IsSettled.isFinalSigma_eq (settled : IsSettled u v) (before after : Text) :
    isFinalSigma (u.reverse ++ before) (v ++ after) = isFinalSigma u.reverse v := by
  simp only [isFinalSigma, meetsCased_eq, nearest?_append]
  rcases settled with ⟨c, behind, cased⟩ | ⟨c, inFront, uncased⟩ | ⟨inFront, behind⟩
  · simp [Option.mem_def.mp behind, cased]
  · simp [Option.mem_def.mp inFront, uncased]
  · rw [Option.or_of_isSome inFront, Option.or_of_isSome behind]

theorem SigmasSettled.keepsSigmas (settled : SigmasSettled t) (before after : Text) :
    KeepsSigmas before t after :=
  fun u v split => (settled u v split).isFinalSigma_eq before after

/-! ## Sigmas that are not settled -/

/-- A cased letter that is its own lower-case form and is not passed over. -/
structure IsSmallLetter (c : CodePoint) : Prop where
  cased : c.isCased = true
  nearest : ∀ rest, nearest? (c :: rest) = some c
  lowered : ∀ before after, lowerAt before c after = [c]

/-- There is a small letter other than a given character. -/
theorem exists_smallLetter (other : Option CodePoint) : ∃ c, IsSmallLetter c ∧ other ≠ some c := by
  have small (c : CodePoint) (member : c ∈ [0x61, 0x62]) : IsSmallLetter c := by
    have facts : ∀ c ∈ [0x61, 0x62], CodePoint.isCased c = true ∧
        CodePoint.isCaseIgnorable c = false ∧ c < 128 ∧ CodePoint.asciiLower c = c := by
      decide +kernel
    obtain ⟨cased, notIgnorable, ascii, small⟩ := facts c member
    refine ⟨cased, fun rest => ?_, fun before after => ?_⟩
    · simp [nearest?, notIgnorable]
    · rw [lowerAt_of_ascii ascii, small]
  by_cases taken : other = some 0x61
  · exact ⟨0x62, small _ (by decide), by rw [taken]; decide⟩
  · exact ⟨0x61, small _ (by decide), taken⟩

/-- A cased letter in front of the text, or one behind it, changes the form of a sigma that is not
settled. -/
theorem isFinalSigma_ne_of_not_isSettled (unsettled : ¬ IsSettled u v) :
    (∀ c, IsSmallLetter c → isFinalSigma (u.reverse ++ [c]) v ≠ isFinalSigma u.reverse v) ∨
      ∀ c, IsSmallLetter c → isFinalSigma u.reverse (v ++ [c]) ≠ isFinalSigma u.reverse v := by
  simp only [IsSettled, not_or, not_exists, not_and] at unsettled
  obtain ⟨noneBehind, casedInFront, oneSide⟩ := unsettled
  simp only [isFinalSigma, meetsCased_eq, nearest?_append]
  cases inFront : nearest? u.reverse with
  | none =>
      left
      intro c letter
      cases behind : nearest? v with
      | none => simp [letter.nearest, letter.cased]
      | some d => simp [letter.nearest, letter.cased, noneBehind d behind]
  | some d =>
      right
      intro c letter
      have noneNear : nearest? v = none := by
        rw [← Option.not_isSome_iff_eq_none]
        exact oneSide (by rw [inFront]; rfl)
      have casedNear : d.isCased = true := by
        rw [← Bool.not_eq_false]
        exact casedInFront d inFront
      simp [noneNear, casedNear, letter.nearest, letter.cased]

/-- A list is no part of another one as long as itself behind an item that it does not start with. -/
theorem not_isInfix_cons {x y : Text} (sameLength : y.length = x.length) (differ : y ≠ x)
    (first : x.head? ≠ some c) : ¬ x <:+: c :: y := by
  rw [List.infix_cons_iff]
  rintro (atStart | later)
  · cases x with
    | nil => exact differ (List.length_eq_zero_iff.mp sameLength)
    | cons d x => exact first (by rw [(List.cons_prefix_cons.mp atStart).1, List.head?_cons])
  · exact differ (later.eq_of_length sameLength.symm).symm

theorem not_isInfix_concat {x y : Text} (sameLength : y.length = x.length) (differ : y ≠ x)
    (last : x.getLast? ≠ some c) : ¬ x <:+: y ++ [c] := by
  rw [← List.reverse_infix, List.reverse_append, List.reverse_singleton, List.singleton_append]
  apply not_isInfix_cons
  · rw [List.length_reverse, List.length_reverse, sameLength]
  · exact fun same => differ (List.reverse_injective same)
  · rwa [List.head?_reverse]

/-- A small letter in front that changes a sigma hides the lower-case form, unless it begins with that
letter. -/
theorem not_isInfix_lower_cons (letter : IsSmallLetter c) (first : t.lower.head? ≠ some c)
    (changed : ¬ KeepsSigmas [c] t []) : ¬ t.lower <:+: lower ([c] ++ (t ++ [])) := by
  have lowered : lower ([c] ++ (t ++ [])) = c :: lowerWithin [c] t [] := by
    rw [lower_append, lowerWithin, lowerWithin, letter.lowered, lowerFrom]
    simp
  rw [lowered]
  apply not_isInfix_cons ?_ (fun same => changed (lowerWithin_eq_lower_iff.mp same)) first
  rw [lower_eq_lowerWithin]
  exact length_lowerWithin

theorem not_isInfix_lower_concat (letter : IsSmallLetter c) (last : t.lower.getLast? ≠ some c)
    (changed : ¬ KeepsSigmas [] t [c]) : ¬ t.lower <:+: lower ([] ++ (t ++ [c])) := by
  have lowered : lower ([] ++ (t ++ [c])) = lowerWithin [] t [c] ++ [c] := by
    rw [lower_append, lowerWithin, lowerFrom, letter.lowered, lowerFrom]
    simp
  rw [lowered]
  apply not_isInfix_concat ?_ (fun same => changed (lowerWithin_eq_lower_iff.mp same)) last
  rw [lower_eq_lowerWithin]
  exact length_lowerWithin

/-- The lower-case form of a text is found in that of every text which holds it exactly if all its
capital sigmas are settled. -/
theorem sigmasSettled_iff :
    t.SigmasSettled ↔ ∀ front after, t.lower <:+: (front ++ (t ++ after)).lower := by
  constructor
  · intro settled front after
    exact (settled.keepsSigmas _ _).lower_isInfix
  · intro found u v split
    by_contra unsettled
    rcases isFinalSigma_ne_of_not_isSettled unsettled with inFront | behind
    · obtain ⟨c, letter, first⟩ := exists_smallLetter t.lower.head?
      apply not_isInfix_lower_cons letter first ?_ (found [c] [])
      intro keeps
      apply inFront c letter
      simpa using keeps u v split
    · obtain ⟨c, letter, last⟩ := exists_smallLetter t.lower.getLast?
      apply not_isInfix_lower_concat letter last ?_ (found [] [c])
      intro keeps
      apply behind c letter
      simpa using keeps u v split

/-! ## Finding out -/

theorem sigmasSettled_iff_getElem? :
    t.SigmasSettled ↔
      ∀ i < t.length, t[i]? = some 0x3a3 → IsSettled (t.take i) (t.drop (i + 1)) := by
  constructor
  · intro settled i inRange sigma
    refine settled _ _ ?_
    rw [← (List.getElem?_eq_some_iff.mp sigma).2, List.cons_getElem_drop_succ,
      List.take_append_drop]
  · rintro settled u v rfl
    have sigma := settled u.length (by simp) (by simp)
    simpa using sigma

instance (front after : Text) : Decidable (IsSettled front after) :=
  inferInstanceAs (Decidable (_ ∨ _ ∨ _))

instance (t : Text) : Decidable t.SigmasSettled :=
  decidable_of_iff _ sigmasSettled_iff_getElem?.symm

end NotebookAudit.Text

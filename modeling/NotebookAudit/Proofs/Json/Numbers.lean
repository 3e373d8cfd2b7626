import Mathlib.Data.List.TakeWhile
import NotebookAudit.Proofs.Json.Grammar

/-!
Reading the numbers of JSON texts.

The reader of numbers takes as much of a text as there is of a number: what it takes is a number of
the grammar (`Json.magnitude_of_readMagnitude`), and a number in front of something that cannot be a
part of it is read as a whole (`Json.readMagnitude_of_magnitude`).
-/

namespace NotebookAudit.Json

variable {negative : Bool} {t rest digits fraction exponent whole : Text} {scale : Int} {n : Nat}

/-- What follows a number: nothing, or a character that is neither a digit nor a point nor the
letter of an exponent. -/
def AfterNumber (t : Text) : Prop :=
  ∀ c ∈ t.head?, c.isAsciiDigit = false ∧ c ≠ 0x2e ∧ c ≠ 0x65 ∧ c ≠ 0x45

/-- No digit follows. -/
def NoDigit (t : Text) : Prop := ∀ c ∈ t.head?, c.isAsciiDigit = false

theorem AfterNumber.noDigit (ends : AfterNumber rest) : NoDigit rest := fun c head => (ends c head).1

/-! ## Digits -/

/-- All of a text is taken, and nothing of what stands behind it, if that starts otherwise. -/
theorem takeWhile_append_of_stops {p : CodePoint → Bool} {s : Text} (each : ∀ c ∈ s, p c = true)
    (stops : ∀ c ∈ rest.head?, p c = false) : (s ++ rest).takeWhile p = s := by
  rw [List.takeWhile_append_of_pos each]
  cases rest with
  | nil => simp
  | cons c rest => rw [List.takeWhile_cons_of_neg (by simp [stops c rfl]), List.append_nil]

theorem leadingDigits_isDigits (t : Text) : IsDigits (leadingDigits t) :=
  fun _ member => List.mem_takeWhile_imp member

theorem leadingDigits_append_drop (t : Text) :
    leadingDigits t ++ t.drop (leadingDigits t).length = t :=
  (List.prefix_iff_eq_append.mp (List.takeWhile_prefix _))

theorem leadingDigits_append (isDigits : IsDigits digits) (ends : NoDigit rest) :
    leadingDigits (digits ++ rest) = digits := takeWhile_append_of_stops isDigits ends

/-! ## Whole numbers -/

/-- The whole number in front of a text: a zero, or all digits. -/
def wholePart (t : Text) : Text :=
  match t with
  | 0x30 :: _ => [0x30]
  | _ => leadingDigits t

theorem wholePart_append_drop (t : Text) : wholePart t ++ t.drop (wholePart t).length = t := by
  unfold wholePart
  split
  · rfl
  · exact leadingDigits_append_drop _

theorem wholePart_cons {c : CodePoint} (first : c ≠ 0x30) :
    wholePart (c :: rest) = leadingDigits (c :: rest) := by
  rw [wholePart]
  exact fun more same => first (List.cons.inj same).1

theorem wholePart_isWhole (nonempty : wholePart t ≠ []) : IsWhole (wholePart t) := by
  cases t with
  | nil => exact absurd rfl nonempty
  | cons c rest =>
      by_cases first : c = 0x30
      · subst first
        exact .zero
      · rw [wholePart_cons first] at nonempty ⊢
        have areDigits := leadingDigits_isDigits (c :: rest)
        have split : leadingDigits (c :: rest) = c :: leadingDigits rest :=
          List.takeWhile_cons_of_pos (by
            refine Classical.byContradiction fun noDigit => nonempty ?_
            exact List.takeWhile_cons_of_neg noDigit)
        rw [split] at areDigits ⊢
        exact .digits first areDigits

theorem wholePart_append (isWhole : IsWhole whole) (ends : NoDigit rest) :
    wholePart (whole ++ rest) = whole := by
  cases isWhole with
  | zero => rfl
  | digits first areDigits =>
      rw [List.cons_append, wholePart_cons first, ← List.cons_append]
      exact leadingDigits_append areDigits ends

/-! ## Fractions -/

theorem fractionPart_isDigits (t : Text) : IsDigits (fractionPart t) := by
  unfold fractionPart
  split
  · exact leadingDigits_isDigits _
  · exact fun _ member => nomatch member

theorem length_pointed (digits : Text) :
    (pointed digits).length = if digits = [] then 0 else digits.length + 1 := by
  cases digits <;> rfl

theorem fractionPart_append_drop (t : Text) :
    pointed (fractionPart t) ++ t.drop (pointed (fractionPart t)).length = t := by
  unfold fractionPart
  split
  · next rest =>
    have split := leadingDigits_append_drop rest
    cases digits : leadingDigits rest with
    | nil => rfl
    | cons d ds =>
        rw [digits] at split
        exact congrArg (0x2e :: ·) split
  · rfl

/-- A fraction in front of something that is neither a digit nor a point is read. -/
theorem fractionPart_append (isFraction : IsDigits fraction) (noDigit : NoDigit rest)
    (noPoint : ∀ c ∈ rest.head?, c ≠ 0x2e) : fractionPart (pointed fraction ++ rest) = fraction := by
  cases fraction with
  | nil =>
      show fractionPart rest = []
      unfold fractionPart
      split
      · exact absurd rfl (noPoint 0x2e rfl)
      · rfl
  | cons d ds => exact leadingDigits_append isFraction noDigit

/-! ## Exponents -/

theorem sign_of_takeSign (t : Text) :
    ∃ sign, Sign sign (Numeral.takeSign t).1 ∧ t = sign ++ (Numeral.takeSign t).2 := by
  unfold Numeral.takeSign
  split
  · exact ⟨_, .minus, rfl⟩
  · exact ⟨_, .plus, rfl⟩
  · exact ⟨_, .absent, rfl⟩

theorem takeSign_append {sign : Text} (isSign : Sign sign negative) (nonempty : digits ≠ [])
    (areDigits : IsDigits digits) :
    Numeral.takeSign (sign ++ (digits ++ rest)) = (negative, digits ++ rest) := by
  cases isSign with
  | plus => rfl
  | minus => rfl
  | absent =>
      cases digits with
      | nil => exact absurd rfl nonempty
      | cons d ds =>
          have isDigit := areDigits d List.mem_cons_self
          rw [List.nil_append, List.cons_append, Numeral.takeSign]
          · intro more same
            rw [(List.cons.inj same).1] at isDigit
            cases isDigit
          · intro more same
            rw [(List.cons.inj same).1] at isDigit
            cases isDigit

/-- An exponent that is read is one of the grammar. -/
theorem exponent_of_exponentPart? (read : exponentPart? t = some (scale, n)) :
    ∃ exponent rest, Exponent exponent scale ∧ exponent ≠ [] ∧ n = exponent.length ∧
      t = exponent ++ rest := by
  unfold exponentPart? at read
  split at read
  · cases read
  next e rest =>
  split at read
  · next letter =>
    obtain ⟨sign, isSign, whole⟩ := sign_of_takeSign rest
    dsimp only at read
    split at read
    · cases read
    · next nonempty =>
      obtain ⟨rfl, rfl⟩ := Prod.mk.inj (Option.some.inj read)
      have split := leadingDigits_append_drop (Numeral.takeSign rest).2
      have lengths := congrArg List.length whole
      rw [List.length_append] at lengths
      refine ⟨_, (Numeral.takeSign rest).2.drop (leadingDigits (Numeral.takeSign rest).2).length,
        .present letter isSign nonempty (leadingDigits_isDigits _), List.cons_ne_nil _ _, ?_, ?_⟩
      · rw [List.length_cons, List.length_append]
        omega
      · rw [List.cons_append, List.append_assoc, split, ← whole]
  · cases read

/-- An exponent in front of something that is no digit is read. -/
theorem exponentPart?_append (isExponent : Exponent exponent scale) (given : exponent ≠ [])
    (ends : NoDigit rest) : exponentPart? (exponent ++ rest) = some (scale, exponent.length) := by
  cases isExponent with
  | absent => exact absurd rfl given
  | @present e sign digits negative letter isSign nonempty areDigits =>
      rw [List.cons_append, List.append_assoc, exponentPart?, if_pos letter,
        takeSign_append isSign nonempty areDigits]
      dsimp only
      rw [leadingDigits_append areDigits ends, if_neg nonempty]
      congr 2
      simp only [List.length_append, List.length_cons]
      omega

theorem exponentPart?_eq_none (noLetter : ∀ c ∈ t.head?, c ≠ 0x65 ∧ c ≠ 0x45) :
    exponentPart? t = none := by
  cases t with
  | nil => rfl
  | cons c rest =>
      obtain ⟨notSmall, notGreat⟩ := noLetter c rfl
      rw [exponentPart?, if_neg (by simp [notSmall, notGreat])]

/-! ## Numbers -/

/-- The parts of a number decide what is read. -/
theorem readMagnitude_of_parts {u : Text} (isWhole : wholePart t = whole) (nonempty : whole ≠ [])
    (isFraction : fractionPart (t.drop whole.length) = fraction)
    (isRest : (t.drop whole.length).drop (pointed fraction).length = u) :
    readMagnitude negative t =
      match exponentPart? u with
      | some (scale, width) =>
        some (.ok (.float (.ofDecimal negative (Numeral.value 10 (whole ++ fraction))
          (scale - fraction.length)), whole.length + (pointed fraction).length + width))
      | none =>
        if fraction = [] then
          if digitLimit < whole.length then some (.error (.tooManyDigits whole.length))
          else some (.ok (.int (if negative then -(Numeral.value 10 whole : Int)
            else Numeral.value 10 whole), whole.length))
        else some (.ok (.float (.ofDecimal negative (Numeral.value 10 (whole ++ fraction))
          (0 - fraction.length)), whole.length + (pointed fraction).length)) := by
  have unfolded : readMagnitude negative t =
      if wholePart t = [] then none
      else
        let fraction := fractionPart (t.drop (wholePart t).length)
        let fractionLength := if fraction = [] then 0 else fraction.length + 1
        let exponent := exponentPart? ((t.drop (wholePart t).length).drop fractionLength)
        let length := (wholePart t).length + fractionLength + (exponent.map (·.2)).getD 0
        if fraction = [] ∧ exponent = none then
          if digitLimit < (wholePart t).length then
            some (.error (.tooManyDigits (wholePart t).length))
          else some (.ok (.int (if negative then -(Numeral.value 10 (wholePart t) : Int)
            else Numeral.value 10 (wholePart t)), length))
        else some (.ok (.float (.ofDecimal negative (Numeral.value 10 (wholePart t ++ fraction))
          ((exponent.map (·.1)).getD 0 - fraction.length)), length)) := rfl
  rw [unfolded, isWhole, if_neg nonempty, isFraction]
  dsimp only
  rw [← length_pointed, isRest]
  cases exponentPart? u with
  | some e => simp
  | none =>
      by_cases noFraction : fraction = []
      · simp [noFraction, pointed]
      · simp [noFraction]

/-- A number that is read is one of the grammar. -/
theorem magnitude_of_readMagnitude {v : Json} (read : readMagnitude negative t = some (.ok (v, n))) :
    ∃ s rest, Magnitude negative s v ∧ n = s.length ∧ t = s ++ rest := by
  by_cases nonempty : wholePart t = []
  · have nothing : readMagnitude negative t = none := if_pos nonempty
    rw [nothing] at read
    cases read
  obtain ⟨u, isBehind⟩ : ∃ u, u = t.drop (wholePart t).length := ⟨_, rfl⟩
  obtain ⟨behind, isRest⟩ : ∃ behind, behind = u.drop (pointed (fractionPart u)).length := ⟨_, rfl⟩
  have isWhole := wholePart_isWhole nonempty
  have isFraction := fractionPart_isDigits u
  have wholeSplit : wholePart t ++ u = t := isBehind ▸ wholePart_append_drop t
  have fractionSplit : pointed (fractionPart u) ++ behind = u := isRest ▸ fractionPart_append_drop u
  rw [readMagnitude_of_parts rfl nonempty (by rw [← isBehind]) (by rw [← isBehind, ← isRest])] at read
  split at read
  · next scale width found =>
    obtain ⟨rfl, rfl⟩ := Prod.mk.inj (Except.ok.inj (Option.some.inj read))
    obtain ⟨exponent, rest, isExponent, given, rfl, split⟩ := exponent_of_exponentPart? found
    refine ⟨_, rest, .float isWhole isFraction isExponent (.inr given), ?_, ?_⟩
    · simp only [List.length_append]
      omega
    · rw [List.append_assoc, List.append_assoc, ← split, fractionSplit, wholeSplit]
  · split at read
    · next noFraction =>
      split at read
      · cases read
      · next short =>
        obtain ⟨rfl, rfl⟩ := Prod.mk.inj (Except.ok.inj (Option.some.inj read))
        exact ⟨_, u, .int isWhole (Nat.le_of_not_lt short), rfl, wholeSplit.symm⟩
    · next given =>
      obtain ⟨rfl, rfl⟩ := Prod.mk.inj (Except.ok.inj (Option.some.inj read))
      refine ⟨_, behind, .float isWhole isFraction .absent (.inl given), ?_, ?_⟩
      · simp
      · rw [List.append_nil, List.append_assoc, fractionSplit, wholeSplit]

/-- What stands behind the digits of a whole number is no digit. -/
theorem noDigit_of_exponent (isExponent : Exponent exponent scale) (ends : AfterNumber rest) :
    NoDigit (exponent ++ rest) ∧ ∀ c ∈ (exponent ++ rest).head?, c ≠ 0x2e := by
  cases isExponent with
  | absent => exact ⟨ends.noDigit, fun c head => (ends c head).2.1⟩
  | present letter isSign nonempty areDigits =>
      refine ⟨fun c head => ?_, fun c head => ?_⟩
      · cases head
        rcases letter with rfl | rfl <;> rfl
      · cases head
        rcases letter with rfl | rfl <;> decide

theorem noDigit_of_pointed {u : Text} (noDigit : NoDigit u) : NoDigit (pointed fraction ++ u) := by
  cases fraction with
  | nil => exact noDigit
  | cons d ds =>
      intro c head
      cases head
      rfl

/-- A number in front of something that cannot be a part of it is read as a whole. -/
theorem readMagnitude_of_magnitude {s : Text} {v : Json} (magnitude : Magnitude negative s v)
    (ends : AfterNumber rest) : readMagnitude negative (s ++ rest) = some (.ok (v, s.length)) := by
  have nonempty {whole : Text} (isWhole : IsWhole whole) : whole ≠ [] := by
    cases isWhole <;> exact List.cons_ne_nil _ _
  have noExponent : exponentPart? rest = none := exponentPart?_eq_none fun c head => (ends c head).2.2
  cases magnitude with
  | int isWhole short =>
      have behind : (s ++ rest).drop s.length = rest := List.drop_left
      have noFraction : fractionPart ((s ++ rest).drop s.length) = [] := by
        rw [behind]
        show fractionPart (pointed [] ++ rest) = []
        exact fractionPart_append (List.forall_mem_nil _) ends.noDigit fun c head => (ends c head).2.1
      rw [readMagnitude_of_parts (wholePart_append isWhole ends.noDigit) (nonempty isWhole)
        noFraction behind, noExponent]
      dsimp only
      rw [if_pos rfl, if_neg (Nat.not_lt.mpr short)]
  | @float whole fraction exponent scale isWhole isFraction isExponent noInt =>
      obtain ⟨noDigit, noPoint⟩ := noDigit_of_exponent isExponent ends
      have split : whole ++ (pointed fraction ++ exponent) ++ rest =
          whole ++ (pointed fraction ++ (exponent ++ rest)) := by simp
      have afterWhole : (whole ++ (pointed fraction ++ (exponent ++ rest))).drop whole.length =
          pointed fraction ++ (exponent ++ rest) := List.drop_left
      have isRead : fractionPart ((whole ++ (pointed fraction ++ (exponent ++ rest))).drop
          whole.length) = fraction := by
        rw [afterWhole]
        exact fractionPart_append isFraction noDigit noPoint
      have behind : ((whole ++ (pointed fraction ++ (exponent ++ rest))).drop whole.length).drop
          (pointed fraction).length = exponent ++ rest := by
        rw [afterWhole]
        exact List.drop_left
      rw [split, readMagnitude_of_parts (wholePart_append isWhole (noDigit_of_pointed noDigit))
        (nonempty isWhole) isRead behind]
      by_cases given : exponent = []
      · subst given
        cases isExponent
        rw [List.nil_append, noExponent]
        dsimp only
        rw [if_neg (noInt.resolve_right fun given => given rfl)]
        simp
      · rw [exponentPart?_append isExponent given ends.noDigit]
        simp [Nat.add_assoc]

end NotebookAudit.Json

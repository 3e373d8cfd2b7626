import NotebookAudit.Json.Printer
import NotebookAudit.Proofs.Json.Strings
import NotebookAudit.Proofs.Text.Digits
import NotebookAudit.Proofs.Text.Utf8

/-!
Writing the strings of JSON texts.

What is written between the quotes of a string is the body of a string that spells the text
(`Json.body_writeChars`). The one text for which this fails is a first half of a surrogate pair right
in front of a second half: escaped, the two are read as one character.
-/

namespace NotebookAudit.Json

variable {asciiOnly : Bool} {c d : Nat} {s t escape : Text}

/-- A text that can be written in a string and read back. Where its characters are not escaped they
are scalar values, since the text that is written has to be encoded. -/
structure WritableText (asciiOnly : Bool) (t : Text) : Prop where
  codePoint : ∀ c : Nat, c ∈ t → c < 0x110000
  scalar : asciiOnly = false → Utf8.IsEncodable t
  apart : t.IsChain fun c d => isHighSurrogate c = true → isLowSurrogate d = false

theorem isHighSurrogate_iff : isHighSurrogate c = true ↔ 0xd800 ≤ c ∧ c ≤ 0xdbff := by
  show (decide (0xd800 ≤ c) && decide (c ≤ 0xdbff)) = true ↔ _
  rw [Bool.and_eq_true, decide_eq_true_iff, decide_eq_true_iff]

theorem isLowSurrogate_iff : isLowSurrogate c = true ↔ 0xdc00 ≤ c ∧ c ≤ 0xdfff := by
  show (decide (0xdc00 ≤ c) && decide (c ≤ 0xdfff)) = true ↔ _
  rw [Bool.and_eq_true, decide_eq_true_iff, decide_eq_true_iff]

theorem not_isHighSurrogate (scalar : CodePoint.isScalar c = true) : ¬ isHighSurrogate c = true := by
  rw [Utf8.isScalar_iff] at scalar
  rw [isHighSurrogate_iff]
  omega

/-- Every text of scalar values can be written. -/
theorem WritableText.of_isEncodable (encodable : Utf8.IsEncodable t) : WritableText asciiOnly t where
  codePoint := by
    intro c member
    have scalar := Utf8.isScalar_iff.mp (encodable c member)
    omega
  scalar := fun _ => encodable
  apart := by
    have noHigh : t.Pairwise fun c d => isHighSurrogate c = true → isLowSurrogate d = false :=
      List.pairwise_of_forall_mem_list fun c member d _ high =>
        absurd high (not_isHighSurrogate (encodable c member))
    exact noHigh.isChain

/-! ## One character -/

theorem unicodeEscape_append (c : CodePoint) (s : Text) :
    unicodeEscape c ++ s = 0x5c :: 0x75 :: (Text.ofHex 4 c ++ s) := rfl

/-- The letter of an escape stands for its character. -/
theorem of_letterEscape? (letter : letterEscape? c = some escape) :
    ∃ d, escape = [0x5c, d] ∧ escapedChar? d = some c := by
  unfold letterEscape? at letter
  split at letter
  · next quote => exact ⟨0x22, (Option.some.inj letter).symm, congrArg some quote.symm⟩
  split at letter
  · next backslash => exact ⟨0x5c, (Option.some.inj letter).symm, congrArg some backslash.symm⟩
  split at letter
  · next lineFeed => exact ⟨0x6e, (Option.some.inj letter).symm, congrArg some lineFeed.symm⟩
  split at letter
  · next carriageReturn => exact ⟨0x72, (Option.some.inj letter).symm, congrArg some carriageReturn.symm⟩
  split at letter
  · next tab => exact ⟨0x74, (Option.some.inj letter).symm, congrArg some tab.symm⟩
  split at letter
  · next formFeed => exact ⟨0x66, (Option.some.inj letter).symm, congrArg some formFeed.symm⟩
  split at letter
  · next backspace => exact ⟨0x62, (Option.some.inj letter).symm, congrArg some backspace.symm⟩
  · cases letter

/-- A character without a letter is neither a quote nor a backslash. -/
theorem of_letterEscape?_eq_none (noLetter : letterEscape? c = none) : c ≠ 0x22 ∧ c ≠ 0x5c := by
  constructor
  · rintro rfl
    cases noLetter
  · rintro rfl
    cases noLetter

/-- The halves of the surrogate pair of an astral character, and the character. -/
theorem halves_of_astral (astral : 0x10000 ≤ c) (small : c < 0x110000) :
    isHighSurrogate (0xd800 + (c - 0x10000) / 0x400) = true ∧
      isLowSurrogate (0xdc00 + (c - 0x10000) % 0x400) = true ∧
      joinSurrogates (0xd800 + (c - 0x10000) / 0x400) (0xdc00 + (c - 0x10000) % 0x400) = c := by
  rw [isHighSurrogate_iff, isLowSurrogate_iff]
  refine ⟨by omega, by omega, ?_⟩
  show 0x10000 + (0xd800 + (c - 0x10000) / 0x400 - 0xd800) * 0x400 +
    (0xdc00 + (c - 0x10000) % 0x400 - 0xdc00) = c
  omega

/-- The ways in which a character is written: as an escape with a letter, as it is, as a Unicode
escape, or as the two of a surrogate pair. -/
inductive Written (asciiOnly : Bool) : Nat → Text → Prop
  | letter {c d : Nat} (escaped : escapedChar? d = some c) : Written asciiOnly c [0x5c, d]
  | plain {c : Nat} (visible : 0x1f < c) (notQuote : c ≠ 0x22) (notBackslash : c ≠ 0x5c)
    (ascii : asciiOnly = true → c < 0x7f) : Written asciiOnly c [c]
  | unit {c : Nat} (small : c < 0x10000) : Written asciiOnly c (unicodeEscape c)
  | pair {c high low : Nat} (isHigh : isHighSurrogate high = true)
    (isLow : isLowSurrogate low = true) (joined : joinSurrogates high low = c) :
    Written asciiOnly c (unicodeEscape high ++ unicodeEscape low)

theorem written_writeChar (asciiOnly : Bool) (small : c < 0x110000) :
    Written asciiOnly c (writeChar asciiOnly c) := by
  unfold writeChar
  split
  · next escape letter =>
    obtain ⟨d, rfl, escaped⟩ := of_letterEscape? letter
    exact .letter escaped
  next noLetter =>
  obtain ⟨notQuote, notBackslash⟩ := of_letterEscape?_eq_none noLetter
  split
  · next control => exact .unit (Nat.lt_trans control (by decide))
  next visible =>
  split
  · next raw =>
    refine .plain (Nat.le_of_not_lt visible) notQuote notBackslash fun ascii => ?_
    rw [ascii] at raw
    exact of_decide_eq_true raw
  split
  · next unit => exact .unit unit
  · next astral =>
    obtain ⟨isHigh, isLow, joined⟩ := halves_of_astral (Nat.le_of_not_lt astral) small
    exact .pair isHigh isLow joined

theorem lt_of_isSurrogate (half : isHighSurrogate c = true ∨ isLowSurrogate c = true) :
    c < 0x10000 := by
  rw [isHighSurrogate_iff, isLowSurrogate_iff] at half
  omega

theorem not_isLowSurrogate (high : isHighSurrogate c = true) : isLowSurrogate c = false := by
  rw [isHighSurrogate_iff] at high
  rw [← Bool.not_eq_true, isLowSurrogate_iff]
  omega

/-- What is written for a character spells it, in front of what is written for the others. -/
theorem Written.body {written : Text} (writes : Written asciiOnly c written)
    (single : isHighSurrogate c = true → ¬ StartsWithLow s) (rest : Body s t) :
    Body (written ++ s) (c :: t) := by
  cases writes with
  | letter escaped => exact .letter escaped rest
  | plain visible notQuote notBackslash _ => exact .plain visible notQuote notBackslash rest
  | unit small =>
      rw [unicodeEscape_append]
      exact .unit (Text.hex4?_ofHex small) single rest
  | pair isHigh isLow joined =>
      rw [List.append_assoc, unicodeEscape_append, unicodeEscape_append, ← joined]
      exact .pair (Text.hex4?_ofHex (lt_of_isSurrogate (.inl isHigh))) isHigh
        (Text.hex4?_ofHex (lt_of_isSurrogate (.inr isLow))) isLow rest

theorem startsWithLow_unicodeEscape (small : c < 0x10000)
    (starts : StartsWithLow (unicodeEscape c ++ s)) : isLowSurrogate c = true := by
  obtain ⟨digits, low, rest, spelled, isLow, same⟩ := starts
  rw [unicodeEscape_append] at same
  have sameLength : (Text.ofHex 4 c).length = digits.length := by
    rw [length_of_hex4? spelled, Text.ofHex_four small]
    rfl
  have sameDigits : Text.ofHex 4 c = digits :=
    (List.append_inj (List.cons.inj (List.cons.inj same).2).2 sameLength).1
  rw [← sameDigits, Text.hex4?_ofHex small] at spelled
  cases spelled
  exact isLow

/-- What is written for a character starts with the escape of a second half of a surrogate pair only
if the character is one. -/
theorem Written.isLowSurrogate {written : Text} (writes : Written asciiOnly c written)
    (starts : StartsWithLow (written ++ s)) : isLowSurrogate c = true := by
  cases writes with
  | @letter d escaped =>
      obtain ⟨digits, low, rest, -, -, same⟩ := starts
      have unicode : d = 0x75 := (List.cons.inj (List.cons.inj same).2).1
      rw [unicode] at escaped
      cases escaped
  | plain _ _ notBackslash _ =>
      obtain ⟨digits, low, rest, -, -, same⟩ := starts
      exact absurd (List.cons.inj same).1 notBackslash
  | unit small => exact startsWithLow_unicodeEscape small starts
  | @pair high low isHigh isLow joined =>
      rw [List.append_assoc] at starts
      have isLow := startsWithLow_unicodeEscape (lt_of_isSurrogate (.inl isHigh)) starts
      rw [not_isLowSurrogate isHigh] at isLow
      cases isLow

/-! ## Texts -/

/-- What is written between the quotes of a string spells the text. -/
theorem body_writeChars (writable : WritableText asciiOnly t) :
    Body (t.flatMap (writeChar asciiOnly)) t := by
  obtain ⟨codePoint, -, apart⟩ := writable
  induction t with
  | nil => exact .nil
  | cons c t ih =>
      rw [List.forall_mem_cons] at codePoint
      rw [List.flatMap_cons]
      refine (written_writeChar asciiOnly codePoint.1).body ?_ (ih codePoint.2 (List.isChain_of_isChain_cons apart))
      intro high starts
      cases t with
      | nil =>
          obtain ⟨digits, low, rest, -, -, same⟩ := starts
          cases same
      | cons d t =>
          rw [List.flatMap_cons] at starts
          have small := codePoint.2 d List.mem_cons_self
          have isLow := (written_writeChar asciiOnly small).isLowSurrogate starts
          rw [(List.isChain_cons_cons.mp apart).1 high] at isLow
          cases isLow

/-! ## Characters -/

/-- A character of what is written: a line feed, or one that is shown, in ASCII if the rest is
escaped. -/
def IsPrinted (asciiOnly : Bool) (c : Nat) : Prop :=
  c = 0x0a ∨ 0x20 ≤ c ∧ CodePoint.isScalar c = true ∧ (asciiOnly = true → c < 0x7f)

/-- A text of characters that are written. -/
def Printed (asciiOnly : Bool) (t : Text) : Prop := ∀ c ∈ t, IsPrinted asciiOnly c

theorem Printed.append (first : Printed asciiOnly s) (second : Printed asciiOnly t) :
    Printed asciiOnly (s ++ t) := List.forall_mem_append.mpr ⟨first, second⟩

/-- What is written can be encoded. -/
theorem Printed.isEncodable (printed : Printed asciiOnly t) : Utf8.IsEncodable t := by
  intro c member
  rcases printed c member with rfl | ⟨-, scalar, -⟩
  · rfl
  · exact scalar

/-- The characters of ASCII that are shown are written. -/
theorem printed_of_ascii (ascii : ∀ c : Nat, c ∈ t → 0x20 ≤ c ∧ c < 0x7f) : Printed asciiOnly t := by
  intro c member
  obtain ⟨visible, ascii⟩ := ascii c member
  exact .inr ⟨visible, Utf8.isScalar_iff.mpr (.inl (by omega)), fun _ => ascii⟩

theorem printed_unicodeEscape (small : c < 0x10000) : Printed asciiOnly (unicodeEscape c) := by
  have digit {n : Nat} (isDigit : n < 16) := Text.digitChar_printable isDigit
  have whole : unicodeEscape c = [0x5c, 0x75] ++ Text.ofHex 4 c := rfl
  rw [whole, Text.ofHex_four small]
  refine .append (printed_of_ascii (by decide)) (printed_of_ascii ?_)
  simp only [List.forall_mem_cons]
  exact ⟨digit (by omega), digit (by omega), digit (by omega), digit (by omega), List.forall_mem_nil _⟩

theorem Written.printed {written : Text} (writes : Written asciiOnly c written)
    (scalar : asciiOnly = false → CodePoint.isScalar c = true) : Printed asciiOnly written := by
  cases writes with
  | @letter d escaped =>
      have letter : 0x20 ≤ d ∧ d < 0x7f := by grind [escapedChar?]
      exact printed_of_ascii
        (List.forall_mem_cons.mpr ⟨by decide, List.forall_mem_singleton.mpr letter⟩)
  | plain visible notQuote notBackslash ascii =>
      refine List.forall_mem_singleton.mpr (.inr ⟨visible, ?_, ascii⟩)
      cases asciiOnly with
      | false => exact scalar rfl
      | true => exact Utf8.isScalar_iff.mpr (.inl (Nat.lt_trans (ascii rfl) (by decide)))
  | unit small => exact printed_unicodeEscape small
  | pair isHigh isLow joined =>
      exact .append (printed_unicodeEscape (lt_of_isSurrogate (.inl isHigh)))
        (printed_unicodeEscape (lt_of_isSurrogate (.inr isLow)))

theorem printed_writeText (writable : WritableText asciiOnly t) :
    Printed asciiOnly (writeText asciiOnly t) := by
  have quote : Printed asciiOnly [0x22] := printed_of_ascii (by decide)
  refine .append (.append quote ?_) quote
  intro d member
  obtain ⟨c, inText, member⟩ := List.mem_flatMap.mp member
  exact (written_writeChar asciiOnly (writable.codePoint c inText)).printed
    (fun raw => writable.scalar raw c inText) d member

end NotebookAudit.Json

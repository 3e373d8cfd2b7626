import Mathlib.Data.List.Infix
import NotebookAudit.Text.Blank
import NotebookAudit.Text.Lower
import NotebookAudit.Text.Word

/-!
How a text begins when case and the blanks around it do not count.

Two characters outside ASCII have a lower-case form that starts in ASCII: `İ`, whose form is an `i` with
a dot above, and the Kelvin sign, whose form is a `k`. A word that neither of them can be part of begins
the lower-case form of a text exactly if it begins the text up to the case of ASCII letters
(`Text.startsWith_lower_iff`). To trim the end of a text does not change which words without blanks it
begins with (`Text.beginsInAnyCase_trim_iff`).
-/

namespace NotebookAudit

/-! ## Lower case and ASCII -/

namespace CodePoint

variable {c w : CodePoint}

/-- A character is kept, or it is mapped by a run that covers it. -/
theorem mapRuns_cases (c : CodePoint) (runs : List CaseRun) :
    c.mapRuns runs = c ∨ ∃ r ∈ runs, r.covers c = true ∧ c.mapRuns runs = r.map c := by
  induction runs with
  | nil => exact .inl rfl
  | cons r rest ih =>
      rw [mapRuns]
      split
      · exact .inl rfl
      · split
        · next covered => exact .inr ⟨r, List.mem_cons_self, covered, rfl⟩
        · rcases ih with kept | ⟨r', member, covered, mapped⟩
          · exact .inl kept
          · exact .inr ⟨r', List.mem_cons_of_mem _ member, covered, mapped⟩

theorem lower_of_ascii (ascii : c < 128) : c.lower = c.asciiLower := by
  have each : ∀ d < 128, CodePoint.lower d = CodePoint.asciiLower d := by decide +kernel
  exact each c ascii

theorem asciiLower_of_not_ascii (noAscii : 128 ≤ c) : c.asciiLower = c :=
  if_neg fun capital => absurd (Nat.le_trans noAscii capital.2) (by decide)

/-- A test that does not tell the capitals of ASCII from their lower-case forms does not see the case of
ASCII letters. -/
theorem congr_asciiLower {p : CodePoint → Bool} (c : CodePoint)
    (capitals : ∀ d < 128, 0x41 ≤ d → d ≤ 0x5a → p (d + 32) = p d) : p c.asciiLower = p c := by
  unfold asciiLower
  split
  · next capital =>
    exact capitals c (Nat.lt_of_le_of_lt capital.2 (by decide)) capital.1 capital.2
  · rfl

theorem isAsciiWord_asciiLower (c : CodePoint) : c.asciiLower.isAsciiWord = c.isAsciiWord :=
  congr_asciiLower c (by decide +kernel)

theorem isBlank_asciiLower (c : CodePoint) : c.asciiLower.isBlank = c.isBlank :=
  congr_asciiLower c (by decide +kernel)

/-- Only ASCII characters, `İ` and the Kelvin sign are mapped into ASCII. -/
theorem of_lower_ascii (ascii : c.lower < 128) : c < 128 ∨ c = 0x130 ∨ c = 0x212a := by
  rcases mapRuns_cases c lowerRuns with kept | ⟨r, member, covered, mapped⟩
  · rw [lower, kept] at ascii
    exact .inl ascii
  · have each : ∀ r ∈ lowerRuns, r.last < 128 ∨ 128 ≤ r.target ∨
        (r.first = 0x130 ∧ r.last = 0x130) ∨ (r.first = 0x212a ∧ r.last = 0x212a) := by
      decide +kernel
    rw [lower, mapped, CaseRun.map] at ascii
    simp only [CaseRun.covers, Bool.and_eq_true, decide_eq_true_eq] at covered
    obtain ⟨⟨first, last⟩, -⟩ := covered
    rcases each r member with below | above | ⟨same, same'⟩ | ⟨same, same'⟩
    · exact .inl (Nat.lt_of_le_of_lt last below)
    · exact absurd (Nat.le_trans above (Nat.le_add_right _ _)) (Nat.not_le.mpr ascii)
    · exact .inr (.inl (Nat.le_antisymm (same' ▸ last) (same ▸ first)))
    · exact .inr (.inr (Nat.le_antisymm (same' ▸ last) (same ▸ first)))

/-- For an ASCII character other than `k` only the case of ASCII letters counts. -/
theorem lower_eq_iff (ascii : w < 128) (noK : w ≠ 0x6b) (noDot : c ≠ 0x130) :
    c.lower = w ↔ c.asciiLower = w := by
  by_cases small : c < 128
  · rw [lower_of_ascii small]
  · have large : 128 ≤ c := Nat.not_lt.mp small
    rw [asciiLower_of_not_ascii large]
    constructor
    · intro lowered
      rcases of_lower_ascii (lowered ▸ ascii) with small' | dotted | kelvin
      · exact absurd small' small
      · exact absurd dotted noDot
      · have toK : CodePoint.lower 0x212a = 0x6b := by decide +kernel
        rw [kelvin, toK] at lowered
        exact absurd lowered.symm noK
    · intro same
      exact absurd (same ▸ ascii) small

end CodePoint

namespace Text

variable {word t before : Text}

theorem lowerAt_of_ascii {c : CodePoint} (ascii : c < 128) (before after : Text) :
    lowerAt before c after = [c.asciiLower] := by
  have noDotted : c ≠ 0x130 := (Nat.lt_trans ascii (by decide)).ne
  have noSigma : c ≠ 0x3a3 := (Nat.lt_trans ascii (by decide)).ne
  rw [lowerAt, if_neg noDotted, if_neg noSigma, CodePoint.lower_of_ascii ascii]

/-- ASCII characters that no other characters have as their lower-case form: there is no `k` among
them, and the last one is no `i`. -/
structure LowersFromAscii (word : Text) : Prop where
  chars : ∀ c ∈ word, c < 128 ∧ c ≠ 0x6b
  last : word.getLast? ≠ some 0x69

theorem LowersFromAscii.tail {w : CodePoint} (fromAscii : LowersFromAscii (w :: word)) :
    LowersFromAscii word where
  chars := fun c member => fromAscii.chars c (List.mem_cons_of_mem _ member)
  last := by
    intro last
    refine fromAscii.last ?_
    rw [List.getLast?_cons, last]
    rfl

/-- The text begins with a word, where the case of ASCII letters does not count. -/
def BeginsInAnyCase (t word : Text) : Prop := word <+: t.map CodePoint.asciiLower

instance (t word : Text) : Decidable (t.BeginsInAnyCase word) :=
  inferInstanceAs (Decidable (word <+: t.map CodePoint.asciiLower))

/-- The lower-case form of `İ` does not begin with the word: behind the `i` stands an accent. -/
theorem LowersFromAscii.not_dotted {w : CodePoint} (fromAscii : LowersFromAscii (w :: word))
    (rest : Text) : ¬ w :: word <+: 0x69 :: 0x307 :: rest := by
  intro begins
  obtain ⟨rfl, goesOn⟩ := List.cons_prefix_cons.mp begins
  cases word with
  | nil => exact fromAscii.last rfl
  | cons v word =>
      obtain ⟨rfl, -⟩ := List.cons_prefix_cons.mp goesOn
      exact absurd (fromAscii.tail.chars _ List.mem_cons_self).1 (by decide)

/-- A word begins a text whose first character is lowered exactly if its own first character is the
lower-case form of that in ASCII, and the others begin what follows. -/
theorem prefix_lowerAt_iff {c w : CodePoint} (fromAscii : LowersFromAscii (w :: word))
    (after more : Text) :
    w :: word <+: lowerAt before c after ++ more ↔ w = c.asciiLower ∧ word <+: more := by
  obtain ⟨ascii, noK⟩ := fromAscii.chars w List.mem_cons_self
  have notLarge {d : CodePoint} (large : 128 ≤ d) : w ≠ d := fun same =>
    Nat.not_le.mpr ascii (same ▸ large)
  unfold lowerAt
  split
  · next dotted =>
    subst dotted
    exact iff_of_false (fromAscii.not_dotted more) fun same => notLarge (by decide) same.1
  · next noDot =>
    split
    · next sigma =>
      subst sigma
      have sigmas (final : Bool) : 128 ≤ (if final then 0x3c2 else 0x3c3) := by
        cases final <;> decide
      exact iff_of_false (fun begins => notLarge (sigmas _) (List.cons_prefix_cons.mp begins).1)
        fun same => notLarge (by decide) same.1
    · rw [List.singleton_append, List.cons_prefix_cons, eq_comm (a := w),
        CodePoint.lower_eq_iff ascii noK noDot, eq_comm (a := w)]

/-- A word begins the lower-case form of a text, whatever stands before it, exactly if it begins the
text up to the case of ASCII letters. -/
theorem prefix_lowerFrom_iff (fromAscii : LowersFromAscii word) :
    word <+: lowerFrom before t ↔ t.BeginsInAnyCase word := by
  induction word generalizing before t with
  | nil => exact iff_of_true List.nil_prefix List.nil_prefix
  | cons w word ih =>
      cases t with
      | nil => rfl
      | cons c rest =>
          rw [lowerFrom, prefix_lowerAt_iff fromAscii, ih fromAscii.tail, BeginsInAnyCase,
            BeginsInAnyCase, List.map_cons, List.cons_prefix_cons]

/-- The lower-case form of a text starts with a word exactly if the text does up to the case of ASCII
letters. -/
theorem startsWith_lower_iff (fromAscii : LowersFromAscii word) :
    t.lower.startsWith word = true ↔ t.BeginsInAnyCase word := by
  rw [startsWith, List.isPrefixOf_iff_prefix, lower, prefix_lowerFrom_iff fromAscii]

/-- No character is lost. -/
theorem length_le_length_lowerFrom (before t : Text) : t.length ≤ (lowerFrom before t).length := by
  induction t generalizing before with
  | nil => exact Nat.le_refl 0
  | cons c rest ih =>
      have first : 0 < (lowerAt before c rest).length := by
        unfold lowerAt
        split
        · exact Nat.zero_lt_two
        · split <;> exact Nat.one_pos
      rw [lowerFrom, List.length_append, List.length_cons, Nat.add_comm]
      exact Nat.add_le_add first (ih (c :: before))

theorem lowerFrom_eq_nil_iff : lowerFrom before t = [] ↔ t = [] := by
  constructor
  · intro empty
    have kept := length_le_length_lowerFrom before t
    rw [empty] at kept
    exact List.length_eq_zero_iff.mp (Nat.le_zero.mp kept)
  · rintro rfl
    rfl

theorem lower_eq_nil_iff : t.lower = [] ↔ t = [] := lowerFrom_eq_nil_iff

/-! ## Words in front -/

theorem beginsInAnyCase_append_self (small : word.map CodePoint.asciiLower = word) (rest : Text) :
    (word ++ rest).BeginsInAnyCase word := by
  rw [BeginsInAnyCase, List.map_append, small]
  exact List.prefix_append _ _

/-- Whether a word of identifier characters begins a text is decided in front of the first character that
is none. -/
theorem beginsInAnyCase_append_iff {front rest : Text} (chars : ∀ c ∈ word, c.isAsciiWord = true)
    (ends : ∀ c ∈ rest.head?, c.isAsciiWord = false) :
    (front ++ rest).BeginsInAnyCase word ↔ front.BeginsInAnyCase word := by
  rw [BeginsInAnyCase, List.map_append]
  constructor
  · intro begins
    rcases List.prefix_or_prefix_of_prefix begins (List.prefix_append _ _) with inFront | longer
    · exact inFront
    · obtain ⟨more, rfl⟩ := longer
      have moreInRest := (List.prefix_append_right_inj _).mp begins
      cases more with
      | nil => rw [List.append_nil, BeginsInAnyCase]
      | cons w more =>
          obtain ⟨other, split⟩ := moreInRest
          obtain ⟨c, rest, rfl, rfl, -⟩ := List.map_eq_cons_iff.mp split.symm
          have isChar := chars c.asciiLower (List.mem_append_right _ List.mem_cons_self)
          rw [CodePoint.isAsciiWord_asciiLower, ends c rfl] at isChar
          cases isChar
  · intro begins
    exact begins.trans (List.prefix_append _ _)

/-! ## Trimming -/

theorem trimEnd_isPrefix (t : Text) : t.trimEnd <+: t := by
  rw [trimEnd, ← List.reverse_suffix, List.reverse_reverse]
  exact List.dropWhile_suffix _

/-- What begins a text and ends in no blank is kept when the end is trimmed. -/
theorem trimEnd_append {front : Text} (solid : ∀ c ∈ front.getLast?, c.isBlank = false)
    (rest : Text) : (front ++ rest).trimEnd = front ++ rest.trimEnd := by
  have kept : front.reverse.dropWhile (·.isBlank) = front.reverse := by
    rw [← List.head?_reverse] at solid
    cases reversed : front.reverse with
    | nil => rfl
    | cons c others =>
        rw [reversed] at solid
        rw [List.dropWhile_cons_of_neg (by simp [solid c rfl])]
  rw [trimEnd, trimEnd, List.reverse_append, List.dropWhile_append, kept]
  split
  · next allBlank =>
    rw [List.isEmpty_iff.mp allBlank, List.reverse_nil, List.append_nil, List.reverse_reverse]
  · rw [List.reverse_append, List.reverse_reverse]

/-- A text begins with a word that ends in no blank exactly if it does after its end is trimmed. -/
theorem beginsInAnyCase_trimEnd_iff (solid : ∀ c ∈ word.getLast?, c.isBlank = false) :
    t.trimEnd.BeginsInAnyCase word ↔ t.BeginsInAnyCase word := by
  constructor
  · intro begins
    exact begins.trans (List.IsPrefix.map _ (trimEnd_isPrefix t))
  · intro begins
    obtain ⟨front, ⟨rest, rfl⟩, rfl⟩ := List.prefix_map_iff.mp begins
    have solidFront : ∀ c ∈ front.getLast?, c.isBlank = false := by
      intro c last
      rw [← CodePoint.isBlank_asciiLower]
      refine solid _ ?_
      rw [List.getLast?_map, Option.mem_def.mp last]
      rfl
    rw [trimEnd_append solidFront, BeginsInAnyCase, List.map_append]
    exact List.prefix_append _ _

/-- Which words a trimmed text begins with only the blanks in front decide. -/
theorem beginsInAnyCase_trim_iff (solid : ∀ c ∈ word.getLast?, c.isBlank = false) :
    t.trim.BeginsInAnyCase word ↔ t.trimStart.BeginsInAnyCase word :=
  beginsInAnyCase_trimEnd_iff solid

end Text

end NotebookAudit

import NotebookAudit.Proofs.Text.Start

/-!
Texts that differ only in the case of ASCII letters.

Two texts are recased if they are the same once the letters of ASCII are in lower case. Blanks have
no case, so recased texts stay so when they are trimmed (`Text.Recased.trim`), and recased lines
when they are joined (`Text.Recased.joinWith`). Lower-casing keeps every character, and comes to a word
of ASCII without `k` exactly from the recased texts (`Text.lowerFrom_eq_iff`).
-/

namespace NotebookAudit

namespace CodePoint

theorem isAsciiLetter_iff {c : Nat} :
    isAsciiLetter c = true ↔ (0x41 ≤ c ∧ c ≤ 0x5a) ∨ (0x61 ≤ c ∧ c ≤ 0x7a) := by
  simp [isAsciiLetter]

/-- A test that no letter of ASCII passes does not see their case. -/
theorem congr_asciiLower_of_no_letter {p : CodePoint → Bool} (c : CodePoint)
    (noLetter : ∀ d : CodePoint, d.isAsciiLetter = true → p d = false) :
    p c.asciiLower = p c := by
  refine congr_asciiLower c fun d _ first last => ?_
  have capital : isAsciiLetter d = true := isAsciiLetter_iff.mpr (.inl ⟨first, last⟩)
  have small : isAsciiLetter (d + 32) = true := isAsciiLetter_iff.mpr
    (.inr ⟨Nat.add_le_add_right first 32, Nat.add_le_add_right last 32⟩)
  rw [noLetter d capital, noLetter (d + 32) small]

theorem asciiLower_asciiLower (c : CodePoint) : c.asciiLower.asciiLower = c.asciiLower := by
  unfold asciiLower
  split
  · next capital =>
    exact if_neg fun again =>
      absurd (Nat.le_trans (Nat.add_le_add_right capital.1 32) again.2) (by decide)
  · rfl

/-- A character that is no letter of ASCII is the lower-case form in ASCII of itself only. -/
theorem asciiLower_eq_iff {c d : CodePoint} (noLetter : d.isAsciiLetter = false) :
    c.asciiLower = d ↔ c = d := by
  have same : (c.asciiLower == d) = (c == d) :=
    congr_asciiLower_of_no_letter (p := (· == d)) c fun e letter => by
      rw [beq_eq_false_iff_ne]
      rintro rfl
      rw [letter] at noLetter
      cases noLetter
  rw [← beq_iff_eq, same, beq_iff_eq]

theorem ascii_of_asciiLower {c : CodePoint} (ascii : c.asciiLower < 128) : c < 128 := by
  by_contra large
  rw [asciiLower_of_not_ascii (Nat.not_lt.mp large)] at ascii
  exact large ascii

/-- The lower-case form of a letter does not depend on its case. -/
theorem lower_asciiLower (c : CodePoint) : c.asciiLower.lower = c.lower := by
  by_cases ascii : c < 128
  · have each : ∀ d < 128, (CodePoint.asciiLower d).lower = CodePoint.lower d := by decide +kernel
    exact each c ascii
  · rw [asciiLower_of_not_ascii (Nat.not_lt.mp ascii)]

end CodePoint

namespace Text

variable {t u word before : Text} {c : CodePoint}

/-- The texts have the same length and differ only in the case of ASCII letters. -/
def Recased (t u : Text) : Prop := t.map CodePoint.asciiLower = u.map CodePoint.asciiLower

instance (t u : Text) : Decidable (t.Recased u) := inferInstanceAs (Decidable (_ = _))

theorem trim_asciiLower (t : Text) :
    Text.trim (t.map CodePoint.asciiLower) = t.trim.map CodePoint.asciiLower := by
  have blank : (fun c : CodePoint => c.isBlank) ∘ CodePoint.asciiLower = fun c => c.isBlank :=
    funext CodePoint.isBlank_asciiLower
  simp only [trim, trimStart, trimEnd, List.dropWhile_map, ← List.map_reverse, blank]

namespace Recased

theorem refl (t : Text) : t.Recased t := rfl

theorem trim (recased : t.Recased u) : t.trim.Recased u.trim := by
  rw [Recased, ← trim_asciiLower, recased, trim_asciiLower]

theorem append {t' u' : Text} (first : t.Recased u) (second : t'.Recased u') :
    (t ++ t').Recased (u ++ u') := by
  rw [Recased, List.map_append, List.map_append, first, second]

theorem joinWith (c : CodePoint) {ts us : List Text} (lines : List.Forall₂ Recased ts us) :
    (Text.joinWith c ts).Recased (Text.joinWith c us) := by
  induction lines with
  | nil => exact refl []
  | cons first others ih =>
      cases others with
      | nil => exact first
      | cons second others => exact first.append ((refl [c]).append ih)

/-- Which words a text begins with in any case does not depend on its case. -/
theorem beginsInAnyCase_iff (recased : t.Recased u) (word : Text) :
    t.BeginsInAnyCase word ↔ u.BeginsInAnyCase word := by
  rw [BeginsInAnyCase, recased, BeginsInAnyCase]

end Recased

/-! ## Lower-casing -/

/-- In ASCII only the letters have another lower-case form. -/
theorem lowerFrom_of_ascii (ascii : ∀ c ∈ t, c < 128) :
    lowerFrom before t = t.map CodePoint.asciiLower := by
  induction t generalizing before with
  | nil => rfl
  | cons c rest ih =>
      rw [List.forall_mem_cons] at ascii
      rw [lowerFrom, lowerAt_of_ascii ascii.1, ih ascii.2, List.map_cons, List.singleton_append]

/-- A word in ASCII is the lower-case form of a text exactly if it is the text up to the case of ASCII
letters. -/
theorem lowerFrom_eq_iff (fromAscii : LowersFromAscii word) :
    lowerFrom before t = word ↔ t.map CodePoint.asciiLower = word := by
  constructor
  · rintro rfl
    have begins := (prefix_lowerFrom_iff fromAscii).mp List.prefix_rfl
    refine (begins.eq_of_length_le ?_).symm
    rw [List.length_map]
    exact length_le_length_lowerFrom before t
  · rintro rfl
    refine lowerFrom_of_ascii fun c member => ?_
    exact CodePoint.ascii_of_asciiLower (fromAscii.chars _ (List.mem_map_of_mem member)).1

/-- A character of ASCII that is no letter stands in the lower-case form of a text exactly if it stands in
the text. -/
theorem mem_lowerFrom_iff (ascii : c < 128) (noLetter : c.isAsciiLetter = false) :
    c ∈ lowerFrom before t ↔ c ∈ t := by
  have noK : c ≠ 0x6b := by
    rintro rfl
    cases noLetter
  have noSmallI : c ≠ 0x69 := by
    rintro rfl
    cases noLetter
  have notLarge {d : CodePoint} (large : 128 ≤ d) : c ≠ d := fun same =>
    Nat.not_le.mpr ascii (same ▸ large)
  induction t generalizing before with
  | nil => rfl
  | cons d rest ih =>
      have first : c ∈ lowerAt before d rest ↔ c = d := by
        unfold lowerAt
        split
        · next dotted =>
          simp [dotted, noSmallI, notLarge]
        · next noDotted =>
          split
          · next sigma =>
            simp only [sigma, List.mem_singleton]
            refine iff_of_false (notLarge ?_) (notLarge (by decide))
            split <;> decide
          · rw [List.mem_singleton, eq_comm, CodePoint.lower_eq_iff ascii noK noDotted,
              CodePoint.asciiLower_eq_iff noLetter, eq_comm]
      have others : c ∈ lowerFrom (d :: before) rest ↔ c ∈ rest := ih
      rw [lowerFrom, List.mem_append, first, others, List.mem_cons]

end Text

end NotebookAudit

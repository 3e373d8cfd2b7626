import Mathlib.Algebra.Group.Nat.Defs
import NotebookAudit.Proofs.Json.Grammar

/-!
Numbers written with digits.

A number below `16 ^ 4` in four hexadecimal digits is read back (`Text.hex4?_ofHex`), and so is an
integer in decimal: its digits are a whole number of the grammar, and their value is the number
(`Text.isWhole_ofNat`, `Text.value_ofNat`).
-/

namespace NotebookAudit.Text

variable {n width : Nat}

/-! ## Hexadecimal digits -/

/-- The character of a digit below sixteen. -/
def digitChar (n : Nat) : CodePoint := (Nat.digitChar n).toNat

theorem digitChar_printable (small : n < 16) : 0x20 ≤ digitChar n ∧ digitChar n < 0x7f := by
  revert n
  decide

theorem hexValue?_digitChar (small : n < 16) : (digitChar n).hexValue? = some n := by
  revert n
  decide

theorem ofHex_eq (width n : Nat) :
    ofHex width n = List.replicate (width - (Nat.toDigits 16 n).length) 0x30 ++
      (Nat.toDigits 16 n).map Char.toNat := by
  rw [ofHex, List.length_map]

theorem ofHex_of_lt (small : n < 16) (width : Nat) :
    ofHex (width + 1) n = List.replicate width 0x30 ++ [digitChar n] := by
  rw [ofHex_eq, Nat.toDigits_of_lt_base small]
  rfl

/-- The last digit comes off the end. -/
theorem ofHex_succ (width n : Nat) :
    ofHex (width + 2) n = ofHex (width + 1) (n / 16) ++ [digitChar (n % 16)] := by
  by_cases small : n < 16
  · rw [ofHex_of_lt small, Nat.div_eq_of_lt small, Nat.mod_eq_of_lt small, ofHex_of_lt (by decide),
      List.replicate_succ']
    rfl
  · rw [ofHex_eq, ofHex_eq, Nat.toDigits_of_base_le (by decide) (Nat.le_of_not_lt small),
      List.length_append, List.length_singleton, List.map_append,
      Nat.add_sub_add_right (width + 1) 1, ← List.append_assoc]
    rfl

theorem ofHex_four (small : n < 0x10000) :
    ofHex 4 n = [digitChar (n / 16 / 16 / 16), digitChar (n / 16 / 16 % 16),
      digitChar (n / 16 % 16), digitChar (n % 16)] := by
  rw [ofHex_succ, ofHex_succ, ofHex_succ, ofHex_of_lt (by omega)]
  rfl

/-- Four hexadecimal digits are read back. -/
theorem hex4?_ofHex (small : n < 0x10000) : Json.hex4? (ofHex 4 n) = some n := by
  rw [ofHex_four small, Json.hex4?, hexValue?_digitChar (by omega), hexValue?_digitChar (by omega),
    hexValue?_digitChar (by omega), hexValue?_digitChar (by omega)]
  show some _ = some n
  rw [Option.some.injEq]
  omega

/-! ## Decimal digits -/

theorem ofNat_of_lt (small : n < 10) : ofNat n = [digitChar n] := by
  rw [ofNat, Nat.toDigits_of_lt_base small]
  rfl

/-- The last digit comes off the end. -/
theorem ofNat_of_le (large : 10 ≤ n) : ofNat n = ofNat (n / 10) ++ [digitChar (n % 10)] := by
  rw [ofNat, ofNat, Nat.toDigits_of_base_le (by decide) large, List.map_append]
  rfl

theorem isDigits_ofNat (n : Nat) : Json.IsDigits (ofNat n) := by
  have digit (d : Nat) (small : d < 10) : (digitChar d).isAsciiDigit = true := by
    revert d
    decide
  induction n using Nat.strongRecOn with
  | ind n ih =>
      intro c member
      by_cases small : n < 10
      · rw [ofNat_of_lt small, List.mem_singleton] at member
        rw [member]
        exact digit n small
      · rw [ofNat_of_le (Nat.le_of_not_lt small), List.mem_append, List.mem_singleton] at member
        rcases member with first | rfl
        · exact ih (n / 10) (by omega) c first
        · exact digit _ (Nat.mod_lt n (by decide))

/-- The digits of a number that is not zero do not start with a zero. -/
theorem ofNat_head (positive : 0 < n) : ∃ c rest, ofNat n = c :: rest ∧ c ≠ 0x30 := by
  have digit (d : Nat) (small : d < 10) (positive : 0 < d) : digitChar d ≠ 0x30 := by
    revert d
    decide
  induction n using Nat.strongRecOn with
  | ind n ih =>
      by_cases small : n < 10
      · exact ⟨digitChar n, [], ofNat_of_lt small, digit n small positive⟩
      · obtain ⟨c, rest, first, noZero⟩ := ih (n / 10) (by omega) (by omega)
        rw [ofNat_of_le (Nat.le_of_not_lt small), first]
        exact ⟨c, _, rfl, noZero⟩

/-- The digits of a number are a whole number. -/
theorem isWhole_ofNat (n : Nat) : Json.IsWhole (ofNat n) := by
  cases Nat.eq_zero_or_pos n with
  | inl zero =>
      rw [zero]
      exact .zero
  | inr positive =>
      obtain ⟨c, rest, digits, noZero⟩ := ofNat_head positive
      have isDigits := isDigits_ofNat n
      rw [digits] at isDigits ⊢
      exact .digits noZero isDigits

/-- The value of the digits of a number is the number. -/
theorem value_ofNat (n : Nat) : Numeral.value 10 (ofNat n) = n := by
  have digit (d : Nat) (small : d < 10) : Numeral.digitValue? 10 (digitChar d) = some d := by
    revert d
    decide
  induction n using Nat.strongRecOn with
  | ind n ih =>
      by_cases small : n < 10
      · rw [ofNat_of_lt small]
        show 0 * 10 + (Numeral.digitValue? 10 (digitChar n)).getD 0 = n
        rw [digit n small]
        exact Nat.zero_add n
      · have others := ih (n / 10) (by omega)
        rw [Numeral.value] at others ⊢
        rw [ofNat_of_le (Nat.le_of_not_lt small), List.foldl_append, others, List.foldl_cons,
          List.foldl_nil, digit _ (Nat.mod_lt n (by decide))]
        show n / 10 * 10 + n % 10 = n
        omega

theorem digitValue?_getD_lt {base : Nat} (positive : 0 < base) (c : CodePoint) :
    (Numeral.digitValue? base c).getD 0 < base := by
  cases read : Numeral.digitValue? base c with
  | none => exact positive
  | some n =>
      obtain ⟨small, same⟩ := Option.ite_none_right_eq_some.mp read
      rw [Option.getD_some, ← Option.some.inj same]
      exact small

/-- The value of digits is below the power of ten of their number. -/
theorem value_lt (digits : Text) : Numeral.value 10 digits < 10 ^ digits.length := by
  have general (n : Nat) : digits.foldl (fun n c => n * 10 + (Numeral.digitValue? 10 c).getD 0) n <
      (n + 1) * 10 ^ digits.length := by
    induction digits generalizing n with
    | nil => exact Nat.lt_of_lt_of_eq (Nat.lt_succ_self n) (Nat.mul_one _).symm
    | cons c rest ih =>
        have digit : (Numeral.digitValue? 10 c).getD 0 < 10 := digitValue?_getD_lt (by decide) c
        have step : (n * 10 + (Numeral.digitValue? 10 c).getD 0 + 1) * 10 ^ rest.length ≤
            (n + 1) * 10 * 10 ^ rest.length := Nat.mul_le_mul_right _ (by omega)
        rw [List.foldl_cons, List.length_cons, Nat.pow_succ', ← Nat.mul_assoc]
        exact Nat.lt_of_lt_of_le (ih _) step
  have atZero := general 0
  rw [Nat.zero_add, Nat.one_mul] at atZero
  exact atZero

/-- A number has no more digits than the limit exactly if it is below its power of ten. -/
theorem length_ofNat_le_iff (positive : 0 < width) :
    (ofNat n).length ≤ width ↔ n < 10 ^ width := by
  rw [ofNat, List.length_map]
  exact Nat.length_toDigits_le_iff (by decide) positive

end NotebookAudit.Text

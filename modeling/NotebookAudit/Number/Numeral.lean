import NotebookAudit.Number.Double
import NotebookAudit.Text.Blank
import NotebookAudit.Text.Digit
import NotebookAudit.Text.Quoted

/-!
Numerals: reading integers and doubles from text.

The digits of every script count, blanks around a numeral do not, and one underscore may stand
between two digits. A decimal integer has at most 4300 digits, leading zeros counted.
-/

namespace NotebookAudit

/-- The greatest number of digits of a decimal integer, in reading and in writing. -/
def digitLimit : Nat := 4300

/-- Why a text is not read as an integer. -/
inductive NumeralFault where
  /-- The text is no numeral of the base. -/
  | invalid (base : Nat) (text : Text)
  /-- The numeral has more digits than the limit. -/
  | tooLong (digits : Nat)
  /-- The integer has more digits than the limit when it is written. -/
  | tooLongToWrite
  deriving Repr, DecidableEq

/-- The message of a fault. A long text is shown by the first 200 characters of its quoted form. -/
def NumeralFault.message : NumeralFault → Text
  | .invalid base text =>
    "invalid literal for int() with base " ++ Text.ofNat base ++ ": " ++ text.quoted.take 200
  | .tooLong digits =>
    "Exceeds the limit (4300 digits) for integer string conversion: value has "
      ++ Text.ofNat digits
      ++ " digits; use sys.set_int_max_str_digits() to increase the limit"
  | .tooLongToWrite =>
    "Exceeds the limit (4300 digits) for integer string conversion; "
      ++ "use sys.set_int_max_str_digits() to increase the limit"

namespace Numeral

/-- A character of a numeral in ASCII: digits of every script become the ASCII digits, blanks the
space, and anything else outside ASCII a question mark. -/
def asciiForm (c : CodePoint) : CodePoint :=
  if c < 128 then c
  else if c.isBlank then 0x20
  else match c.decimalValue? with
    | some d => 0x30 + d
    | none => 0x3f

/-- The value of a digit or letter as a digit of a base up to 36. -/
def digitValue? (base : Nat) (c : CodePoint) : Option Nat :=
  let value := if 0x30 ≤ c ∧ c ≤ 0x39 then c - 0x30
    else if 0x61 ≤ c ∧ c ≤ 0x7a then c - 0x61 + 10
    else if 0x41 ≤ c ∧ c ≤ 0x5a then c - 0x41 + 10
    else base
  if value < base then some value else none

/-- The sign in front of a numeral, and the rest. -/
def takeSign : Text → Bool × Text
  | 0x2d :: rest => (true, rest)
  | 0x2b :: rest => (false, rest)
  | t => (false, t)

/-- The letter of the mark `0x`, `0o` or `0b` that may stand in front of a numeral of a base. -/
def markLetter? : (base : Nat) → Option CodePoint
  | 16 => some 0x78
  | 8 => some 0x6f
  | 2 => some 0x62
  | _ => none

/-- The numeral without the mark of its base; an underscore may follow the mark. -/
def dropMark (base : Nat) : Text → Text
  | 0x30 :: c :: rest =>
    if markLetter? base = some (CodePoint.asciiLower c) then
      match rest with
      | 0x5f :: more => more
      | _ => rest
    else 0x30 :: c :: rest
  | t => t

/-- Whether underscores stand between digits only. -/
def underscoresInside : Text → Bool
  | [] => true
  | [c] => c != 0x5f
  | 0x5f :: 0x5f :: _ => false
  | _ :: rest => underscoresInside rest

/-- Reads the digits of a numeral of a base, with underscores between them. -/
def value (base : Nat) (digits : Text) : Nat :=
  digits.foldl (fun n c => n * base + (digitValue? base c).getD 0) 0

/-- Whether the digits of a base are counted against the limit. -/
def isLimited (base : Nat) : Bool := base != 2 && base != 8 && base != 16

/-- Reads an integer of base 2, 8, 10 or 16. -/
def readInt (base : Nat) (text : Text) : Except NumeralFault Int :=
  let t := (text.map asciiForm).dropWhile (·.isAsciiBlank)
  let (negative, t) := takeSign t
  let t := dropMark base t
  let isDigit (c : CodePoint) : Bool := c == 0x5f || (digitValue? base c).isSome
  let body := t.takeWhile isDigit
  let digits := Text.remove body 0x5f
  let after := t.dropWhile isDigit
  if body.head? = some 0x5f ∨ digits = [] ∨ !underscoresInside body then .error (.invalid base text)
  else if isLimited base ∧ digitLimit < digits.length then .error (.tooLong digits.length)
  else if !after.all (·.isAsciiBlank) then .error (.invalid base text)
  else
    let n := value base digits
    .ok (if negative then -(n : Int) else n)

/-- Writes an integer in decimal. -/
def writeInt (i : Int) : Except NumeralFault Text :=
  if i.natAbs < Nat.pow 10 digitLimit then .ok (Text.ofInt i) else .error .tooLongToWrite

/-- Whether every underscore of a text stands between two ASCII digits. -/
def underscoresBetweenDigits (before : CodePoint) : Text → Bool
  | [] => true
  | 0x5f :: rest =>
    before.isAsciiDigit && (match rest with
      | c :: _ => c.isAsciiDigit
      | [] => false) && underscoresBetweenDigits 0x5f rest
  | c :: rest => underscoresBetweenDigits c rest

/-- The words for the doubles that are no numerals. -/
def word? (negative : Bool) (t : Text) : Option Double :=
  let small := t.map CodePoint.asciiLower
  if small = Text.ofString "inf" ∨ small = Text.ofString "infinity" then some (.infinity negative)
  else if small = Text.ofString "nan" then some .nan
  else none

/-- The exponent of a numeral: an `e`, a sign and digits, or nothing. -/
def exponent? : Text → Option Int
  | [] => some 0
  | c :: rest =>
    if c = 0x65 ∨ c = 0x45 then
      let (negative, digits) := takeSign rest
      if digits ≠ [] ∧ digits.all (·.isAsciiDigit) then
        let n := value 10 digits
        some (if negative then -(n : Int) else n)
      else none
    else none

/-- Reads an unsigned decimal numeral: digits with at most one point, and an exponent. -/
def decimal? (negative : Bool) (t : Text) : Option Double :=
  let whole := t.takeWhile (·.isAsciiDigit)
  let rest := t.dropWhile (·.isAsciiDigit)
  let (fraction, rest) := match rest with
    | 0x2e :: more => (more.takeWhile (·.isAsciiDigit), more.dropWhile (·.isAsciiDigit))
    | _ => ([], rest)
  if whole = [] ∧ fraction = [] then none
  else (exponent? rest).map fun e =>
    .ofDecimal negative (value 10 (whole ++ fraction)) (e - fraction.length)

/-- Reads a double: a decimal numeral, an infinity or not a number. -/
def readDouble? (text : Text) : Option Double :=
  let t := ((text.map asciiForm).dropWhile (·.isAsciiBlank)).reverse.dropWhile (·.isAsciiBlank)
  let t := t.reverse
  if underscoresBetweenDigits 0 t then
    let (negative, t) := takeSign (Text.remove t 0x5f)
    match word? negative t with
    | some d => some d
    | none => decimal? negative t
  else none

end Numeral

end NotebookAudit

/-!
Text as a list of code points.

Notebook sources, rule messages and file names may hold lone surrogates, which a `Char` cannot be,
so a text is a list of code points. String literals stand for the texts they spell.
-/

namespace NotebookAudit

/-- A code point, lone surrogates included. -/
abbrev CodePoint := Nat

/-- A text: its code points in order. -/
abbrev Text := List CodePoint

namespace CodePoint

/-- One half of a surrogate pair. -/
def isSurrogate (c : CodePoint) : Bool := 0xd800 ≤ c && c ≤ 0xdfff

/-- A code point that is not a surrogate. -/
def isScalar (c : CodePoint) : Bool := c < 0x110000 && !c.isSurrogate

/-- An ASCII digit. -/
def isAsciiDigit (c : CodePoint) : Bool := 0x30 ≤ c && c ≤ 0x39

/-- An ASCII letter. -/
def isAsciiLetter (c : CodePoint) : Bool := (0x41 ≤ c && c ≤ 0x5a) || (0x61 ≤ c && c ≤ 0x7a)

/-- The lower-case form of an ASCII letter; every other character is kept. -/
def asciiLower (c : CodePoint) : CodePoint := if 0x41 ≤ c ∧ c ≤ 0x5a then c + 32 else c

/-- The upper-case form of an ASCII letter; every other character is kept. -/
def asciiUpper (c : CodePoint) : CodePoint := if 0x61 ≤ c ∧ c ≤ 0x7a then c - 32 else c

end CodePoint

namespace Text

/-- The code points of a string. -/
def ofString (s : String) : Text := s.toList.map Char.toNat

instance : Coe String Text := ⟨ofString⟩

/-- The string of a text; a surrogate is shown as U+FFFD. -/
def toString (t : Text) : String :=
  String.ofList (t.map fun c => if c.isScalar then Char.ofNat c else Char.ofNat 0xfffd)

/-- The decimal digits of a number. -/
def ofNat (n : Nat) : Text := (Nat.toDigits 10 n).map Char.toNat

/-- The decimal digits of a number, after a minus sign if it is negative. -/
def ofInt : Int → Text
  | .ofNat n => ofNat n
  | .negSucc n => 0x2d :: ofNat (n + 1)

/-- The digits of a number in base sixteen, lower case, with zeros in front up to `width`. -/
def ofHex (width n : Nat) : Text :=
  let digits := (Nat.toDigits 16 n).map Char.toNat
  List.replicate (width - digits.length) 0x30 ++ digits

/-- Whether `s` begins the text. -/
def startsWith (t s : Text) : Bool := s.isPrefixOf t

/-- Whether `s` ends the text. -/
def endsWith (t s : Text) : Bool := s.isSuffixOf t

/-- Whether `s` occurs in the text. -/
def contains (t s : Text) : Bool :=
  s.isPrefixOf t || match t with
    | [] => false
    | _ :: rest => contains rest s

theorem contains_iff {t s : Text} : t.contains s = true ↔ s <:+: t := by
  induction t with
  | nil => simp [contains]
  | cons c rest ih =>
      rw [contains, Bool.or_eq_true, ih, List.isPrefixOf_iff_prefix, List.infix_cons_iff]

/-- The pieces of the text between the occurrences of `c`: one more than there are occurrences. -/
def cutAt (c : CodePoint) (t : Text) : List Text :=
  t.foldr (fun d pieces =>
    if d = c then [] :: pieces
    else match pieces with
      | [] => [[d]]
      | piece :: rest => (d :: piece) :: rest) [[]]

/-- The lines of the text: its pieces between line feeds. -/
def lines (t : Text) : List Text := t.cutAt 0x0a

/-- The texts one after another, with `c` between each two. -/
def joinWith (c : CodePoint) : List Text → Text
  | [] => []
  | [t] => t
  | t :: rest => t ++ c :: joinWith c rest

/-- The text with every `c` replaced by `d`. -/
def replace (t : Text) (c d : CodePoint) : Text := t.map fun x => if x = c then d else x

/-- The text without every `c`. -/
def remove (t : Text) (c : CodePoint) : Text := t.filter (· != c)

/-- Splits a text after its last `c`: what stands up to there, `c` included, and the rest. -/
def splitAtLast (c : CodePoint) (t : Text) : Text × Text :=
  let after := t.reverse.takeWhile (· != c)
  (t.take (t.length - after.length), after.reverse)

/-- Whether a text comes no later than another in the order of code points. -/
def isAtMost : Text → Text → Bool
  | [], _ => true
  | _ :: _, [] => false
  | a :: s, b :: t => a < b || (a == b && isAtMost s t)

/-- The texts of a list in the order of their code points. -/
def sort (ts : List Text) : List Text := ts.mergeSort isAtMost

end Text

end NotebookAudit

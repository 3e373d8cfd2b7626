import NotebookAudit.Text.Blank
import NotebookAudit.Text.Case
import NotebookAudit.Text.Digit
import NotebookAudit.Text.Word

/-!
Tests on single characters.

A `CharTest` folds the case of a character and looks the folded character up in a set. Under a
folding that is not `exact` the answer depends on the folded character alone, so a test cannot tell
apart two characters that the folding identifies.
-/

namespace NotebookAudit

/-- The lower-case letters that share their upper-case form with other lower-case letters, in
classes of such letters. -/
def caseClasses : List (List CodePoint) :=
  [[0x69, 0x131], [0x73, 0x17f], [0xb5, 0x3bc], [0x345, 0x3b9, 0x1fbe], [0x390, 0x1fd3],
   [0x3b0, 0x1fe3], [0x3b2, 0x3d0], [0x3b5, 0x3f5], [0x3b8, 0x3d1], [0x3ba, 0x3f0],
   [0x3c0, 0x3d6], [0x3c1, 0x3f1], [0x3c2, 0x3c3], [0x3c6, 0x3d5], [0x432, 0x1c80],
   [0x434, 0x1c81], [0x43e, 0x1c82], [0x441, 0x1c83], [0x442, 0x1c84, 0x1c85], [0x44a, 0x1c86],
   [0x463, 0x1c87], [0x1c88, 0xa64b], [0x1e61, 0x1e9b], [0xfb05, 0xfb06]]

/-- The class of a lower-case letter; a letter in no class is alone in its own. -/
def CodePoint.caseClass (c : CodePoint) : List CodePoint :=
  (caseClasses.find? (·.contains c)).getD [c]

namespace Pattern

/-- How characters are folded before they are compared. -/
inductive Fold where
  /-- Not at all. -/
  | exact
  /-- ASCII letters become lower case. -/
  | ascii
  /-- Letters of every script become lower case. -/
  | unicode
  deriving Repr, DecidableEq

namespace Fold

/-- The folded form of a character. -/
def apply : Fold → CodePoint → CodePoint
  | exact, c => c
  | ascii, c => c.asciiLower
  | unicode, c => c.lower

/-- Whether a character is a letter for which case matters. -/
def isCased : Fold → CodePoint → Bool
  | exact, _ => false
  | ascii, c => c.isAsciiLetter
  | unicode, c => c.hasCase

/-- The folded characters that count as equal to a folded character. -/
def equals : Fold → CodePoint → List CodePoint
  | unicode, c => c.caseClass
  | _, c => [c]

/-- The characters with a given folded form. -/
def preimages : Fold → CodePoint → List CodePoint
  | exact, d => [d]
  | ascii, d =>
    if 0x61 ≤ d ∧ d ≤ 0x7a then [d, d - 32] else if 0x41 ≤ d ∧ d ≤ 0x5a then [] else [d]
  | unicode, d => d.lowerPreimages

/-- Whether case matters for some character between `lo` and `hi`. -/
def meetsCased : Fold → CodePoint → CodePoint → Bool
  | exact, _, _ => false
  | ascii, lo, hi => (lo ≤ 0x5a && 0x41 ≤ hi) || (lo ≤ 0x7a && 0x61 ≤ hi)
  | unicode, lo, hi => lowerRuns.any (·.meets lo hi) || upperRuns.any (·.meets lo hi)

end Fold

/-- The named classes of characters. -/
inductive CharClass where
  | digit
  | blank
  | word
  deriving Repr, DecidableEq

/-- Whether a character belongs to a class, of ASCII only or of every script. -/
def CharClass.contains (asciiOnly : Bool) : CharClass → CodePoint → Bool
  | digit, c => if asciiOnly then c.isAsciiDigit else c.isDecimal
  | blank, c => if asciiOnly then c.isAsciiBlank else c.isBlank
  | word, c => if asciiOnly then c.isAsciiWord else c.isWord

/-- An item of a set of characters. -/
inductive SetItem where
  | literal (c : CodePoint)
  | range (lo hi : CodePoint)
  | ofClass (k : CharClass) (negated : Bool)
  deriving Repr, DecidableEq

/-- The last character of the basic plane. Letters beyond it are folded less thoroughly: a literal
of a set is compared as it stands, and a range holds what it holds in either case. -/
def lastBasic : CodePoint := 0xffff

namespace SetItem

/-- Whether the folded character `x` belongs to the item. -/
def accepts (fold : Fold) (asciiOnly : Bool) (x : CodePoint) : SetItem → Bool
  | literal c => if c ≤ lastBasic then (fold.equals (fold.apply c)).contains x else x == c
  | range lo hi =>
    match fold with
    | .exact => lo ≤ x && x ≤ hi
    | _ =>
      ((fold.equals x).any fun d => (fold.preimages d).any fun y =>
        lo ≤ y && y ≤ hi && y ≤ lastBasic)
      || (lastBasic < hi && ((lo ≤ x && x ≤ hi) || (lo ≤ x.upper && x.upper ≤ hi)))
  | ofClass k negated => k.contains asciiOnly x != negated

/-- Whether a folding matters for the item. -/
def isCased (fold : Fold) : SetItem → Bool
  | literal c => fold.isCased c || (fold != .exact && lastBasic < c)
  | range lo hi => fold.meetsCased lo hi || (fold != .exact && lastBasic < hi)
  | ofClass _ _ => false

end SetItem

/-- A test on a character: the folded character belongs to an item, or to none if the test is
negated. -/
structure CharTest where
  fold : Fold
  asciiOnly : Bool
  negated : Bool
  items : List SetItem
  deriving Repr, DecidableEq

/-- Whether a character passes the test. -/
def CharTest.accepts (t : CharTest) (c : CodePoint) : Bool :=
  (t.items.any (SetItem.accepts t.fold t.asciiOnly (t.fold.apply c))) != t.negated

end Pattern

end NotebookAudit

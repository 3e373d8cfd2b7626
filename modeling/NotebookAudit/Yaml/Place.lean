import NotebookAudit.Text.Word
import NotebookAudit.Yaml.Error

/-!
Places in a YAML text, and the characters that matter there.
-/

namespace NotebookAudit.Yaml

/-- A character that ends a line. -/
def isBreak (c : CodePoint) : Bool :=
  c == 0x0a || c == 0x0d || c == 0x85 || c == 0x2028 || c == 0x2029

/-- A space or a tab. -/
def isSpace (c : CodePoint) : Bool := c == 0x20 || c == 0x09

/-- A character of names: an ASCII letter or digit, a hyphen or an underscore. -/
def isNameChar (c : CodePoint) : Bool := c.isAsciiWord || c == 0x2d

/-- Whether a character is one of a string. -/
def isOneOf (cs : String) (c : CodePoint) : Bool := List.contains (Text.ofString cs) c

/-- Whether what follows is the end, a space, a tab or a line break. -/
def endsWord : Option CodePoint → Bool
  | none => true
  | some c => isSpace c || isBreak c

/-- Whether what follows is the end, a space or a line break. -/
def endsTag : Option CodePoint → Bool
  | none => true
  | some c => c == 0x20 || isBreak c

/-- Whether what follows is the end or a line break. -/
def endsLine : Option CodePoint → Bool
  | none => true
  | some c => isBreak c

/-- A character that a YAML text may hold. -/
def isPrintable (c : CodePoint) : Bool :=
  c == 0x09 || c == 0x0a || c == 0x0d || (0x20 ≤ c && c ≤ 0x7e) || c == 0x85
    || (0xa0 ≤ c && c ≤ 0xd7ff) || (0xe000 ≤ c && c ≤ 0xfffd) || (0x10000 ≤ c && c ≤ 0x10ffff)

/-- A place: the text from there on, the number of characters before it, and its line and column. -/
structure Place where
  rest : Text
  index : Nat := 0
  line : Nat := 0
  column : Nat := 0

namespace Place

/-- The next character. -/
def peek (p : Place) : Option CodePoint := p.rest.head?

/-- The character `n` places further on. -/
def peekAt (p : Place) (n : Nat) : Option CodePoint := p.rest[n]?

/-- Whether the next character is `c`. -/
def is (p : Place) (c : Char) : Bool := p.peek == some c.toNat

/-- The place after the next character. A byte order mark takes no column. -/
def next (p : Place) : Place :=
  match p.rest with
  | [] => p
  | c :: rest =>
    if isBreak c && !(c == 0x0d && rest.head? == some 0x0a) then ⟨rest, p.index + 1, p.line + 1, 0⟩
    else ⟨rest, p.index + 1, p.line, if c = 0xfeff then p.column else p.column + 1⟩

/-- The place `n` characters further on. -/
def skip (p : Place) : (n : Nat) → Place
  | 0 => p
  | n + 1 => p.next.skip n

/-- The characters in front that pass a test, and the place after them. -/
def takeWhile (p : Place) (test : CodePoint → Bool) : Text × Place :=
  let t := p.rest.takeWhile test
  (t, p.skip t.length)

/-- The place after the spaces. -/
def skipSpaces (p : Place) : Place := (p.takeWhile (· == 0x20)).2

/-- The line break in front, as the text counts it, and the place after it. -/
def takeBreak? (p : Place) : Option (Text × Place) :=
  match p.rest with
  | 0x0d :: 0x0a :: _ => some ([0x0a], p.skip 2)
  | c :: _ =>
    if c = 0x2028 ∨ c = 0x2029 then some ([c], p.next)
    else if isBreak c then some ([0x0a], p.next)
    else none
  | [] => none

/-- Whether a line is three times the same character, `-` or `.`, and text apart from it. -/
def atMarker (p : Place) (c : Char) : Bool :=
  p.rest.take 3 == List.replicate 3 c.toNat && endsWord (p.peekAt 3)

/-- Whether a document ends or starts at a line. -/
def atSeparator (p : Place) : Bool := p.atMarker '-' || p.atMarker '.'

/-- The place after a comment, if one stands there. -/
def skipComment (p : Place) : Place :=
  if p.is '#' then (p.takeWhile fun c => !isBreak c).2 else p

/-- The place after the rest of a line, which holds nothing but a comment. -/
def endLine (p : Place) : Except Error Place :=
  let p := p.skipSpaces.skipComment
  if endsLine p.peek then .ok ((p.takeBreak?.map (·.2)).getD p) else .error .malformed

end Place

end NotebookAudit.Yaml

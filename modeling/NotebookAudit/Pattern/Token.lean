import NotebookAudit.Pattern.Fault

/-!
The tokens of a pattern: single characters, and escapes of a backslash and the character after it.
-/

namespace NotebookAudit.Pattern

/-- A character, or an escape of one, at a position. -/
structure Token where
  position : Nat
  escaped : Bool
  char : CodePoint
  deriving Repr, DecidableEq

namespace Token

/-- The text of a token. -/
def text (t : Token) : Text := if t.escaped then [0x5c, t.char] else [t.char]

/-- Whether a token is a character that is not escaped. -/
def is (t : Token) (c : Char) : Bool := !t.escaped && t.char == c.toNat

/-- Whether a token is one of some characters that are not escaped. -/
def isOneOf (t : Token) (cs : String) : Bool :=
  !t.escaped && List.contains (Text.ofString cs) t.char

/-- Whether a token is an ASCII digit. -/
def isDigit (t : Token) : Bool := !t.escaped && t.char.isAsciiDigit

/-- Whether a token is an octal digit. -/
def isOctal (t : Token) : Bool := !t.escaped && 0x30 ≤ t.char && t.char ≤ 0x37

/-- Whether a token is a hexadecimal digit. -/
def isHex (t : Token) : Bool := !t.escaped && t.char.isHex

/-- Whether a token is a letter of some script. -/
def isLetter (t : Token) : Bool := !t.escaped && t.char.isLetter

end Token

/-- The tokens of a text that starts at a position. A backslash that ends the text is no token. -/
def tokensFrom (position : Nat) : Text → List Token
  | 0x5c :: c :: rest => ⟨position, true, c⟩ :: tokensFrom (position + 2) rest
  | [0x5c] => []
  | c :: rest => ⟨position, false, c⟩ :: tokensFrom (position + 1) rest
  | [] => []

/-- Whether a text ends in a backslash that escapes nothing. -/
def endsLoose : Text → Bool
  | 0x5c :: _ :: rest => endsLoose rest
  | [0x5c] => true
  | _ :: rest => endsLoose rest
  | [] => false

/-- A place in a pattern: the tokens that follow, the position after them, and whether a loose
backslash stands there. -/
structure Cursor where
  tokens : List Token
  stop : Nat
  loose : Bool

namespace Cursor

/-- The position of a place. -/
def position (c : Cursor) : Nat := (c.tokens.head?.map (·.position)).getD c.stop

/-- A place that is not in front of a loose backslash. -/
def check (c : Cursor) : Except Error Cursor :=
  if c.tokens.isEmpty && c.loose then .error (.invalid (.at .looseBackslash c.stop)) else .ok c

/-- The start of a pattern. -/
def ofText (t : Text) : Except Error Cursor :=
  let loose := endsLoose t
  check ⟨tokensFrom 0 t, if loose then t.length - 1 else t.length, loose⟩

/-- The place after the next token. -/
def advance (c : Cursor) : Except Error Cursor := check { c with tokens := c.tokens.tail }

end Cursor

end NotebookAudit.Pattern

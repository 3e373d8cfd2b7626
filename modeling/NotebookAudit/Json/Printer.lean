import NotebookAudit.Json.Basic
import NotebookAudit.Number.Shortest

/-!
Writing JSON.

A `Json.Style` says whether every item and member stands on a line of its own, and whether the
characters outside ASCII are escaped. Escaped, an astral character is a surrogate pair.
-/

namespace NotebookAudit.Json

/-- How a value is written. -/
structure Style where
  /-- The number of blanks by which a level is indented, or nothing for one line. -/
  indent : Option Nat
  /-- Whether the characters outside printable ASCII are escaped. -/
  asciiOnly : Bool

/-- The style of configuration files: two blanks a level, ASCII only. -/
def Style.file : Style := ⟨some 2, true⟩

/-- The style of one line, ASCII only. -/
def Style.line : Style := ⟨none, true⟩

/-- A four-digit Unicode escape. -/
def unicodeEscape (c : CodePoint) : Text := "\\u" ++ Text.ofHex 4 c

/-- The escape of a character that has a letter of its own. -/
def letterEscape? (c : CodePoint) : Option Text :=
  if c = 0x22 then some "\\\""
  else if c = 0x5c then some "\\\\"
  else if c = 0x0a then some "\\n"
  else if c = 0x0d then some "\\r"
  else if c = 0x09 then some "\\t"
  else if c = 0x0c then some "\\f"
  else if c = 0x08 then some "\\b"
  else none

/-- How a character is written inside a string. -/
def writeChar (asciiOnly : Bool) (c : CodePoint) : Text :=
  match letterEscape? c with
  | some escape => escape
  | none =>
    if c < 0x20 then unicodeEscape c
    else if !asciiOnly || c < 0x7f then [c]
    else if c < 0x10000 then unicodeEscape c
    else unicodeEscape (0xd800 + (c - 0x10000) / 0x400)
      ++ unicodeEscape (0xdc00 + (c - 0x10000) % 0x400)

/-- A text as a JSON string. -/
def writeText (asciiOnly : Bool) (t : Text) : Text :=
  0x22 :: t.flatMap (writeChar asciiOnly) ++ [0x22]

/-- What stands in front of an item at a level: a new line and its indentation, or nothing. -/
def Style.newLine (s : Style) (level : Nat) : Text :=
  match s.indent with
  | none => []
  | some width => 0x0a :: List.replicate (width * level) 0x20

/-- What stands between a name and its value. -/
def Style.colon (s : Style) : Text :=
  match s.indent with
  | none => ":"
  | some _ => ": "

mutual

/-- Writes a value at a level. -/
def writeAt (s : Style) (level : Nat) : Json → Text
  | .null => "null"
  | .bool true => "true"
  | .bool false => "false"
  | .int i => Text.ofInt i
  | .float d => FloatStyle.json.write d
  | .text t => writeText s.asciiOnly t
  | .array [] => "[]"
  | .array (v :: rest) =>
    "[" ++ s.newLine (level + 1) ++ writeAt s (level + 1) v ++ writeItems s (level + 1) rest
      ++ s.newLine level ++ "]"
  | .object [] => "\x7b\x7d"
  | .object ((name, v) :: rest) =>
    "\x7b" ++ s.newLine (level + 1) ++ writeText s.asciiOnly name ++ s.colon
      ++ writeAt s (level + 1) v ++ writeMembers s (level + 1) rest ++ s.newLine level ++ "\x7d"

/-- Writes the items of an array after its first. -/
def writeItems (s : Style) (level : Nat) : List Json → Text
  | [] => []
  | v :: rest => "," ++ s.newLine level ++ writeAt s level v ++ writeItems s level rest

/-- Writes the members of an object after its first. -/
def writeMembers (s : Style) (level : Nat) : List (Text × Json) → Text
  | [] => []
  | (name, v) :: rest =>
    "," ++ s.newLine level ++ writeText s.asciiOnly name ++ s.colon ++ writeAt s level v
      ++ writeMembers s level rest

end

/-- The text of a value. -/
def write (s : Style) (v : Json) : Text := writeAt s 0 v

end NotebookAudit.Json

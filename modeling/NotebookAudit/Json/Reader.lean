import NotebookAudit.Json.Basic
import NotebookAudit.Number.Numeral

/-!
Reading JSON.

`Json.read` takes a text that is one JSON value with blanks around it and gives the value, or the
first fault with its position. Beside the standard's values it knows `NaN`, `Infinity` and
`-Infinity`. A control character may not stand in a string, a lone surrogate escape is kept as it
is, and arrays and objects nest at most `Json.depthLimit` deep.
-/

namespace NotebookAudit.Json

/-- How deep arrays and objects may nest: the recursion limit of 1000 less what stands on a stack that
is otherwise empty. -/
def depthLimit : Nat := 990

/-- What is wrong at a position of a text. -/
inductive Problem where
  | expectingValue
  | expectingName
  | expectingColon
  | expectingComma
  | extraData
  | unterminatedString
  | controlCharacter
  | badEscape
  | badUnicodeEscape
  | byteOrderMark
  deriving Repr, DecidableEq

/-- Why a text is not read. -/
inductive Fault where
  /-- The text is no JSON: what is wrong, and where. -/
  | malformed (problem : Problem) (position : Nat)
  /-- An integer has more digits than the limit. -/
  | tooManyDigits (digits : Nat)
  /-- Arrays and objects are nested too deep; the one that was too much is an object or not. -/
  | tooDeep (isObject : Bool)
  deriving Repr, DecidableEq

/-- A place in a text: its position and the text from there on. -/
structure Cursor where
  position : Nat
  rest : Text
  deriving Repr

namespace Cursor

/-- The place `n` characters further on. -/
def advance (c : Cursor) (n : Nat) : Cursor := ⟨c.position + n, c.rest.drop n⟩

/-- The fault of a problem at this place. -/
def fail {α : Type} (c : Cursor) (problem : Problem) : Except Fault α :=
  .error (.malformed problem c.position)

/-- A blank of JSON. -/
def isBlank (c : CodePoint) : Bool := c == 0x20 || c == 0x09 || c == 0x0a || c == 0x0d

/-- The next place that holds no blank. -/
def skipBlanks (c : Cursor) : Cursor := c.advance (c.rest.takeWhile isBlank).length

end Cursor

/-! ## Strings -/

/-- The character of a one-letter escape. -/
def escapedChar? (c : CodePoint) : Option CodePoint :=
  if c = 0x22 ∨ c = 0x5c ∨ c = 0x2f then some c
  else if c = 0x62 then some 0x08
  else if c = 0x66 then some 0x0c
  else if c = 0x6e then some 0x0a
  else if c = 0x72 then some 0x0d
  else if c = 0x74 then some 0x09
  else none

/-- The number spelled by four hexadecimal digits. -/
def hex4? : Text → Option Nat
  | [a, b, c, d] => do
    let a ← a.hexValue?
    let b ← b.hexValue?
    let c ← c.hexValue?
    let d ← d.hexValue?
    return a * 4096 + b * 256 + c * 16 + d
  | _ => none

/-- The first half of a surrogate pair. -/
def isHighSurrogate (c : CodePoint) : Bool := 0xd800 ≤ c && c ≤ 0xdbff

/-- The second half of a surrogate pair. -/
def isLowSurrogate (c : CodePoint) : Bool := 0xdc00 ≤ c && c ≤ 0xdfff

/-- The character of a surrogate pair. -/
def joinSurrogates (high low : CodePoint) : CodePoint :=
  0x10000 + (high - 0xd800) * 0x400 + (low - 0xdc00)

/-- Reads a Unicode escape whose `u` stands at `position`, with `rest` after it: the character and
the number of characters read. Two escapes that form a surrogate pair are one character. Text must
follow the digits. -/
def readUnicodeEscape (position : Nat) (rest : Text) : Except Fault (CodePoint × Nat) :=
  if rest.length ≤ 4 then .error (.malformed .badUnicodeEscape position)
  else match hex4? (rest.take 4) with
    | none => .error (.malformed .badUnicodeEscape position)
    | some c =>
      let after := rest.drop 4
      if isHighSurrogate c && 6 < after.length && Text.startsWith after "\\u" then
        match hex4? ((after.drop 2).take 4) with
        | none => .error (.malformed .badUnicodeEscape (position + 6))
        | some d => .ok (if isLowSurrogate d then (joinSurrogates c d, 10) else (c, 4))
      else .ok (c, 4)

/-- Reads an escape whose backslash stands at `position`, with `rest` after it: the character and
the number of characters read. The string began at `start`. -/
def readEscape (start position : Nat) : Text → Except Fault (CodePoint × Nat)
  | [] => .error (.malformed .unterminatedString start)
  | c :: rest =>
    if c = 0x75 then (readUnicodeEscape (position + 1) rest).map fun r => (r.1, r.2 + 1)
    else match escapedChar? c with
      | some d => .ok (d, 1)
      | none => .error (.malformed .badEscape position)

/-- Reads the characters of a string up to its closing quote. `start` is the place of the opening
quote, `position` the place of the text, and `done` holds the characters read, last first. -/
def readChars (start position : Nat) (done : Text) : Text → Except Fault (Text × Cursor)
  | [] => .error (.malformed .unterminatedString start)
  | c :: rest =>
    if c = 0x22 then .ok (done.reverse, ⟨position + 1, rest⟩)
    else if c = 0x5c then
      match readEscape start position rest with
      | .error f => .error f
      | .ok (d, width) =>
        readChars start (position + 1 + width) (d :: done) (rest.drop width)
    else if c ≤ 0x1f then .error (.malformed .controlCharacter position)
    else readChars start (position + 1) (c :: done) rest
termination_by t => t.length
decreasing_by all_goals simp; try omega

/-! ## Numbers -/

/-- The digits in front of a text. -/
def leadingDigits (t : Text) : Text := t.takeWhile (·.isAsciiDigit)

/-- The exponent in front of a text: its value and its length. -/
def exponentPart? : Text → Option (Int × Nat)
  | [] => none
  | c :: rest =>
    if c = 0x65 ∨ c = 0x45 then
      let (negative, digits) := Numeral.takeSign rest
      let ds := leadingDigits digits
      if ds = [] then none
      else
        let n := Numeral.value 10 ds
        some (if negative then -(n : Int) else n, 1 + (rest.length - digits.length) + ds.length)
    else none

/-- The fraction in front of a text: a point and digits. -/
def fractionPart : Text → Text
  | 0x2e :: rest => leadingDigits rest
  | _ => []

/-- Reads a number without its sign: an integer without needless zeros, and a double if a fraction
or an exponent follows. Also gives the length. -/
def readMagnitude (negative : Bool) (t : Text) : Option (Except Fault (Json × Nat)) :=
  let whole := match t with
    | 0x30 :: _ => [0x30]
    | _ => leadingDigits t
  if whole = [] then none
  else
    let rest := t.drop whole.length
    let fraction := fractionPart rest
    let fractionLength := if fraction = [] then 0 else fraction.length + 1
    let rest := rest.drop fractionLength
    let exponent := exponentPart? rest
    let length := whole.length + fractionLength + (exponent.map (·.2)).getD 0
    if fraction = [] ∧ exponent = none then
      if digitLimit < whole.length then some (.error (.tooManyDigits whole.length))
      else
        let n := Numeral.value 10 whole
        some (.ok (.int (if negative then -(n : Int) else n), length))
    else
      let scale := (exponent.map (·.1)).getD 0 - fraction.length
      some (.ok (.float (.ofDecimal negative (Numeral.value 10 (whole ++ fraction)) scale), length))

/-- Reads a number. -/
def readNumber (c : Cursor) : Except Fault (Json × Cursor) :=
  let (negative, digits) := match c.rest with
    | 0x2d :: rest => (true, rest)
    | _ => (false, c.rest)
  match readMagnitude negative digits with
  | none => c.fail .expectingValue
  | some (.error f) => .error f
  | some (.ok (v, length)) => .ok (v, c.advance (length + if negative then 1 else 0))

/-! ## Values -/

/-- The words that stand for values. -/
def words : List (Text × Json) :=
  [("null", .null), ("true", .bool true), ("false", .bool false), ("NaN", .float .nan),
   ("Infinity", .float (.infinity false)), ("-Infinity", .float (.infinity true))]

/-- Reads a value that is a word or a number. -/
def readAtom (c : Cursor) : Except Fault (Json × Cursor) :=
  match words.find? fun w => Text.startsWith c.rest w.1 with
  | some (word, v) => .ok (v, c.advance word.length)
  | none => readNumber c

mutual

/-- Reads the value at a place, inside containers that leave `depth` more levels. -/
def readValue : (fuel depth : Nat) → Cursor → Except Fault (Json × Cursor)
  | 0, _, c => c.fail .expectingValue
  | fuel + 1, depth, c =>
    match c.rest with
    | 0x22 :: rest => do
      let (t, after) ← readChars c.position (c.position + 1) [] rest
      return (.text t, after)
    | 0x5b :: _ =>
      match depth with
      | 0 => .error (.tooDeep false)
      | depth + 1 =>
        let inside := (c.advance 1).skipBlanks
        if inside.rest.head? = some 0x5d then .ok (.array [], inside.advance 1)
        else readItems fuel depth [] inside
    | 0x7b :: _ =>
      match depth with
      | 0 => .error (.tooDeep true)
      | depth + 1 =>
        let inside := (c.advance 1).skipBlanks
        if inside.rest.head? = some 0x7d then .ok (.object [], inside.advance 1)
        else readMembers fuel depth [] inside
    | _ => readAtom c

/-- Reads the items of an array up to its closing bracket; `done` holds those read, last first. -/
def readItems : (fuel depth : Nat) → List Json → Cursor → Except Fault (Json × Cursor)
  | 0, _, _, c => c.fail .expectingValue
  | fuel + 1, depth, done, c => do
    let (v, after) ← readValue fuel depth c
    let after := after.skipBlanks
    match after.rest with
    | 0x5d :: _ => return (.array (v :: done).reverse, after.advance 1)
    | 0x2c :: _ => readItems fuel depth (v :: done) (after.advance 1).skipBlanks
    | _ => after.fail .expectingComma

/-- Reads the members of an object up to its closing brace; `done` holds those read, last first. -/
def readMembers : (fuel depth : Nat) → List (Text × Json) → Cursor → Except Fault (Json × Cursor)
  | 0, _, _, c => c.fail .expectingName
  | fuel + 1, depth, done, c =>
    match c.rest with
    | 0x22 :: rest => do
      let (name, after) ← readChars c.position (c.position + 1) [] rest
      let after := after.skipBlanks
      match after.rest with
      | 0x3a :: _ =>
        let (v, after) ← readValue fuel depth (after.advance 1).skipBlanks
        let after := after.skipBlanks
        match after.rest with
        | 0x7d :: _ => return (.object (ofMembers ((name, v) :: done).reverse), after.advance 1)
        | 0x2c :: _ => readMembers fuel depth ((name, v) :: done) (after.advance 1).skipBlanks
        | _ => after.fail .expectingComma
      | _ => after.fail .expectingColon
    | _ => c.fail .expectingName

end

/-- The value that a text spells, or the first fault. -/
def read (t : Text) : Except Fault Json :=
  if t.head? = some 0xfeff then .error (.malformed .byteOrderMark 0)
  else do
    let (v, after) ← readValue (2 * t.length + 2) depthLimit (Cursor.skipBlanks ⟨0, t⟩)
    let after := after.skipBlanks
    if after.rest = [] then return v else after.fail .extraData

/-! ## Messages -/

/-- What is wrong, in words. -/
def Problem.message : Problem → Text
  | .expectingValue => "Expecting value"
  | .expectingName => "Expecting property name enclosed in double quotes"
  | .expectingColon => "Expecting ':' delimiter"
  | .expectingComma => "Expecting ',' delimiter"
  | .extraData => "Extra data"
  | .unterminatedString => "Unterminated string starting at"
  | .controlCharacter => "Invalid control character at"
  | .badEscape => "Invalid \\escape"
  | .badUnicodeEscape => "Invalid \\uXXXX escape"
  | .byteOrderMark => "Unexpected UTF-8 BOM (decode using utf-8-sig)"

/-- The line and the column of a position, both counted from one. -/
def lineColumn (t : Text) (position : Nat) : Nat × Nat :=
  let before := t.take position
  (before.count 0x0a + 1, (before.reverse.takeWhile (· != 0x0a)).length + 1)

/-- The message of a fault of the text `t`. -/
def Fault.message (t : Text) : Fault → Text
  | .malformed problem position =>
    let (line, column) := lineColumn t position
    problem.message ++ ": line " ++ Text.ofNat line ++ " column " ++ Text.ofNat column ++ " (char "
      ++ Text.ofNat position ++ ")"
  | .tooManyDigits digits => (NumeralFault.tooLong digits).message
  | .tooDeep isObject =>
    "maximum recursion depth exceeded while decoding a JSON "
      ++ Text.ofString (if isObject then "object" else "array") ++ " from a unicode string"

end NotebookAudit.Json

import NotebookAudit.Text.Utf8
import NotebookAudit.Yaml.Place

/-!
The tokens of a YAML text.
-/

namespace NotebookAudit.Yaml

/-- What a directive says. -/
inductive Directive where
  | version (major minor : Int)
  | tag (handle start : Text)
  | unknown
  deriving Repr, DecidableEq

/-- A token. -/
inductive Token where
  | directive (d : Directive)
  | documentStart
  | documentEnd
  | streamEnd
  | blockSequence
  | blockMapping
  | blockEnd
  | flowSequence
  | flowSequenceEnd
  | flowMapping
  | flowMappingEnd
  | entry
  | flowEntry
  | key
  | value
  | alias (name : Text)
  | anchor (name : Text)
  | tag (handle : Option Text) (suffix : Text)
  | scalar (isPlain : Bool) (text : Text)
  deriving Repr, DecidableEq

/-! ## Names, tags and directives -/

/-- Reads the name of an anchor or an alias. -/
def scanName (p : Place) : Except Error (Text × Place) :=
  let (name, after) := p.takeWhile isNameChar
  let ends := match after.peek with
    | none => true
    | some c => isSpace c || isBreak c || isOneOf "?:,]\x7d%@\x60" c
  if name = [] ∨ !ends then .error .malformed else .ok (name, after)

/-- A character of a tag. -/
def isTagChar (c : CodePoint) : Bool := isNameChar c || isOneOf ";/?:@&=+$,.!~*'()[]" c

/-- Reads the bytes of percent signs with two hexadecimal digits each. -/
def scanEscapedBytes : (fuel : Nat) → Place → Except Error (Bytes × Place)
  | 0, p => .ok ([], p)
  | fuel + 1, p =>
    match p.rest with
    | 0x25 :: a :: b :: _ =>
      match a.hexValue?, b.hexValue? with
      | some x, some y => do
        let (bytes, after) ← scanEscapedBytes fuel (p.skip 3)
        return ((x * 16 + y).toUInt8 :: bytes, after)
      | _, _ => .error .malformed
    | 0x25 :: _ => .error .malformed
    | _ => .ok ([], p)

/-- Reads the characters of a tag, some of them as escaped bytes. -/
def scanTagChars : (fuel : Nat) → Place → Except Error (Text × Place)
  | 0, p => .ok ([], p)
  | fuel + 1, p => do
    let (plain, after) := p.takeWhile isTagChar
    if after.is '%' then
      let (bytes, after) ← scanEscapedBytes after.rest.length after
      match Utf8.decode bytes with
      | .error _ => throw .malformed
      | .ok t =>
        let (more, after) ← scanTagChars fuel after
        return (plain ++ t ++ more, after)
    else return (plain, after)

/-- Reads a tag without its handle. It is not empty. -/
def scanTagSuffix (p : Place) : Except Error (Text × Place) := do
  let (t, after) ← scanTagChars (p.rest.length + 1) p
  if after.index = p.index then throw .malformed
  return (t, after)

/-- Reads the handle of a tag: an exclamation mark alone, or a name between two. -/
def scanTagHandle (p : Place) : Except Error (Text × Place) :=
  if !p.is '!' then .error .malformed
  else if p.peekAt 1 = some 0x20 then .ok ([0x21], p.next)
  else
    let (name, after) := p.next.takeWhile isNameChar
    if after.is '!' then .ok (0x21 :: name ++ [0x21], after.next) else .error .malformed

/-- Reads a tag. -/
def scanTag (p : Place) : Except Error (Token × Place) := do
  let (token, after) ←
    if p.peekAt 1 = some 0x3c then do
      let (suffix, after) ← scanTagSuffix (p.skip 2)
      if !after.is '>' then throw .malformed
      pure (Token.tag none suffix, after.next)
    else if endsWord (p.peekAt 1) then pure (Token.tag none [0x21], p.next)
    else do
      let word := p.next.rest.takeWhile fun c => !(c == 0x20 || isBreak c)
      let (handle, after) ← if word.contains 0x21 then scanTagHandle p else pure ([0x21], p.next)
      let (suffix, after) ← scanTagSuffix after
      pure (Token.tag (some handle) suffix, after)
  if endsTag after.peek then return (token, after) else throw .malformed

/-- Reads a number of a version. -/
def scanVersionNumber (p : Place) : Except Error (Int × Place) :=
  let (digits, after) := p.takeWhile (·.isAsciiDigit)
  if digits = [] then .error .malformed
  else match Numeral.readInt 10 digits with
    | .ok n => .ok (n, after)
    | .error fault => .error (.value (.numeral fault))

/-- Reads what a directive of a given name says. -/
def scanDirectiveValue (name : Text) (p : Place) : Except Error (Directive × Place) := do
  if name = Text.ofString "YAML" then
    let (major, after) ← scanVersionNumber p.skipSpaces
    if !after.is '.' then throw .malformed
    let (minor, after) ← scanVersionNumber after.next
    if !endsTag after.peek then throw .malformed
    return (.version major minor, after)
  else if name = Text.ofString "TAG" then
    let (handle, after) ← scanTagHandle p.skipSpaces
    if !after.is ' ' then throw .malformed
    let (start, after) ← scanTagSuffix after.skipSpaces
    if !endsTag after.peek then throw .malformed
    return (.tag handle start, after)
  else return (.unknown, (p.takeWhile fun c => !isBreak c).2)

/-- Reads a directive and the rest of its line. -/
def scanDirective (p : Place) : Except Error (Token × Place) := do
  let (name, after) := p.next.takeWhile isNameChar
  if name = [] ∨ !endsTag after.peek then throw .malformed
  let (d, after) ← scanDirectiveValue name after
  return (.directive d, ← after.endLine)

end NotebookAudit.Yaml

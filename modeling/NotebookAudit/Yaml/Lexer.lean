import NotebookAudit.Yaml.Scalar

/-!
Scanning YAML.

`Yaml.scan` cuts a text into tokens. A block begins and ends with the indentation of its lines. A
key of one line is recognised only when its colon is reached; until then the place where it would
begin is kept, and the token that announces the key is put there afterwards.
-/

namespace NotebookAudit.Yaml

/-- A place where a key may have begun. -/
structure PossibleKey where
  /-- The number of tokens before it. -/
  token : Nat
  /-- Whether nothing but a key may stand there. -/
  required : Bool
  index : Nat
  line : Nat
  column : Nat

/-- The state of the lexer. -/
structure Lexer where
  place : Place
  /-- The number of brackets that are open. -/
  flowLevel : Int := 0
  /-- The column of the innermost block, or -1. -/
  indent : Int := -1
  /-- The columns of the blocks around it. -/
  outer : List Int := []
  /-- Whether a key may begin at the next token. -/
  allowKey : Bool := true
  /-- The possible keys, one for each level of brackets at most. -/
  keys : List (Int × PossibleKey) := []
  tokens : Array Token := #[]
  finished : Bool := false

namespace Lexer

/-- Whether the lexer stands inside brackets. -/
def inFlow (s : Lexer) : Bool := s.flowLevel != 0

/-- Adds a token. -/
def push (s : Lexer) (t : Token) : Lexer := { s with tokens := s.tokens.push t }

/-- Adds a token and moves on by `n` characters. -/
def pushSkip (s : Lexer) (t : Token) (n : Nat) : Lexer :=
  { s.push t with place := s.place.skip n }

/-- Adds a token that has been read. -/
def pushScanned (s : Lexer) (r : Token × Place) : Lexer := { s.push r.1 with place := r.2 }

/-- Sets whether a key may begin at the next token. -/
def allowing (s : Lexer) (b : Bool) : Lexer := { s with allowKey := b }

/-- Drops the possible key of the present level. -/
def dropKey (s : Lexer) : Except Error Lexer :=
  match s.keys.lookup s.flowLevel with
  | none => .ok s
  | some k =>
    if k.required then .error .malformed
    else .ok { s with keys := s.keys.filter (·.1 != s.flowLevel) }

/-- Keeps the present place as that of a possible key. -/
def saveKey (s : Lexer) : Except Error Lexer := do
  if !s.allowKey then return s
  let required := !s.inFlow && s.indent == (s.place.column : Int)
  let s ← s.dropKey
  let k : PossibleKey := ⟨s.tokens.size, required, s.place.index, s.place.line, s.place.column⟩
  return { s with keys := (s.flowLevel, k) :: s.keys }

/-- How far from its start a key may reach. -/
def keyReach : Nat := 1024

/-- Whether the lexer has left a possible key behind. -/
def isStale (s : Lexer) (k : PossibleKey) : Bool :=
  k.line != s.place.line || keyReach < s.place.index - k.index

/-- Drops the possible keys that the lexer has left behind. -/
def dropStaleKeys (s : Lexer) : Except Error Lexer :=
  if s.keys.any fun k => s.isStale k.2 && k.2.required then .error .malformed
  else .ok { s with keys := s.keys.filter fun k => !s.isStale k.2 }

/-- The tokens in front of every possible key: no token will be put among them. -/
def settled (s : Lexer) : List Token :=
  let keys := s.keys.filter fun k => !s.isStale k.2
  s.tokens.toList.take ((keys.map (·.2.token)).foldl min s.tokens.size)

/-- Ends the blocks that are indented further than a column. -/
def endBlocks (column : Int) : (fuel : Nat) → Lexer → Lexer
  | 0, s => s
  | fuel + 1, s =>
    if s.inFlow ∨ s.indent ≤ column then s
    else match s.outer with
      | [] => s
      | i :: rest => endBlocks column fuel { s.push .blockEnd with indent := i, outer := rest }

/-- Ends the blocks that are indented further than a column. -/
def unwind (s : Lexer) (column : Int) : Lexer := endBlocks column (s.outer.length + 1) s

/-- Begins a block at a column, if none is indented as far: its token goes to a given place. -/
def beginBlock (s : Lexer) (column : Nat) (t : Token) (index : Nat) : Lexer :=
  if s.indent < column then
    { s with
      outer := s.indent :: s.outer
      indent := column
      tokens := s.tokens.insertIdxIfInBounds index t }
  else s

/-- The lexer at the next place past spaces and comments. A key may begin in a new line. -/
def skipToToken : (fuel : Nat) → Lexer → Lexer
  | 0, s => s
  | fuel + 1, s =>
    let p := s.place.skipSpaces.skipComment
    match p.takeBreak? with
    | some (_, after) =>
      skipToToken fuel { s with place := after, allowKey := s.allowKey || !s.inFlow }
    | none => { s with place := p }

/-! ## The tokens -/

/-- The end of the text. -/
def endStream (s : Lexer) : Except Error Lexer := do
  let s ← (s.unwind (-1)).dropKey
  return { s.push .streamEnd with allowKey := false, keys := [], finished := true }

/-- A directive. -/
def directive (s : Lexer) : Except Error Lexer := do
  let s ← (s.unwind (-1)).dropKey
  return (s.allowing false).pushScanned (← scanDirective s.place)

/-- The start or the end of a document. -/
def separator (s : Lexer) (t : Token) : Except Error Lexer := do
  let s ← (s.unwind (-1)).dropKey
  return (s.allowing false).pushSkip t 3

/-- An opening bracket. -/
def openBracket (s : Lexer) (t : Token) : Except Error Lexer := do
  let s ← s.saveKey
  return { (s.allowing true).pushSkip t 1 with flowLevel := s.flowLevel + 1 }

/-- A closing bracket. -/
def closeBracket (s : Lexer) (t : Token) : Except Error Lexer := do
  let s ← s.dropKey
  return { (s.allowing false).pushSkip t 1 with flowLevel := s.flowLevel - 1 }

/-- A comma inside brackets. -/
def flowEntry (s : Lexer) : Except Error Lexer := do
  let s ← (s.allowing true).dropKey
  return s.pushSkip .flowEntry 1

/-- The hyphen of an entry of a sequence. -/
def blockEntry (s : Lexer) : Except Error Lexer := do
  if !s.inFlow && !s.allowKey then throw .malformed
  let s := if s.inFlow then s else s.beginBlock s.place.column .blockSequence s.tokens.size
  let s ← (s.allowing true).dropKey
  return s.pushSkip .entry 1

/-- The question mark of a key. -/
def explicitKey (s : Lexer) : Except Error Lexer := do
  if !s.inFlow && !s.allowKey then throw .malformed
  let s := if s.inFlow then s else s.beginBlock s.place.column .blockMapping s.tokens.size
  let s ← (s.allowing (!s.inFlow)).dropKey
  return s.pushSkip .key 1

/-- The colon of a value. If a key is possible, it has come to its end, and is announced at its
beginning. -/
def value (s : Lexer) : Except Error Lexer := do
  match s.keys.lookup s.flowLevel with
  | some k =>
    let s := { s with
      keys := s.keys.filter (·.1 != s.flowLevel)
      tokens := s.tokens.insertIdxIfInBounds k.token .key }
    let s := if s.inFlow then s else s.beginBlock k.column .blockMapping k.token
    return (s.allowing false).pushSkip .value 1
  | none =>
    if !s.inFlow && !s.allowKey then throw .malformed
    let s := if s.inFlow then s else s.beginBlock s.place.column .blockMapping s.tokens.size
    let s ← (s.allowing (!s.inFlow)).dropKey
    return s.pushSkip .value 1

/-- A token that may begin a key. -/
def keyed (s : Lexer) (scan : Place → Except Error (Token × Place)) : Except Error Lexer := do
  let s ← s.saveKey
  return (s.allowing false).pushScanned (← scan s.place)

/-- A block scalar. -/
def blockScalar (s : Lexer) (folded : Bool) : Except Error Lexer := do
  let s ← (s.allowing true).dropKey
  return s.pushScanned (← scanBlockScalar folded s.indent s.place)

/-- A plain scalar. -/
def plain (s : Lexer) : Except Error Lexer := do
  let s ← s.saveKey
  let (t, lineEnded, after) := scanPlain s.inFlow s.indent s.place
  return (s.allowing lineEnded).pushScanned (t, after)

/-- Whether a plain scalar begins in front of a text. -/
def startsPlain (inFlow : Bool) : Text → Bool
  | [] => false
  | c :: rest =>
    !(isSpace c || isBreak c || isOneOf "-?:,[]\x7b\x7d#&*!|>'\"%@\x60" c)
      || (!endsWord rest.head? && (c == 0x2d || (!inFlow && (c == 0x3f || c == 0x3a))))

/-- Scans the next token. -/
def step (s : Lexer) : Except Error Lexer := do
  let isMark := s.place.index = 0 ∧ s.place.peek = some 0xfeff
  let s := if isMark then { s with place := s.place.next } else s
  let s ← (skipToToken (s.place.rest.length + 1) s).dropStaleKeys
  let s := s.unwind s.place.column
  let p := s.place
  let atLineStart := p.column == 0
  let indicates := s.inFlow || endsWord (p.peekAt 1)
  match p.peek with
  | none => s.endStream
  | some c =>
    if atLineStart && p.is '%' then s.directive
    else if atLineStart && p.atMarker '-' then s.separator .documentStart
    else if atLineStart && p.atMarker '.' then s.separator .documentEnd
    else if p.is '[' then s.openBracket .flowSequence
    else if p.is '\x7b' then s.openBracket .flowMapping
    else if p.is ']' then s.closeBracket .flowSequenceEnd
    else if p.is '\x7d' then s.closeBracket .flowMappingEnd
    else if p.is ',' then s.flowEntry
    else if p.is '-' && endsWord (p.peekAt 1) then s.blockEntry
    else if p.is '?' && indicates then s.explicitKey
    else if p.is ':' && indicates then s.value
    else if p.is '*' then s.keyed fun p => (scanName p.next).map fun r => (.alias r.1, r.2)
    else if p.is '&' then s.keyed fun p => (scanName p.next).map fun r => (.anchor r.1, r.2)
    else if p.is '!' then s.keyed scanTag
    else if p.is '|' && !s.inFlow then s.blockScalar false
    else if p.is '>' && !s.inFlow then s.blockScalar true
    else if c = 0x27 ∨ c = 0x22 then
      s.keyed fun p => scanQuoted (c == 0x22) (p.rest.length + 1) [] p.next
    else if startsPlain s.inFlow p.rest then s.plain
    else throw .malformed

/-- Scans the tokens that are left: those that are settled before the first fault, and the fault. -/
def run : (fuel : Nat) → Lexer → List Token × Option Error
  | 0, s => (s.tokens.toList, some .malformed)
  | fuel + 1, s =>
    if s.finished then (s.tokens.toList, none)
    else match s.step with
      | .ok next => run fuel next
      | .error e => (s.settled, some e)

end Lexer

/-- The tokens of a text, as far as they can be read, and the fault that ends them, if there is
one. -/
def scan (t : Text) : List Token × Option Error :=
  if t.all isPrintable then Lexer.run (t.length + 2) { place := ⟨t, 0, 0, 0⟩ }
  else ([], some .malformed)

end NotebookAudit.Yaml

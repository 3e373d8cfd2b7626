import NotebookAudit.Pattern.Reading
import NotebookAudit.Text.CharacterName

/-!
Reading escapes and sets.

A backslash begins a character, a class of characters, an anchor or the text of a group, as the
character after it says; letters without a meaning are refused.
-/

namespace NotebookAudit.Pattern

/-! ## Escapes -/

/-- What an escape stands for in a set. -/
inductive SetPart where
  | literal (c : CodePoint)
  | ofClass (k : CharClass) (negated : Bool)

/-- The item of a set that a part stands for. -/
def SetPart.item : SetPart → SetItem
  | .literal c => .literal c
  | .ofClass k negated => .ofClass k negated

/-- The control character of an escape letter. -/
def controlEscape? (c : CodePoint) : Option CodePoint :=
  ((Text.ofString "abfnrtv").zip [7, 8, 12, 10, 13, 9, 11]).lookup c

/-- The class of an escape letter. -/
def classEscape? (c : CodePoint) : Option (CharClass × Bool) :=
  if c = 0x64 then some (.digit, false)
  else if c = 0x44 then some (.digit, true)
  else if c = 0x73 then some (.blank, false)
  else if c = 0x53 then some (.blank, true)
  else if c = 0x77 then some (.word, false)
  else if c = 0x57 then some (.word, true)
  else none

/-- The anchor of an escape letter. -/
def anchorEscape? (c : CodePoint) : Option Anchor :=
  if c = 0x41 then some .textStart
  else if c = 0x5a then some .textEnd
  else if c = 0x62 then some (.boundary false)
  else if c = 0x42 then some (.boundary true)
  else none

/-- Stops at an escape that means nothing. -/
def badEscape {α : Type} (escape : Text) : ReadM α := fail (.badEscape escape) escape.length

/-- Reads an escape of exactly `n` hexadecimal digits. -/
def readHexEscape (escape : Text) (n : Nat) : ReadM CodePoint := do
  let digits ← takeWhile Token.isHex n
  let escape := escape ++ digits
  if digits.length ≠ n then fail (.incompleteEscape escape) escape.length
  let value := Numeral.value 16 digits
  if value < 0x110000 then return value
  else if value < 0x80000000 then badEscape escape
  else refuse .codePointTooGreat

/-- Reads the name of a character in braces. -/
def readNamedEscape : ReadM CodePoint := do
  if !(← accept '\x7b') then fail .noBrace 0
  let name ← takeName '\x7d' "character name"
  match CodePoint.ofName? name with
  | some c => return c
  | none => fail (.unknownCharacterName name) (name.length + 4)

/-- The value of an octal escape with its backslash. -/
def octalValue (escape : Text) : ReadM CodePoint := do
  let value := Numeral.value 8 escape.tail
  if 0xff < value then fail (.octalTooGreat escape) escape.length
  return value

/-- Reads an escape that stands for a character inside and outside sets, if its letter says so. -/
def readCharEscape? (t : Token) : ReadM (Option CodePoint) := do
  if t.char = 0x78 then return some (← readHexEscape t.text 2)
  else if t.char = 0x75 then return some (← readHexEscape t.text 4)
  else if t.char = 0x55 then return some (← readHexEscape t.text 8)
  else if t.char = 0x4e then return some (← readNamedEscape)
  else return none

/-- Reads an escape that is neither a letter nor a digit with a meaning. -/
def readOtherEscape (t : Token) : ReadM CodePoint :=
  if t.char.isAsciiLetter then badEscape t.text else return t.char

/-- Reads an escape inside a set. -/
def readSetEscape (t : Token) : ReadM SetPart := do
  if let some c := controlEscape? t.char then return .literal c
  if let some (k, negated) := classEscape? t.char then return .ofClass k negated
  if let some c ← readCharEscape? t then return .literal c
  if 0x30 ≤ t.char ∧ t.char ≤ 0x37 then
    return .literal (← octalValue (t.text ++ (← takeWhile Token.isOctal 2)))
  if t.char.isAsciiDigit then badEscape t.text
  return .literal (← readOtherEscape t)

/-- Reads a reference to a group by number. -/
def readNumberedBackref (escape : Text) : ReadM Leaf := do
  let group := Numeral.value 10 escape.tail
  if group ≤ (← get).groups then
    checkClosed group escape.length
    backrefTo group
  else fail (.unknownGroup group) (escape.length - 1)

/-- Reads an escape of a digit from 1 to 9: a reference to a group, or a character if three octal
digits stand there. -/
def readDigitEscape (t : Token) : ReadM Leaf := do
  match ← peek with
  | some second =>
    if second.isDigit then
      let _ ← take?
      let escape := t.text ++ second.text
      let third ← peek
      if t.char ≤ 0x37 && second.isOctal && (third.map Token.isOctal).getD false then
        let last ← takeWhile Token.isOctal 1
        return .literal (← octalValue (escape ++ last))
      else readNumberedBackref escape
    else readNumberedBackref t.text
  | none => readNumberedBackref t.text

/-- Reads an escape outside sets. -/
def readEscape (t : Token) : ReadM Leaf := do
  if let some (k, negated) := classEscape? t.char then return .set false [.ofClass k negated]
  if let some a := anchorEscape? t.char then return .anchor a
  if let some c := controlEscape? t.char then return .literal c
  if let some c ← readCharEscape? t then return .literal c
  if t.char = 0x30 then
    return .literal (Numeral.value 8 (0x30 :: (← takeWhile Token.isOctal 2)))
  if t.char.isAsciiDigit then readDigitEscape t
  else return .literal (← readOtherEscape t)

/-! ## Sets -/

/-- Reads a token of a set. -/
def readSetPart (t : Token) : ReadM SetPart :=
  if t.escaped then readSetEscape t else return .literal t.char

/-- Reads the items of a set up to its closing bracket. The set began at `start`, and `done` holds
the items read, last first. -/
def readSetItems (start : Nat) (done : List SetItem) : (fuel : Nat) → ReadM (List SetItem)
  | 0 => return done.reverse
  | fuel + 1 => do
    match ← take? with
    | none => refuse (.at .setNotEnded start)
    | some this =>
      if this.is ']' && !done.isEmpty then return done.reverse
      let low ← readSetPart this
      if ← accept '-' then
        match ← take? with
        | none => refuse (.at .setNotEnded start)
        | some that =>
          if that.is ']' then return (.literal 0x2d :: low.item :: done).reverse
          let high ← readSetPart that
          let bad := fail (.badRange this.text that.text) (this.text.length + 1 + that.text.length)
          match low, high with
          | .literal lo, .literal hi =>
            if hi < lo then bad else readSetItems start (.range lo hi :: done) fuel
          | _, _ => bad
      else readSetItems start (low.item :: done) fuel

/-- Reads a set whose opening bracket stands at `start`. A set of one character is it. -/
def readSet (start : Nat) : ReadM Leaf := do
  let negated ← accept '^'
  let items := (← readSetItems start [] ((← remaining) + 1)).eraseDups
  match items with
  | [.literal c] => return if negated then .notLiteral c else .literal c
  | _ => return .set negated items

end NotebookAudit.Pattern

import NotebookAudit.Yaml.Token

/-!
The scalars of a YAML text: block scalars, quoted scalars and plain ones.
-/

namespace NotebookAudit.Yaml

/-! ## Block scalars -/

/-- What becomes of the line breaks at the end of a block scalar. -/
inductive Chomping where
  /-- One of them is kept. -/
  | clip
  /-- None is kept. -/
  | strip
  /-- All are kept. -/
  | keep
  deriving Repr, DecidableEq

/-- The chomping of an indicator. -/
def chompingOf? : Option CodePoint → Option Chomping
  | some 0x2b => some .keep
  | some 0x2d => some .strip
  | _ => none

/-- The indentation of an indicator, which is not zero. -/
def incrementOf? (c : Option CodePoint) : Except Error (Option Nat) :=
  match c with
  | some c =>
    if c = 0x30 then .error .malformed
    else if c.isAsciiDigit then .ok (some (c - 0x30))
    else .ok none
  | none => .ok none

/-- Reads the indicators of a block scalar: chomping and indentation, in either order. -/
def scanIndicators (p : Place) : Except Error ((Chomping × Option Nat) × Place) := do
  let (chomping, increment, after) ← match chompingOf? p.peek with
    | some chomping => do
      let increment ← incrementOf? p.next.peek
      pure (chomping, increment, if increment.isSome then p.skip 2 else p.next)
    | none => do
      match ← incrementOf? p.peek with
      | none => pure (Chomping.clip, none, p)
      | some n => pure (match chompingOf? p.next.peek with
        | some chomping => (chomping, some n, p.skip 2)
        | none => (Chomping.clip, some n, p.next))
  if endsTag after.peek then return ((chomping, increment), after) else throw .malformed

/-- Takes empty lines, spaces included: their breaks, the greatest column reached, and the place
after them. -/
def takeEmptyLines (greatest : Nat) : (fuel : Nat) → Place → List Text × Nat × Place
  | 0, p => ([], greatest, p)
  | fuel + 1, p =>
    if p.is ' ' then takeEmptyLines (max greatest (p.column + 1)) fuel p.next
    else match p.takeBreak? with
      | some (b, after) =>
        let (breaks, greatest, after) := takeEmptyLines greatest fuel after
        (b :: breaks, greatest, after)
      | none => ([], greatest, p)

/-- The place after spaces up to a column. -/
def skipIndent (indent : Nat) (p : Place) : Place :=
  p.skip (min (indent - p.column) (p.rest.takeWhile (· == 0x20)).length)

/-- Takes empty lines of a block scalar that is indented to a column: their breaks, and the place
after the indentation of the next line. -/
def takeBreaks (indent : Nat) : (fuel : Nat) → Place → List Text × Place
  | 0, p => ([], p)
  | fuel + 1, p =>
    let p := skipIndent indent p
    match p.takeBreak? with
    | some (b, after) =>
      let (breaks, after) := takeBreaks indent fuel after
      (b :: breaks, after)
    | none => ([], p)

/-- Whether the next character is a space or a tab. -/
def startsWithSpace (p : Place) : Bool := (p.peek.map isSpace).getD false

/-- Reads the lines of a block scalar from a place in front of a line. `breaks` are the empty lines
before it. Gives the text, the last line break and the empty lines after it. -/
def scanBlockLines (folded : Bool) (indent : Nat) : (fuel : Nat) → (breaks : List Text) → Place →
    Text × Text × List Text × Place
  | 0, breaks, p => ([], [], breaks, p)
  | fuel + 1, breaks, p =>
    if p.column ≠ indent ∨ p.rest = [] then ([], [], breaks, p)
    else
      let starts := !startsWithSpace p
      let (line, after) := p.takeWhile fun c => !isBreak c
      let (lineBreak, after) := after.takeBreak?.getD ([], after)
      let (more, after) := takeBreaks indent (after.rest.length + 1) after
      let text := breaks.flatten ++ line
      if after.column = indent ∧ after.rest ≠ [] then
        let joined : Text :=
          if folded ∧ lineBreak = [0x0a] ∧ starts ∧ !startsWithSpace after then
            if more = [] then [0x20] else []
          else lineBreak
        let (rest, last, trailing, after) := scanBlockLines folded indent fuel more after
        (text ++ joined ++ rest, last, trailing, after)
      else (text, lineBreak, more, after)

/-- Reads a block scalar inside a block that is indented to `outer`. -/
def scanBlockScalar (folded : Bool) (outer : Int) (p : Place) : Except Error (Token × Place) := do
  let ((chomping, increment), after) ← scanIndicators p.next
  let start ← after.endLine
  let least := max 1 (outer + 1).toNat
  let fuel := start.rest.length + 1
  let (indent, breaks, start) := match increment with
    | none =>
      let (breaks, greatest, after) := takeEmptyLines 0 fuel start
      (max least greatest, breaks, after)
    | some n =>
      let (breaks, after) := takeBreaks (least + n - 1) fuel start
      (least + n - 1, breaks, after)
  let (text, lineBreak, trailing, after) := scanBlockLines folded indent fuel breaks start
  let text := match chomping with
    | .strip => text
    | .clip => text ++ lineBreak
    | .keep => text ++ lineBreak ++ trailing.flatten
  return (.scalar false text, after)

/-! ## Quoted scalars -/

/-- The character of a one-letter escape. -/
def escapedChar? (c : CodePoint) : Option CodePoint :=
  ((Text.ofString "0abt\tnvfre \"\\/N_LP").zip
    [0x00, 0x07, 0x08, 0x09, 0x09, 0x0a, 0x0b, 0x0c, 0x0d, 0x1b, 0x20, 0x22, 0x5c, 0x2f, 0x85, 0xa0,
      0x2028, 0x2029]).lookup c

/-- The number of hexadecimal digits of an escape. -/
def escapeWidth? (c : CodePoint) : Option Nat :=
  if c = 0x78 then some 2 else if c = 0x75 then some 4 else if c = 0x55 then some 8 else none

/-- The character of hexadecimal digits. -/
def charOfDigits (digits : Text) : Except Error CodePoint :=
  let value := Numeral.value 16 digits
  if value < 0x110000 then .ok value
  else .error (.value (if value < 0x80000000 then .codePoint else .codePointTooGreat))

/-- Takes line breaks and the spaces in front of each line, up to the next text. A document must not
end or start there. -/
def takeFoldedBreaks : (fuel : Nat) → Place → Except Error ((List Text) × Place)
  | 0, _ => .error .malformed
  | fuel + 1, p => do
    if p.atSeparator then throw .malformed
    let p := (p.takeWhile isSpace).2
    match p.takeBreak? with
    | some (b, after) =>
      let (breaks, after) ← takeFoldedBreaks fuel after
      return (b :: breaks, after)
    | none => return ([], p)

/-- The text that stands for a line break and the empty lines after it. -/
def foldBreaks (first : Text) (breaks : List Text) : Text :=
  (if first ≠ [0x0a] then first else if breaks = [] then [0x20] else []) ++ breaks.flatten

/-- Reads an escape after its backslash. -/
def scanEscape (p : Place) : Except Error (Text × Place) := do
  match p.peek with
  | none => throw .malformed
  | some c =>
    if let some d := escapedChar? c then return ([d], p.next)
    if let some width := escapeWidth? c then
      let digits := p.next.rest.take width
      if digits.length = width ∧ digits.all (·.isHex) then
        return ([← charOfDigits digits], p.skip (width + 1))
      throw .malformed
    match p.takeBreak? with
    | some (_, after) =>
      let (breaks, after) ← takeFoldedBreaks (after.rest.length + 1) after
      return (breaks.flatten, after)
    | none => throw .malformed

/-- Reads a quoted scalar after its opening quote. `done` holds the text read, last first. -/
def scanQuoted (double : Bool) : (fuel : Nat) → (done : Text) → Place → Except Error (Token × Place)
  | 0, _, _ => .error .malformed
  | fuel + 1, done, p => do
    match p.rest with
    | [] => throw .malformed
    | c :: rest =>
      if isSpace c ∨ isBreak c then
        let (spaces, after) := p.takeWhile isSpace
        match after.takeBreak? with
        | some (first, after) =>
          let (breaks, after) ← takeFoldedBreaks (after.rest.length + 1) after
          scanQuoted double fuel ((foldBreaks first breaks).reverse ++ done) after
        | none => scanQuoted double fuel (spaces.reverse ++ done) after
      else if double ∧ c = 0x22 then return (.scalar false done.reverse, p.next)
      else if double ∧ c = 0x5c then
        let (t, after) ← scanEscape p.next
        scanQuoted double fuel (t.reverse ++ done) after
      else if !double ∧ c = 0x27 then
        if rest.head? = some 0x27 then scanQuoted double fuel (0x27 :: done) (p.skip 2)
        else return (.scalar false done.reverse, p.next)
      else scanQuoted double fuel (c :: done) p.next

/-! ## Plain scalars -/

/-- Whether a plain scalar ends in front of a text. A colon ends it in front of a blank, and inside
brackets in front of a bracket or a comma as well. -/
def endsPlain (inFlow : Bool) : Text → Bool
  | [] => true
  | c :: rest =>
    isSpace c || isBreak c
      || (c == 0x3a && (endsWord rest.head?
        || (inFlow && (rest.head?.map (isOneOf ",[]\x7b\x7d")).getD false)))
      || (inFlow && isOneOf ",?[]\x7b\x7d" c)

/-- The number of characters up to the next place where a plain scalar may end. -/
def plainLength (inFlow : Bool) : Text → Nat
  | [] => 0
  | c :: rest => if endsPlain inFlow (c :: rest) then 0 else plainLength inFlow rest + 1

/-- Takes the line breaks inside a plain scalar and the spaces after them, up to the next text.
Gives nothing if a document ends or starts there. -/
def takePlainBreaks : (fuel : Nat) → Place → Option (List Text) × Place
  | 0, p => (none, p)
  | fuel + 1, p =>
    if p.is ' ' then takePlainBreaks fuel p.next
    else match p.takeBreak? with
      | some (b, after) =>
        if after.atSeparator then (none, after)
        else
          let (breaks, after) := takePlainBreaks fuel after
          (breaks.map (b :: ·), after)
      | none => (some [], p)

/-- Takes the space between two words of a plain scalar: the text that it stands for, if the scalar
may go on, and whether a line has ended. -/
def takePlainSpace (p : Place) : Option Text × Bool × Place :=
  let (spaces, after) := p.takeWhile (· == 0x20)
  match after.takeBreak? with
  | some (first, after) =>
    if after.atSeparator then (none, true, after)
    else
      let (breaks, after) := takePlainBreaks (after.rest.length + 1) after
      (breaks.map (foldBreaks first), true, after)
  | none => (if spaces = [] then none else some spaces, false, after)

/-- Reads the words of a plain scalar that is indented to `indent`. Gives the text, the place after
it and the space that follows, and whether a line has ended there. -/
def scanPlainWords (inFlow : Bool) (indent : Int) : (fuel : Nat) → (space : Text) →
    (lineEnded : Bool) → Place → Text × Bool × Place
  | 0, _, lineEnded, p => ([], lineEnded, p)
  | fuel + 1, space, lineEnded, p =>
    let length := if p.is '#' then 0 else plainLength inFlow p.rest
    if length = 0 then ([], lineEnded, p)
    else
      let word := p.rest.take length
      match takePlainSpace (p.skip length) with
      | (none, ended, after) => (space ++ word, ended, after)
      | (some next, ended, after) =>
        if after.is '#' ∨ (!inFlow ∧ (after.column : Int) < indent) then
          (space ++ word, ended, after)
        else
          let (rest, ended, after) := scanPlainWords inFlow indent fuel next ended after
          (space ++ word ++ rest, ended, after)

/-- Reads a plain scalar. Also tells whether a line has ended after it. -/
def scanPlain (inFlow : Bool) (outer : Int) (p : Place) : Token × Bool × Place :=
  let (t, ended, after) := scanPlainWords inFlow (outer + 1) (p.rest.length + 1) [] false p
  (.scalar true t, ended, after)

end NotebookAudit.Yaml

import NotebookAudit.Pattern.Reading

/-!
Reading numbers of rounds, switches, and what an opening parenthesis begins.
-/

namespace NotebookAudit.Pattern

/-! ## Numbers of rounds -/

/-- The bound on numbers of rounds. -/
def roundLimit : Nat := 4294967295

/-- The number of rounds that digits spell. -/
def readRoundCount (digits : Text) : ReadM Nat := do
  if digitLimit < digits.length then throw (.numeral (.tooLong digits.length))
  let n := Numeral.value 10 digits
  if roundLimit ≤ n then refuse .tooManyRounds
  return n

/-- Reads what follows the opening brace of a number of rounds, or gives nothing and reads nothing
if it is not one. -/
def readBraces? : ReadM (Option (Nat × Option Nat)) := do
  let start := (← get).cursor
  let fuel ← remaining
  if (start.tokens.head?.map (·.is '\x7d')).getD false then return none
  let low ← takeWhile Token.isDigit fuel
  let high ← if ← accept ',' then takeWhile Token.isDigit fuel else pure low
  if !(← accept '\x7d') then
    modify fun s => { s with cursor := start }
    return none
  let least ← if low = [] then pure 0 else readRoundCount low
  if high = [] then return some (least, none)
  let greatest ← readRoundCount high
  if greatest < least then refuse (.at .leastAboveGreatest start.position)
  return some (least, some greatest)

/-- Reads a number of rounds whose first token is `t`, if it is one. -/
def readRounds? (t : Token) : ReadM (Option (Nat × Option Nat)) :=
  if t.is '?' then return some (0, some 1)
  else if t.is '*' then return some (0, none)
  else if t.is '+' then return some (1, none)
  else readBraces?

/-- Reads the mark that tells how a repeated part chooses its rounds. -/
def readGreed : ReadM Greed := do
  if ← accept '?' then return .reluctant
  else if ← accept '+' then return .possessive
  else return .greedy

/-- Repeats the last of the parts read, which are given last first. The number of rounds stands at
`start`. -/
def repeatLast (start least : Nat) (greatest : Option Nat) : List Node → ReadM (List Node)
  | [] | .leaf (.anchor _) :: _ => refuse (.at .nothingToRepeat start)
  | .rounds .. :: _ => refuse (.at .repeatedTwice start)
  | .group none on off body :: done => do
    let body := if on = {} ∧ off = {} then body else [.group none on off body]
    return .rounds (← readGreed) least greatest body :: done
  | n :: done => return .rounds (← readGreed) least greatest [n] :: done

/-! ## Switches -/

/-- The switch of a letter. -/
def flagOf? (t : Token) : Option Flags :=
  if t.is 'i' then some { ignoreCase := true }
  else if t.is 'm' then some { multiline := true }
  else if t.is 's' then some { dotAll := true }
  else if t.is 'x' then some { verbose := true }
  else if t.is 'a' then some { ascii := true }
  else if t.is 't' then some { template := true }
  else if t.is 'u' then some { unicode := true }
  else none

/-- Stops at a token that is no switch. -/
def notFlag {α : Type} (t : Token) (missing : Text) : ReadM α :=
  fail (if t.isLetter then .unknownFlag else .flagExpected missing) t.text.length

/-- Reads switches to turn on, of which `t` is the first, and gives the token after them. -/
def readFlagsOn (on : Flags) (t : Token) : (fuel : Nat) → ReadM (Flags × Token)
  | 0 => return (on, t)
  | fuel + 1 => do
    if t.is 'L' then fail .localeFlag 0
    let on := on.union ((flagOf? t).getD {})
    if (t.is 'a' || t.is 'u') && on.ascii && on.unicode then fail .typeFlagsTogether 0
    match ← take? with
    | none => fail (.flagExpected "-, : or )") 0
    | some next =>
      if next.isOneOf ")-:" then return (on, next)
      else if (flagOf? next).isSome || next.is 'L' then readFlagsOn on next fuel
      else notFlag next "-, : or )"

/-- Reads switches to turn off, of which `t` is the first, up to the colon. -/
def readFlagsOff (off : Flags) (t : Token) : (fuel : Nat) → ReadM Flags
  | 0 => return off
  | fuel + 1 => do
    if t.isOneOf "aLu" then fail .typeFlagOff 0
    let off := off.union ((flagOf? t).getD {})
    match ← take? with
    | none => fail (.flagExpected ":") 0
    | some next =>
      if next.is ':' then return off
      else if (flagOf? next).isSome || next.is 'L' then readFlagsOff off next fuel
      else notFlag next ":"

/-- Reads the switches of a group, of which `t` is the first token. Switches of the whole pattern
are turned on at once and give nothing. -/
def readFlags (t : Token) : ReadM (Option (Flags × Flags)) := do
  let fuel := (← remaining) + 1
  let (on, next) ← if t.is '-' then pure ({}, t) else readFlagsOn {} t fuel
  if next.is ')' then
    modify fun s => { s with flags := s.flags.union on }
    return none
  if on.template then fail .globalFlagOn 1
  let off ← if next.is '-' then do
      match ← take? with
      | none => fail (.flagExpected "flag") 0
      | some first =>
        if (flagOf? first).isSome || first.is 'L' then readFlagsOff {} first fuel
        else notFlag first "flag"
    else pure {}
  if off.template then fail .globalFlagOff 1
  if on.meets off then fail .flagOnAndOff 1
  return some (on, off)

/-! ## Parentheses -/

/-- What an opening parenthesis begins. -/
inductive Opening where
  /-- Nothing that is part of the tree. -/
  | nothing
  /-- Switches of the whole pattern. -/
  | globalFlags
  /-- A reference that is complete. -/
  | backref (l : Leaf)
  | capture (name? : Option Text)
  | plain (on off : Flags)
  | atomic
  | look (behind negated : Bool)
  | conditional (group : Nat)

/-- Takes the tokens of a comment that began at `start`. -/
def skipComment (start : Nat) : (fuel : Nat) → ReadM Unit
  | 0 => return
  | fuel + 1 => do
    match ← peek with
    | none => refuse (.at .commentNotEnded start)
    | some t =>
      let _ ← take?
      if t.is ')' then return else skipComment start fuel

/-- Reads what follows `(?P`. -/
def readNamed : ReadM Opening := do
  if ← accept '<' then
    let name ← takeName '>' "group name"
    checkGroupName name
    return .capture (some name)
  if ← accept '=' then
    let name ← takeName ')' "group name"
    checkGroupName name
    match (← get).names.lookup name with
    | none => fail (.unknownGroupName name) (name.length + 1)
    | some group =>
      checkClosed group (name.length + 1)
      return .backref (← backrefTo group)
  match ← take? with
  | none => fail .unexpectedEnd 0
  | some t => fail (.unknownExtension (0x50 :: t.text)) (t.text.length + 2)

/-- The bound on group numbers. -/
def groupLimit : Int := 1073741823

/-- Reads the group of a condition. -/
def readCondition : ReadM Nat := do
  let name ← takeName ')' "group name"
  let back := name.length + 1
  let group ←
    if name.isIdentifier then
      match (← get).names.lookup name with
      | none => fail (.unknownGroupName name) back
      | some group => pure group
    else
      match Numeral.readInt 10 name with
      | .error _ => fail (.badGroupName name) back
      | .ok n =>
        if n < 0 then fail (.badGroupName name) back
        if n = 0 then fail .badGroupNumber back
        if groupLimit ≤ n then fail (.unknownGroup n) back
        let group := n.toNat
        let place := (← position) - back
        if ((← get).conditions.lookup group).isNone then
          modify fun s => { s with conditions := s.conditions ++ [(group, place)] }
        pure group
  checkBehind group
  return group

/-- Reads what follows an opening parenthesis at `start`, up to its contents. -/
def readOpening (start : Nat) : ReadM Opening := do
  if !(← accept '?') then return .capture none
  match ← take? with
  | none => fail .unexpectedEnd 0
  | some t =>
    if t.is 'P' then readNamed
    else if t.is ':' then return .plain {} {}
    else if t.is '#' then
      skipComment start ((← remaining) + 1)
      return .nothing
    else if t.is '=' then return .look false false
    else if t.is '!' then return .look false true
    else if t.is '<' then
      match ← take? with
      | none => fail .unexpectedEnd 0
      | some d =>
        if d.is '=' then return .look true false
        else if d.is '!' then return .look true true
        else fail (.unknownExtension (0x3c :: d.text)) (d.text.length + 2)
    else if t.is '(' then return .conditional (← readCondition)
    else if t.is '>' then return .atomic
    else if (flagOf? t).isSome || t.is 'L' || t.is '-' then
      match ← readFlags t with
      | none => return .globalFlags
      | some (on, off) => return .plain on off
    else fail (.unknownExtension t.text) (t.text.length + 1)

end NotebookAudit.Pattern

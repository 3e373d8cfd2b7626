import NotebookAudit.Pattern.Token
import NotebookAudit.Text.Identifier

/-!
The reading of a pattern under way: the tokens to come, and what is known of groups.
-/

namespace NotebookAudit.Pattern

/-- What has been read of a pattern. -/
structure Reading where
  cursor : Cursor
  /-- The switches of the whole pattern. -/
  flags : Flags
  /-- The number of groups that are opened. -/
  groups : Nat
  /-- The names of groups. -/
  names : List (Text × Nat)
  /-- The widths of the groups that are closed. -/
  widths : List (Nat × Width)
  /-- One more than the number of groups that were opened before the outermost look behind. -/
  behindFrom : Option Nat
  /-- The groups that conditions refer to, each with the position of the first reference. -/
  conditions : List (Nat × Nat)

/-- A step of reading. -/
abbrev ReadM := StateT Reading (Except Error)

/-! ## Tokens -/

/-- The next token. -/
def peek : ReadM (Option Token) := do return (← get).cursor.tokens.head?

/-- The position of the next token. -/
def position : ReadM Nat := do return (← get).cursor.position

/-- Stops with a fault. -/
def refuse {α : Type} (fault : Fault) : ReadM α := throw (.invalid fault)

/-- Stops with a problem `back` characters before the next token. -/
def fail {α : Type} (problem : Problem) (back : Nat) : ReadM α := do
  refuse (.at problem ((← position) - back))

/-- Takes the next token. -/
def take? : ReadM (Option Token) := do
  let s ← get
  match s.cursor.tokens with
  | [] => return none
  | t :: _ =>
    set { s with cursor := ← s.cursor.advance }
    return some t

/-- Takes the next token if it is a given character. -/
def accept (c : Char) : ReadM Bool := do
  match ← peek with
  | some t => if t.is c then let _ ← take?; return true else return false
  | none => return false

/-- Takes the tokens in front that pass a test, at most `n` of them. -/
def takeWhile (test : Token → Bool) : (n : Nat) → ReadM Text
  | 0 => return []
  | n + 1 => do
    match ← peek with
    | some t =>
      if test t then
        let _ ← take?
        return t.text ++ (← takeWhile test n)
      else return []
    | none => return []

/-- The number of tokens that follow. -/
def remaining : ReadM Nat := do return (← get).cursor.tokens.length

/-- Takes the tokens up to a terminator, which is dropped. `done` is what is taken already. -/
def takeUntil (terminator : Char) (what : Text) (done : Text) : (fuel : Nat) → ReadM Text
  | 0 => return done
  | fuel + 1 => do
    match ← take? with
    | none =>
      if done = [] then fail (.noName what) 0
      else fail (.nameNotEnded [terminator.toNat]) done.length
    | some t =>
      if t.is terminator then
        if done = [] then fail (.noName what) 1 else return done
      else takeUntil terminator what (done ++ t.text) fuel

/-- Takes a name and its terminator. -/
def takeName (terminator : Char) (what : Text) : ReadM Text := do
  takeUntil terminator what [] ((← remaining) + 1)

/-! ## Groups -/

/-- Stops if a group is not closed yet, `back` characters before the next token. -/
def checkClosed (group back : Nat) : ReadM Unit := do
  if ((← get).widths.lookup group).isNone then fail .openGroup back

/-- Stops if a reference inside a look behind is to a group that it opened itself. -/
def checkBehind (group : Nat) : ReadM Unit := do
  match (← get).behindFrom with
  | none => return
  | some first =>
    checkClosed group 0
    if first ≤ group then fail .groupOfSameLook 0

/-- A reference to a closed group. -/
def backrefTo (group : Nat) : ReadM Leaf := do
  checkBehind group
  return .backref group (((← get).widths.lookup group).getD .zero)

/-- Opens the next group, under a name if one is given. -/
def openGroup (name? : Option Text) : ReadM Nat := do
  let s ← get
  let group := s.groups + 1
  set { s with groups := group }
  match name? with
  | none => return group
  | some name =>
    match s.names.lookup name with
    | some earlier => fail (.groupNameTaken name group earlier) (name.length + 1)
    | none =>
      modify fun s => { s with names := (name, group) :: s.names }
      return group

/-- Closes a group. -/
def closeGroup (group : Nat) (body : List Node) : ReadM Unit :=
  modify fun s => { s with widths := (group, widthOfAll body) :: s.widths }

/-- Stops unless a name that has just been taken is an identifier. -/
def checkGroupName (name : Text) : ReadM Unit := do
  if !name.isIdentifier then fail (.badGroupName name) (name.length + 1)

end NotebookAudit.Pattern

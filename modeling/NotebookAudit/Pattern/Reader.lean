import NotebookAudit.Pattern.Escape
import NotebookAudit.Pattern.Opening

/-!
Reading patterns.

`Pattern.read` takes a text to a tree of parts, with the switches of the whole pattern and the
number of its groups. Reading goes from left to right and stops at the first fault; a look behind
checks its references as it goes, and references from conditions are checked when all groups are
known.
-/

namespace NotebookAudit.Pattern

/-! ## Alternatives -/

/-- The leaf with which parts in a row begin. -/
def leadingLeaf? : List Node → Option Leaf
  | .leaf l :: _ => some l
  | _ => none

/-- The leaves with which all alternatives begin, and the alternatives without them. -/
def splitCommon (first : List Node) (others : List (List Node)) :
    List Node × List (List Node) :=
  match first with
  | .leaf l :: rest =>
    if others.all fun a => leadingLeaf? a = some l then
      let (common, alternatives) := splitCommon rest (others.map List.tail)
      (.leaf l :: common, alternatives)
    else ([], first :: others)
  | _ => ([], first :: others)

/-- The items of a set that an alternative of one character stands for. -/
def asSetItems? : List Node → Option (List SetItem)
  | [.leaf (.literal c)] => some [.literal c]
  | [.leaf (.set false items)] => some items
  | _ => none

/-- The part that alternatives form. What they have in common in front is taken out of them, and
alternatives of one character each are a set. -/
def ofAlternatives : List (List Node) → List Node
  | [] => []
  | [a] => a
  | a :: others =>
    let (common, alternatives) := splitCommon a others
    match alternatives.mapM asSetItems? with
    | some items => common ++ [.leaf (.set false items.flatten.eraseDups)]
    | none => common ++ [.branch alternatives]

/-- Parts in a row with the groups opened that neither capture nor turn switches on or off. -/
def openPlainGroups (nodes : List Node) : List Node :=
  nodes.flatMap fun
    | .group none on off body => if on = {} ∧ off = {} then body else [.group none on off body]
    | n => [n]

/-! ## The whole -/

/-- How deep groups may nest, counted as two levels a group, on a stack that is otherwise empty. -/
def depthLimit : Nat := 960

/-- Skips a comment up to the end of its line. -/
def skipLine : (fuel : Nat) → ReadM Unit
  | 0 => return
  | fuel + 1 => do
    match ← take? with
    | none => return
    | some t => if t.is '\n' then return else skipLine fuel

/-- Takes the parenthesis that closes the group which began at `start`. -/
def closeParenthesis (start : Nat) : ReadM Unit := do
  if !(← accept ')') then refuse (.at .groupNotEnded start)

mutual

/-- Reads alternatives up to a closing parenthesis or the end, `depth` levels deep. -/
def readAlternatives : (fuel : Nat) → (verbose : Bool) → (depth : Nat) → ReadM (List Node)
  | 0, _, _ => throw .tooDeep
  | fuel + 1, verbose, depth => do
    if depthLimit < depth then throw .tooDeep
    let first ← readSequence fuel verbose (depth + 1) (depth == 0) []
    return ofAlternatives (first :: (← readMore fuel verbose depth))

/-- Reads the alternatives after the first. -/
def readMore : (fuel : Nat) → (verbose : Bool) → (depth : Nat) → ReadM (List (List Node))
  | 0, _, _ => throw .tooDeep
  | fuel + 1, verbose, depth => do
    if ← accept '|' then
      let flags := (← get).flags
      let verbose := if depth = 0 then flags.verbose else verbose
      let next ← readSequence fuel verbose (depth + 1) false []
      return next :: (← readMore fuel verbose depth)
    else return []

/-- Reads parts in a row; `done` holds those read, last first. Switches of the whole pattern may
stand only in front of the first alternative. -/
def readSequence : (fuel : Nat) → (verbose : Bool) → (depth : Nat) → (isFirst : Bool) →
    (done : List Node) → ReadM (List Node)
  | 0, _, _, _, _ => throw .tooDeep
  | fuel + 1, verbose, depth, isFirst, done => do
    match ← peek with
    | none => return openPlainGroups done.reverse
    | some t =>
      if t.isOneOf "|)" then return openPlainGroups done.reverse
      let _ ← take?
      if verbose && !t.escaped && t.char.isAsciiBlank then
        readSequence fuel verbose depth isFirst done
      else if verbose && t.is '#' then
        skipLine ((← remaining) + 1)
        readSequence fuel verbose depth isFirst done
      else if t.escaped then
        readSequence fuel verbose depth isFirst (.leaf (← readEscape t) :: done)
      else if t.is '[' then
        readSequence fuel verbose depth isFirst (.leaf (← readSet t.position) :: done)
      else if t.isOneOf "*+?\x7b" then
        match ← readRounds? t with
        | none => readSequence fuel verbose depth isFirst (.leaf (.literal t.char) :: done)
        | some (least, greatest) =>
          readSequence fuel verbose depth isFirst (← repeatLast t.position least greatest done)
      else if t.is '.' then readSequence fuel verbose depth isFirst (.leaf .dot :: done)
      else if t.is '^' then
        readSequence fuel verbose depth isFirst (.leaf (.anchor .lineStart) :: done)
      else if t.is '$' then
        readSequence fuel verbose depth isFirst (.leaf (.anchor .lineEnd) :: done)
      else if t.is '(' then
        match ← readOpening t.position with
        | .nothing => readSequence fuel verbose depth isFirst done
        | .globalFlags =>
          if !isFirst || !done.isEmpty then refuse (.at .lateGlobalFlags t.position)
          readSequence fuel (← get).flags.verbose depth isFirst done
        | .backref l => readSequence fuel verbose depth isFirst (.leaf l :: done)
        | opening =>
          readSequence fuel verbose depth isFirst
            ((← readContents fuel verbose depth t.position opening) :: done)
      else readSequence fuel verbose depth isFirst (.leaf (.literal t.char) :: done)

/-- Reads the contents of a group that began at `start`, and its closing parenthesis. -/
def readContents : (fuel : Nat) → (verbose : Bool) → (depth start : Nat) → Opening → ReadM Node
  | 0, _, _, _, _ => throw .tooDeep
  | fuel + 1, verbose, depth, start, opening => do
    match opening with
    | .look behind negated =>
      let outer := (← get).behindFrom
      if behind && outer.isNone then
        modify fun s => { s with behindFrom := some (s.groups + 1) }
      let body ← readAlternatives fuel verbose (depth + 1)
      if behind && outer.isNone then modify fun s => { s with behindFrom := none }
      closeParenthesis start
      return .look behind negated body
    | .conditional group =>
      let yes ← readSequence fuel verbose (depth + 1) false []
      let no ← if ← accept '|' then do
          let no ← readSequence fuel verbose (depth + 1) false []
          if ((← peek).map (·.is '|')).getD false then fail .tooManyBranches 0
          pure no
        else pure []
      closeParenthesis start
      return .conditional group yes no
    | .capture name? =>
      let group ← openGroup name?
      let body ← readAlternatives fuel verbose (depth + 1)
      closeParenthesis start
      closeGroup group body
      return .group (some group) {} {} body
    | .plain on off =>
      let inside := (verbose || on.verbose) && !off.verbose
      let body ← readAlternatives fuel inside (depth + 1)
      closeParenthesis start
      return .group none on off body
    | _ =>
      let body ← readAlternatives fuel verbose (depth + 1)
      closeParenthesis start
      return .atomic body

end

/-- A pattern that has been read: its parts, its switches and the number of its groups. -/
structure Reading.Result where
  nodes : List Node
  flags : Flags
  groups : Nat

/-- Reads a whole pattern. -/
def readAll (fuel : Nat) (flags : Flags) : ReadM Reading.Result := do
  let nodes ← readAlternatives fuel flags.verbose 0
  let s ← get
  if s.flags.ascii && s.flags.unicode then throw .flagConflict
  if !s.cursor.tokens.isEmpty then fail .unbalanced 0
  for (group, place) in s.conditions do
    if s.groups < group then refuse (.at (.unknownGroup group) place)
  return ⟨nodes, s.flags, s.groups⟩

/-- Reads a pattern under switches for the whole of it. -/
def read (flags : Flags) (t : Text) : Except Error Reading.Result := do
  let cursor ← Cursor.ofText t
  let start : Reading := ⟨cursor, flags, 0, [], [], none, []⟩
  (readAll (4 * t.length + 4) flags).run' start

end NotebookAudit.Pattern

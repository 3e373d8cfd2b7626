import NotebookAudit.Pattern.Matcher

/-!
Patterns: what a rule looks for in a line.

`Pattern.compile` reads a pattern in which case does not matter, and `Pattern.search` looks for it
in a line.
-/

namespace NotebookAudit

/-- A pattern that is ready to be searched for. -/
structure Pattern where
  program : List Pattern.Instr
  /-- The number of groups. -/
  groups : Nat
  /-- The least number of characters that the pattern matches. -/
  least : Nat
  /-- A test that the first character passes. -/
  leading? : Option Pattern.CharTest

namespace Pattern

/-- Compiles a pattern under switches for the whole of it. -/
def compileUnder (flags : Flags) (t : Text) : Except Error Pattern := do
  let r ← read flags t
  let program ← (compileAll r.flags r.nodes).mapError .invalid
  return ⟨program, r.groups, (widthOfAll r.nodes).least, leadingTest? r.flags r.nodes⟩

/-- Compiles a pattern; case does not matter in it unless a part of it says so. -/
def compile (t : Text) : Except Error Pattern := compileUnder { ignoreCase := true } t

/-- What a search finds. -/
inductive Found where
  | nothing
  | found
  /-- A match in which some group ends before it starts. -/
  | brokenGroup
  deriving Repr, DecidableEq

/-- What is wrong with a match in which a group ends before it starts. -/
def brokenGroupMessage : Text :=
  "The span of capturing group is wrong, please report a bug for the re module."

/-- The places of a subject where a search tries a pattern: those that leave room for it. -/
def starts (p : Pattern) (s : Subject) : List Nat :=
  if s.size < p.least then []
  else match p.leading? with
    | some t => (List.range s.size).filter (s.passes t)
    | none => List.range (s.size - (p.least - 1) + 1)

/-- Searches a line for a pattern. -/
def search (p : Pattern) (line : Text) : Found :=
  let s : Subject := ⟨line.toArray⟩
  match (p.starts s).findSome? fun pos => match runAt s p.program pos with
      | (true, st) => some st
      | (false, _) => none with
  | none => .nothing
  | some st => if (List.range p.groups).any st.isBroken then .brokenGroup else .found

end Pattern

end NotebookAudit

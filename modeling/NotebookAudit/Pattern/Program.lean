import NotebookAudit.Pattern.Reader

/-!
Programs: patterns in the form in which they are run.

A program is a list of instructions, each with the programs of its parts inside it. The switches of
the pattern are used up: every character test carries its own folding, and every anchor its meaning.
-/

namespace NotebookAudit.Pattern

/-- How a character test is laid out. The matcher passes over a literal or a set that cannot match
without entering it. -/
inductive Shape where
  | literal
  | set
  | other
  deriving Repr, DecidableEq

/-- A condition on a place, with its meaning fixed. -/
inductive Place where
  | textStart
  | lineStart
  | textEnd
  /-- The end of the text, or in front of a line feed that ends it. -/
  | lastLineEnd
  | lineEnd
  | boundary (asciiOnly negated : Bool)
  deriving Repr, DecidableEq

/-- An instruction. -/
inductive Instr where
  /-- Matches one character. -/
  | test (shape : Shape) (t : CharTest)
  | place (p : Place)
  /-- Notes the place as the start of a group, if the slot is even, or as its end. -/
  | mark (slot : Nat)
  /-- Ends an alternative. -/
  | leave
  | branch (alternatives : List (List Instr))
  /-- Rounds of one character. -/
  | run (greed : Greed) (least : Nat) (greatest : Option Nat) (t : CharTest)
  /-- Rounds of a part that ends with `again`. -/
  | loop (reluctant : Bool) (least : Nat) (greatest : Option Nat) (body : List Instr)
  /-- Ends a round of the innermost loop. -/
  | again
  /-- Rounds that are not given up, each run by itself. -/
  | keep (least : Nat) (greatest : Option Nat) (body : List Instr)
  /-- A part that is run by itself. -/
  | atomic (body : List Instr)
  /-- A part that matches, or does not match, `back` characters before the place. -/
  | look (negated : Bool) (back : Nat) (body : List Instr)
  /-- The text of a group. -/
  | backref (fold : Fold) (group : Nat)
  | conditional (group : Nat) (yes no : List Instr)
  deriving Repr

/-! ## Compiling -/

namespace Flags

/-- The test for one character. -/
def literalTest (f : Flags) (negated : Bool) (c : CodePoint) : CharTest :=
  ⟨f.fold, f.ascii, negated, [.literal (f.fold.apply c)]⟩

/-- The shape of the test for one character, or for all others. -/
def literalShape (f : Flags) (negated : Bool) (c : CodePoint) : Shape :=
  if negated || f.fold.isCased c then .other else .literal

/-- The meaning of an anchor. -/
def placeOf (f : Flags) : Anchor → Place
  | .textStart => .textStart
  | .textEnd => .textEnd
  | .lineStart => if f.multiline then .lineStart else .textStart
  | .lineEnd => if f.multiline then .lineEnd else .lastLineEnd
  | .boundary negated => .boundary f.ascii negated

/-- The instruction of a leaf. -/
def compileLeaf (f : Flags) : Leaf → Instr
  | .literal c => .test (f.literalShape false c) (f.literalTest false c)
  | .notLiteral c => .test (f.literalShape true c) (f.literalTest true c)
  | .dot => .test .other ⟨f.fold, f.ascii, true, if f.dotAll then [] else [.literal 0x0a]⟩
  | .set negated items =>
    .test (if items.any (SetItem.isCased f.fold) then .other else .set)
      ⟨f.fold, f.ascii, negated, items⟩
  | .anchor a => .place (f.placeOf a)
  | .backref group _ => .backref f.fold (group - 1)

end Flags

/-- The bound on how far a part can be looked for behind a place. -/
def behindLimit : Nat := 4294967295

/-- How far behind a place a part starts that is looked for. -/
def backOf (behind : Bool) (body : List Node) : Except Fault Nat :=
  if !behind then .ok 0
  else
    let w := widthOfAll body
    if behindLimit < w.least then .error .lookBehindTooWide
    else if w.least ≠ w.greatest then .error .lookBehindWidth
    else .ok w.least

/-- The instruction of a repeated part whose body is compiled. -/
def compileRounds (greed : Greed) (least : Nat) (greatest : Option Nat) (isUnit : Bool)
    (body : List Instr) : Instr :=
  match isUnit, body with
  | true, [.test _ t] => .run greed least greatest t
  | _, _ => match greed with
    | .greedy => .loop false least greatest (body ++ [.again])
    | .reluctant => .loop true least greatest (body ++ [.again])
    | .possessive => .keep least greatest body

mutual

/-- The program of a part under switches. -/
def compileNode (f : Flags) : Node → Except Fault (List Instr)
  | .leaf l => .ok [f.compileLeaf l]
  | .group none on off body => compileAll (f.within on off) body
  | .group (some i) on off body => do
    let body ← compileAll (f.within on off) body
    return .mark (2 * i - 2) :: body ++ [.mark (2 * i - 1)]
  | .atomic body => do return [.atomic (← compileAll f body)]
  | .branch alternatives => do return [.branch (← compileEach f alternatives)]
  | .rounds greed least greatest body => do
    if f.template then throw (.templateRounds greed)
    return [compileRounds greed least greatest (isSingleUnit body) (← compileAll f body)]
  | .look behind negated body => do
    let back ← backOf behind body
    return [.look negated back (← compileAll f body)]
  | .conditional group yes no => do
    let yes ← compileAll f yes
    match no with
    | [] => return [.conditional (group - 1) yes []]
    | n :: rest =>
      return [.conditional (group - 1) (yes ++ [.leave]) (← compileAll f (n :: rest))]

/-- The program of parts in a row. -/
def compileAll (f : Flags) : List Node → Except Fault (List Instr)
  | [] => .ok []
  | n :: rest => do return (← compileNode f n) ++ (← compileAll f rest)

/-- The programs of alternatives. -/
def compileEach (f : Flags) : List (List Node) → Except Fault (List (List Instr))
  | [] => .ok []
  | a :: rest => do return ((← compileAll f a) ++ [.leave]) :: (← compileEach f rest)

end

/-! ## The first character -/

/-- The set with which parts in a row begin, and the switches there. -/
def leadingSet? (f : Flags) : (fuel : Nat) → List Node → Option (Flags × Bool × List SetItem)
  | fuel + 1, .group _ on off body :: _ => leadingSet? (f.within on off) fuel body
  | _, .leaf (.set negated items) :: _ => some (f, negated, items)
  | _, _ => none

/-- The test by which a search picks the places where it tries parts in a row: the set with which
they begin, if case does not matter for it. Its classes are those of the whole pattern. -/
def leadingTest? (f : Flags) (nodes : List Node) : Option CharTest :=
  if (widthOfAll nodes).least = 0 then none
  else match leadingSet? f depthLimit nodes with
    | some (inner, negated, items) =>
      if items.any (SetItem.isCased inner.fold) then none
      else some ⟨.exact, f.ascii, negated, items⟩
    | none => none

end NotebookAudit.Pattern

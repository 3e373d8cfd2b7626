import NotebookAudit.Pattern.CharTest

/-!
Patterns as trees.

`Node.width` bounds the number of characters that a part of a pattern can match.
-/

namespace NotebookAudit.Pattern

/-- The switches of a pattern or of a part of it. -/
structure Flags where
  ignoreCase : Bool := false
  multiline : Bool := false
  dotAll : Bool := false
  verbose : Bool := false
  ascii : Bool := false
  unicode : Bool := false
  template : Bool := false
  deriving Repr, DecidableEq

namespace Flags

/-- The switches that are on in either. -/
def union (a b : Flags) : Flags where
  ignoreCase := a.ignoreCase || b.ignoreCase
  multiline := a.multiline || b.multiline
  dotAll := a.dotAll || b.dotAll
  verbose := a.verbose || b.verbose
  ascii := a.ascii || b.ascii
  unicode := a.unicode || b.unicode
  template := a.template || b.template

/-- The switches of `a` that are off in `b`. -/
def minus (a b : Flags) : Flags where
  ignoreCase := a.ignoreCase && !b.ignoreCase
  multiline := a.multiline && !b.multiline
  dotAll := a.dotAll && !b.dotAll
  verbose := a.verbose && !b.verbose
  ascii := a.ascii && !b.ascii
  unicode := a.unicode && !b.unicode
  template := a.template && !b.template

/-- The switches of a part that turns some on and some off. A choice between ASCII and every script
replaces the one made outside. -/
def within (outer on off : Flags) : Flags :=
  let kept :=
    if on.ascii || on.unicode then { outer with ascii := false, unicode := false } else outer
  (kept.union on).minus off

/-- Whether a switch is on in both. -/
def meets (a b : Flags) : Bool := a.minus (a.minus b) != {}

/-- How characters are folded. -/
def fold (f : Flags) : Fold :=
  if !f.ignoreCase then .exact else if f.ascii then .ascii else .unicode

end Flags

/-- A condition on a place between two characters. -/
inductive Anchor where
  /-- The start of the text. -/
  | textStart
  /-- The end of the text. -/
  | textEnd
  /-- The start of the text, or of a line if lines count. -/
  | lineStart
  /-- The end of the text or of its last line, or of a line if lines count. -/
  | lineEnd
  /-- Between a word character and one that is none, or, if negated, any other place. -/
  | boundary (negated : Bool)
  deriving Repr, DecidableEq

/-- The least and the greatest number of characters that a part can match. -/
structure Width where
  least : Nat
  greatest : Nat
  deriving Repr, DecidableEq

namespace Width

/-- The bound on widths. -/
def cap : Nat := 0x10000000000000000

/-- The width of nothing. -/
def zero : Width := ⟨0, 0⟩

/-- The width of one character. -/
def one : Width := ⟨1, 1⟩

/-- The width of two parts in a row. -/
def add (a b : Width) : Width := ⟨a.least + b.least, a.greatest + b.greatest⟩

/-- The width of one part or the other. -/
def either (a b : Width) : Width := ⟨min a.least b.least, max a.greatest b.greatest⟩

/-- The width within the bound. -/
def capped (w : Width) : Width := ⟨min w.least cap, min w.greatest cap⟩

/-- The width of a repeated part. -/
def times (w : Width) (least : Nat) (greatest : Option Nat) : Width where
  least := w.least * least
  greatest := match greatest with
    | some n => w.greatest * n
    | none => if w.greatest = 0 then 0 else cap

end Width

/-- A part of a pattern without parts of its own. -/
inductive Leaf where
  | literal (c : CodePoint)
  | notLiteral (c : CodePoint)
  /-- Any character, the line feed only if the dot stands for all. -/
  | dot
  | set (negated : Bool) (items : List SetItem)
  | anchor (a : Anchor)
  /-- The text of a group, which has the width given. -/
  | backref (group : Nat) (width : Width)
  deriving Repr, DecidableEq

/-- Whether a leaf matches exactly one character. -/
def Leaf.isUnit : Leaf → Bool
  | literal _ | notLiteral _ | dot | set _ _ => true
  | anchor _ | backref _ _ => false

/-- The width of a leaf. -/
def Leaf.width : Leaf → Width
  | literal _ | notLiteral _ | dot | set _ _ => .one
  | anchor _ => .zero
  | backref _ w => w

/-- How a repeated part chooses the number of rounds. -/
inductive Greed where
  /-- As many rounds as possible. -/
  | greedy
  /-- As few rounds as possible. -/
  | reluctant
  /-- As many rounds as possible, and never fewer. -/
  | possessive
  deriving Repr, DecidableEq

/-- A part of a pattern. -/
inductive Node where
  | leaf (l : Leaf)
  /-- A group, which captures if it has an index, and turns switches on and off. -/
  | group (index : Option Nat) (on off : Flags) (body : List Node)
  /-- A group that is not entered again. -/
  | atomic (body : List Node)
  | branch (alternatives : List (List Node))
  | rounds (greed : Greed) (least : Nat) (greatest : Option Nat) (body : List Node)
  /-- What stands ahead of or behind a place. -/
  | look (behind negated : Bool) (body : List Node)
  /-- One part or the other, as a group has matched or not. -/
  | conditional (group : Nat) (yes no : List Node)
  deriving Repr

mutual

/-- The width of a part. -/
def Node.width : Node → Width
  | .leaf l => l.width
  | .group _ _ _ body => widthOfAll body
  | .atomic body => widthOfAll body
  | .branch alternatives => widthOfAlternatives alternatives
  | .rounds _ least greatest body => (widthOfAll body).times least greatest
  | .look _ _ _ => .zero
  | .conditional _ yes no => (widthOfAll yes).either (widthOfAll no)

/-- The sum of the widths of parts in a row. -/
def sumOfWidths : List Node → Width
  | [] => .zero
  | n :: rest => n.width.add (sumOfWidths rest)

/-- The width of parts in a row. -/
def widthOfAll : List Node → Width
  | [] => .zero
  | n :: rest => (n.width.add (sumOfWidths rest)).capped

/-- The width of alternatives. -/
def widthOfAlternatives : List (List Node) → Width
  | [] => .zero
  | [a] => widthOfAll a
  | a :: b :: rest => (widthOfAll a).either (widthOfAlternatives (b :: rest))

end

mutual

/-- Whether a part matches exactly one character, without capturing it. -/
def Node.isUnit : Node → Bool
  | .leaf l => l.isUnit
  | .group none _ _ body => isSingleUnit body
  | _ => false

/-- Whether parts in a row are one that matches exactly one character. -/
def isSingleUnit : List Node → Bool
  | [n] => n.isUnit
  | _ => false

end

end NotebookAudit.Pattern

import NotebookAudit.Yaml.Value

/-!
YAML values as messages show them.

A value that stands alone is shown plainly; inside another it is shown so that it can be told from
its neighbours. A collection inside itself is shown by dots.
-/

namespace NotebookAudit.Yaml

/-- A byte inside a quoted byte string. -/
def shownByte (quote : CodePoint) (b : UInt8) : Text :=
  let c := b.toNat
  match shortEscape? quote c with
  | some escape => escape
  | none => if 0x20 ≤ c ∧ c < 0x7f then [c] else "\\x" ++ Text.ofHex 2 c

/-- A byte string with its quotes. -/
def shownBytes (bytes : Bytes) : Text :=
  let quote := quoteFor (bytes.map (·.toNat))
  0x62 :: quote :: bytes.flatMap (shownByte quote) ++ [quote]

/-- Texts with a comma and a blank between each two. -/
def listedTexts : List Text → Text
  | [] => []
  | [t] => t
  | t :: rest => t ++ ", " ++ listedTexts rest

/-- Shown texts between two delimiters. -/
def shownBetween (start finish : String) (items : List Text) : Text :=
  Text.ofString start ++ listedTexts items ++ Text.ofString finish

namespace Document

/-- A value inside another, inside the collections of the numbers `around`. -/
def shown (d : Document) : (fuel : Nat) → (around : List Nat) → Nat → Except NumeralFault Text
  | 0, _, _ => .ok []
  | fuel + 1, around, index =>
    let inside := index :: around
    let pair (p : Nat × Nat) : Except NumeralFault (Text × Text) := do
      return (← shown d fuel inside p.1, ← shown d fuel inside p.2)
    match d.value index with
    | .null => .ok "None"
    | .bool b => .ok (Text.ofString (if b then "True" else "False"))
    | .int i => Numeral.writeInt i
    | .float x => .ok (FloatStyle.plain.write x)
    | .text t => .ok t.quoted
    | .bytes bytes => .ok (shownBytes bytes)
    | .date x => .ok x.shown
    | .dateTime x t => .ok (t.shown x)
    | .list items =>
      if around.contains index then .ok "[...]"
      else do return shownBetween "[" "]" (← items.mapM (shown d fuel inside))
    | .pairs items =>
      if around.contains index then .ok "[...]"
      else do
        let ps ← items.mapM pair
        return shownBetween "[" "]" (ps.map fun p => shownBetween "(" ")" [p.1, p.2])
    | .dict members =>
      if around.contains index then .ok "\x7b...\x7d"
      else do
        let ps ← members.mapM pair
        return shownBetween "\x7b" "\x7d" (ps.map fun p => p.1 ++ Text.ofString ": " ++ p.2)
    | .set [] => .ok "set()"
    | .set items => do return shownBetween "\x7b" "\x7d" (← items.mapM (shown d fuel inside))

/-- A value by itself. -/
def display (d : Document) (index : Nat) : Except NumeralFault Text :=
  match d.value index with
  | .text t => .ok t
  | .date x => .ok x.iso
  | .dateTime x t => .ok (x.iso ++ " " ++ t.iso)
  | _ => d.shown (d.values.size + 1) [] index

end Document

end NotebookAudit.Yaml

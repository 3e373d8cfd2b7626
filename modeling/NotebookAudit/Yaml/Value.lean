import NotebookAudit.Number.Shortest
import NotebookAudit.Text.Lower
import NotebookAudit.Yaml.Base64
import NotebookAudit.Yaml.Node

/-!
Values: what the nodes of a YAML document stand for.

The value of a collection holds the numbers of the nodes inside it, so that a collection may contain
itself. Scalars get their values as they are met; the contents of collections follow outermost
first, in the order in which they are met.
-/

namespace NotebookAudit.Yaml

/-- A value. The parts of a collection are given by their numbers. -/
inductive Value where
  | null
  | bool (b : Bool)
  | int (i : Int)
  | float (d : Double)
  | text (t : Text)
  | bytes (bytes : Bytes)
  | date (d : Date)
  | dateTime (d : Date) (t : TimeOfDay)
  | list (items : List Nat)
  | pairs (items : List (Nat × Nat))
  | dict (members : List (Nat × Nat))
  | set (items : List Nat)
  deriving Repr, DecidableEq

namespace Value

/-- Whether a value can be a key: it is no collection. -/
def isKey : Value → Bool
  | list _ | pairs _ | dict _ | set _ => false
  | _ => true

/-- The integer that a value equals, if it is a number or a switch. -/
def asInt? : Value → Option Int
  | bool b => some (if b then 1 else 0)
  | int i => some i
  | float d => d.toInt?
  | _ => none

/-- Whether two values are the same key. Numbers and switches of one value are. -/
def isSameKey (a b : Value) : Bool :=
  match a.asInt?, b.asInt? with
  | some i, some j => i == j
  | none, none => a == b && a != .float .nan
  | _, _ => false

end Value

/-- A document with its values: those of its nodes, and the number of the outermost. -/
structure Document where
  values : Array Value
  root : Nat

/-! ## Scalars -/

/-- A text with which no value can be made stops with a fault. -/
def valueFault {α : Type} (f : ValueFault) : Except Error α := .error (.value f)

/-- The switch of a word in any case. -/
def switchOf (t : Text) : Except Error Value :=
  let small := Text.lower t
  if ["yes", "true", "on"].any (small == Text.ofString ·) then .ok (.bool true)
  else if ["no", "false", "off"].any (small == Text.ofString ·) then .ok (.bool false)
  else valueFault .notSwitch

/-- The integer that a text spells to a base. -/
def readIntOf (base : Nat) (t : Text) : Except Error Int :=
  (Numeral.readInt base t).mapError fun f => .value (.numeral f)

/-- The number of parts to the base of sixty, the greatest first. -/
def sixtieths (parts : List Int) : Int := parts.foldl (fun n part => n * 60 + part) 0

/-- Whether a number begins with a minus sign, and the rest. A number is not empty. -/
def takeNumberSign (t : Text) : Except Error (Bool × Text) :=
  match t with
  | [] => valueFault .emptyNumber
  | c :: rest =>
    if c = 0x2d then .ok (true, rest) else if c = 0x2b then .ok (false, rest) else .ok (false, t)

/-- The integer of a text: binary, octal, decimal, hexadecimal or to the base of sixty. -/
def intOf (t : Text) : Except Error Value := do
  let (negative, t) ← takeNumberSign (Text.remove t 0x5f)
  let n ← match t with
    | [0x30] => pure 0
    | 0x30 :: 0x62 :: rest => readIntOf 2 rest
    | 0x30 :: 0x78 :: rest => readIntOf 16 rest
    | 0x30 :: _ => readIntOf 8 t
    | [] => valueFault .emptyNumber
    | _ =>
      if List.contains t 0x3a then do
        pure (sixtieths (← (Text.cutAt 0x3a t).mapM (readIntOf 10)))
      else readIntOf 10 t
  return .int (if negative then -n else n)

/-- The double that a text spells. -/
def readDoubleOf (t : Text) : Except Error Double :=
  match Numeral.readDouble? t with
  | some d => .ok d
  | none => valueFault (.notDouble t)

/-- The sum of parts to the base of sixty, the least first, with the rounding of every step. -/
def sumSixtieths (parts : List Double) : Double :=
  (parts.foldl (fun (sum, base) d => (sum.add (d.mul (.ofInt base)), base * 60))
    (Double.zero false, (1 : Int))).1

/-- The double of a text: with a point, to the base of sixty, infinite or not a number. -/
def doubleOf (t : Text) : Except Error Value := do
  let (negative, t) ← takeNumberSign (Text.lower (Text.remove t 0x5f))
  let d ←
    if t = Text.ofString ".inf" then pure (Double.infinity false)
    else if t = Text.ofString ".nan" then pure Double.nan
    else if List.contains t 0x3a then do
      pure (sumSixtieths (← (Text.cutAt 0x3a t).mapM readDoubleOf).reverse)
    else readDoubleOf t
  return .float (if negative then d.neg else d)

/-- The date or the date and time of a text. -/
def stampOf (t : Text) : Except Error Value :=
  match Stamp.ofText? t with
  | none => valueFault .notTimestamp
  | some s =>
    match s.value with
    | .ok (d, none) => .ok (.date d)
    | .ok (d, some time) => .ok (.dateTime d time)
    | .error part => valueFault (.date part)

/-- The bytes of a text. -/
def bytesOf (t : Text) : Except Error Value :=
  if t.all (· < 128) then
    match Base64.decode t with
    | some bytes => .ok (.bytes bytes)
    | none => .error .malformed
  else .error .malformed

namespace Graph

/-- The node of a number. -/
def node? (g : Graph) (index : Nat) : Option Node := g.nodes[index]?

/-- The tag of the node of a number. -/
def tagOf (g : Graph) (index : Nat) : Tag := ((g.node? index).map Node.tag).getD .other

/-- The text of a scalar, or of the value that a mapping keeps for itself. -/
def textOf (g : Graph) : (fuel : Nat) → Nat → Except Error Text
  | 0, _ => .error .tooDeep
  | fuel + 1, index =>
    match g.node? index with
    | some (.scalar _ t) => .ok t
    | some (.mapping _ pairs) =>
      match pairs.find? fun p => g.tagOf p.1 = .value with
      | some (_, v) => textOf g fuel v
      | none => .error .malformed
    | _ => .error .malformed

/-- The members of a mapping, those merged into it first. A mapping that is merged into itself is
entered once. -/
def flatten (g : Graph) :
    (fuel : Nat) → (entered : List Nat) → Nat → Except Error (List (Nat × Nat))
  | 0, _, _ => .error .tooDeep
  | fuel + 1, entered, index =>
    match g.node? index with
    | some (.mapping _ pairs) =>
      let own := pairs.filter fun p => g.tagOf p.1 ≠ .merge
      if entered.contains index then .ok own
      else do
        let merged ← (pairs.filter fun p => g.tagOf p.1 = .merge).mapM fun p =>
          match g.node? p.2 with
          | some (.mapping _ _) => flatten g fuel (index :: entered) p.2
          | some (.sequence _ items) => do
            let parts ← items.mapM (flatten g fuel (index :: entered))
            return parts.reverse.flatten
          | _ => .error .malformed
        return merged.flatten ++ own
    | _ => .error .malformed

end Graph

/-! ## Building -/

/-- What has been built: the values of nodes, and the collections whose contents are still to
come. -/
structure Building where
  values : Array (Option Value)
  pending : List Nat

/-- A step of building. -/
abbrev BuildM := StateT Building (Except Error)

/-- Gives a node its value. -/
def setValue (index : Nat) (v : Value) : BuildM Unit :=
  modify fun s => { s with values := s.values.setIfInBounds index (some v) }

/-- Gives a node the value of a collection whose contents are still to come. -/
def openValue (index : Nat) (v : Value) : BuildM Value := do
  setValue index v
  modify fun s => { s with pending := index :: s.pending }
  return v

/-- The value of a node; `asKey` takes the sign of a mapping's own value for its text. -/
def buildNode (g : Graph) (index : Nat) (asKey : Bool) : BuildM Value := do
  if let some (some v) := (← get).values[index]? then return v
  let scalar (read : Text → Except Error Value) : BuildM Value := do
    let v ← read (← g.textOf (g.nodes.size + 1) index)
    setValue index v
    return v
  match g.tagOf index with
  | .null => scalar fun _ => .ok .null
  | .bool => scalar switchOf
  | .int => scalar intOf
  | .float => scalar doubleOf
  | .binary => scalar bytesOf
  | .timestamp => scalar stampOf
  | .text => scalar fun t => .ok (.text t)
  | .list => openValue index (.list [])
  | .dict => openValue index (.dict [])
  | .set => openValue index (.set [])
  | .orderedPairs | .pairs => openValue index (.pairs [])
  | .value => if asKey then scalar fun t => .ok (.text t) else throw .malformed
  | .merge | .other => throw .malformed

/-- The value of a node that is a key. -/
def buildKey (g : Graph) (index : Nat) : BuildM Value := do
  let v ← buildNode g index true
  if v.isKey then return v else throw .malformed

/-- Adds a member to those of a mapping, last first. A key that is there already keeps its place. -/
def addMember (values : Array (Option Value)) (members : List (Nat × Nat)) (k v : Nat) :
    List (Nat × Nat) :=
  let isSame (j : Nat) : Bool :=
    j == k || match values[j]?, values[k]? with
      | some (some a), some (some b) => a.isSameKey b
      | _, _ => false
  if members.any fun m => isSame m.1 then members.map fun m => if isSame m.1 then (m.1, v) else m
  else (k, v) :: members

/-- The members of a mapping, each key once. -/
def buildMembers (g : Graph) (index : Nat) : BuildM (List (Nat × Nat)) := do
  let pairs ← g.flatten (g.nodes.size + 1) [] index
  for (k, v) in pairs do
    let _ ← buildKey g k
    let _ ← buildNode g v false
  let values := (← get).values
  return (pairs.foldl (fun members p => addMember values members p.1 p.2) []).reverse

/-- The pairs of a sequence of mappings with one member each. -/
def buildPairs (g : Graph) (items : List Nat) : BuildM (List (Nat × Nat)) :=
  items.mapM fun item => do
    match g.node? item with
    | some (.mapping _ [(k, v)]) =>
      let _ ← buildNode g k false
      let _ ← buildNode g v false
      return (k, v)
    | _ => throw .malformed

/-- Gives a collection its contents. -/
def fill (g : Graph) (index : Nat) : BuildM Unit := do
  match g.tagOf index, g.node? index with
  | .list, some (.sequence _ items) =>
    for item in items do
      let _ ← buildNode g item false
    setValue index (.list items)
  | .dict, some (.mapping _ _) => setValue index (.dict (← buildMembers g index))
  | .set, some (.mapping _ _) => setValue index (.set ((← buildMembers g index).map (·.1)))
  | .orderedPairs, some (.sequence _ items) => setValue index (.pairs (← buildPairs g items))
  | .pairs, some (.sequence _ items) => setValue index (.pairs (← buildPairs g items))
  | _, _ => throw .malformed

/-- Gives the pending collections their contents, in waves. -/
def fillAll (g : Graph) : (fuel : Nat) → BuildM Unit
  | 0 => return
  | fuel + 1 => do
    let wave := (← get).pending.reverse
    if wave.isEmpty then return
    modify fun s => { s with pending := [] }
    for index in wave do
      fill g index
    fillAll g fuel

/-- The values of a document. -/
def Graph.build (g : Graph) : Except Error Document := do
  let start : Building := ⟨Array.replicate g.nodes.size none, []⟩
  let ((), s) ← (do
    let _ ← buildNode g g.root false
    fillAll g (g.nodes.size + 1)).run start
  return ⟨s.values.map (·.getD .null), g.root⟩

/-- The document that a text writes, with its values. -/
def Document.ofText (t : Text) : Except Error Document := do (← Graph.ofText t).build

namespace Document

/-- The value of a number. -/
def value (d : Document) (index : Nat) : Value := (d.values[index]?).getD .null

/-- The value of a text among the members of a mapping. -/
def member? (d : Document) (name : Text) (members : List (Nat × Nat)) : Option Nat :=
  (members.find? fun m => d.value m.1 = .text name).map (·.2)

end Document

end NotebookAudit.Yaml

import NotebookAudit.Yaml.Lexer
import NotebookAudit.Yaml.Tag

/-!
Nodes: the structure of a YAML document.

A document is a graph, since an alias stands for a node that occurs elsewhere, perhaps around the
alias itself. Nodes are kept in a row and refer to each other by their numbers.
-/

namespace NotebookAudit.Yaml

/-- A node. -/
inductive Node where
  | scalar (tag : Tag) (text : Text)
  | sequence (tag : Tag) (items : List Nat)
  | mapping (tag : Tag) (pairs : List (Nat × Nat))
  deriving Repr

namespace Node

/-- The tag of a node. -/
def tag : Node → Tag
  | scalar t _ => t
  | sequence t _ => t
  | mapping t _ => t

end Node

/-- A document: its nodes, and the number of the outermost. -/
structure Graph where
  nodes : Array Node
  root : Nat

/-- What has been read of a document. -/
structure Reading where
  tokens : List Token
  /-- The fault that ends the tokens. -/
  fault : Option Error
  nodes : Array Node := #[]
  anchors : List (Text × Nat) := []
  /-- The handles of tags and what they stand for. -/
  handles : List (Text × Text) := []

/-- A step of reading. -/
abbrev ReadM := StateT Reading (Except Error)

/-! ## Tokens and nodes -/

/-- The next token. -/
def peek : ReadM Token := do
  match (← get).tokens with
  | t :: _ => return t
  | [] => throw ((← get).fault.getD .malformed)

/-- Drops the next token. -/
def drop : ReadM Unit := modify fun s => { s with tokens := s.tokens.tail }

/-- Drops the next token if it is a given one. -/
def accept (t : Token) : ReadM Bool := do
  if (← peek) = t then
    drop
    return true
  else return false

/-- Adds a node. -/
def addNode (n : Node) : ReadM Nat := do
  let s ← get
  set { s with nodes := s.nodes.push n }
  return s.nodes.size

/-- Gives a node its contents. -/
def setNode (index : Nat) (n : Node) : ReadM Unit :=
  modify fun s => { s with nodes := s.nodes.setIfInBounds index n }

/-- Adds a scalar that is not there. -/
def addEmpty : ReadM Nat := addNode (.scalar .null [])

/-! ## Properties of nodes -/

/-- An anchor in front of a node. -/
def readAnchor? : ReadM (Option Text) := do
  match ← peek with
  | .anchor name =>
    drop
    return some name
  | _ => return none

/-- A tag in front of a node, in full. -/
def readTag? : ReadM (Option Text) := do
  match ← peek with
  | .tag handle suffix =>
    drop
    match handle with
    | none => return some suffix
    | some h =>
      match (← get).handles.lookup h with
      | some start => return some (start ++ suffix)
      | none => throw .malformed
  | _ => return none

/-- The anchor and the tag in front of a node, in either order. -/
def readProperties : ReadM (Option Text × Option Text) := do
  match ← readAnchor? with
  | some name => return (some name, ← readTag?)
  | none =>
    let tag ← readTag?
    if tag.isSome then return (← readAnchor?, tag) else return (none, none)

/-- Whether a tag leaves the kind of value to the node. -/
def isOpenTag : Option Text → Bool
  | none => true
  | some t => t == [0x21]

/-- The kind of value of a collection. -/
def collectionTag (tag : Option Text) (default : Tag) : Tag :=
  if isOpenTag tag then default else (tag.map Tag.ofText).getD default

/-- The kind of value of a scalar. -/
def scalarTag (tag : Option Text) (isPlain : Bool) (t : Text) : Tag :=
  match tag with
  | none => if isPlain then Tag.ofPlain t else .text
  | some full => if full = [0x21] then Tag.ofPlain t else Tag.ofText full

/-- Keeps a node under its anchor. Two nodes have no anchor in common. -/
def keepAnchor (anchor : Option Text) (index : Nat) : ReadM Unit := do
  match anchor with
  | none => return
  | some name => modify fun s => { s with anchors := (name, index) :: s.anchors }

/-- Stops if an anchor is taken. -/
def checkAnchor (anchor : Option Text) : ReadM Unit := do
  match anchor with
  | none => return
  | some name => if ((← get).anchors.lookup name).isSome then throw .malformed

/-! ## Nodes -/

/-- How deep nodes may nest. -/
def depthLimit : Nat := 480

/-- Where a node may be a block, and where a sequence need not be indented. -/
structure Position where
  inBlock : Bool
  unindented : Bool

/-- The position of an item of a block sequence. -/
def Position.item : Position := ⟨true, false⟩

/-- The position of a key or a value of a block mapping. -/
def Position.member : Position := ⟨true, true⟩

/-- A position inside brackets. -/
def Position.inside : Position := ⟨false, false⟩

/-- Adds a collection that is still empty. -/
def openCollection (anchor : Option Text) (n : Node) : ReadM Nat := do
  checkAnchor anchor
  let index ← addNode n
  keepAnchor anchor index
  return index

/-- Whether the next token is one of some. -/
def comesOneOf (ts : List Token) : ReadM Bool := do return ts.contains (← peek)

mutual

/-- Reads a node. -/
def readNode : (fuel depth : Nat) → Position → ReadM Nat
  | 0, _, _ => throw .tooDeep
  | fuel + 1, depth, position => do
    if depthLimit < depth then throw .tooDeep
    if let .alias name ← peek then
      drop
      match (← get).anchors.lookup name with
      | some index => return index
      | none => throw .malformed
    let (anchor, tag) ← readProperties
    let t ← peek
    let listTag := collectionTag tag .list
    let dictTag := collectionTag tag .dict
    if position.unindented && t = .entry then
      let index ← openCollection anchor (.sequence listTag [])
      setNode index (.sequence listTag (← readUnindentedItems fuel (depth + 1)))
      return index
    match t with
    | .scalar isPlain text =>
      drop
      openCollection anchor (.scalar (scalarTag tag isPlain text) text)
    | .flowSequence =>
      drop
      let index ← openCollection anchor (.sequence listTag [])
      setNode index (.sequence listTag (← readFlowItems fuel (depth + 1) true))
      return index
    | .flowMapping =>
      drop
      let index ← openCollection anchor (.mapping dictTag [])
      setNode index (.mapping dictTag (← readFlowMembers fuel (depth + 1) true))
      return index
    | .blockSequence =>
      if !position.inBlock then throw .malformed
      drop
      let index ← openCollection anchor (.sequence listTag [])
      setNode index (.sequence listTag (← readItems fuel (depth + 1)))
      return index
    | .blockMapping =>
      if !position.inBlock then throw .malformed
      drop
      let index ← openCollection anchor (.mapping dictTag [])
      setNode index (.mapping dictTag (← readMembers fuel (depth + 1)))
      return index
    | _ =>
      if anchor.isSome || tag.isSome then openCollection anchor (.scalar (scalarTag tag true []) [])
      else throw .malformed

/-- Reads a node, or the empty scalar if one of some tokens comes instead. -/
def readNodeUnless : (fuel depth : Nat) → Position → List Token → ReadM Nat
  | 0, _, _, _ => throw .tooDeep
  | fuel + 1, depth, position, ends => do
    if ← comesOneOf ends then addEmpty else readNode fuel depth position

/-- Reads the items of a block sequence and its end. -/
def readItems : (fuel depth : Nat) → ReadM (List Nat)
  | 0, _ => throw .tooDeep
  | fuel + 1, depth => do
    if ← accept .entry then
      let item ← readNodeUnless fuel depth .item [.entry, .blockEnd]
      return item :: (← readItems fuel depth)
    else if ← accept .blockEnd then return []
    else throw .malformed

/-- Reads the items of a block sequence that is not indented, which ends with its last item. -/
def readUnindentedItems : (fuel depth : Nat) → ReadM (List Nat)
  | 0, _ => throw .tooDeep
  | fuel + 1, depth => do
    if ← accept .entry then
      let item ← readNodeUnless fuel depth .item [.entry, .key, .value, .blockEnd]
      return item :: (← readUnindentedItems fuel depth)
    else return []

/-- Reads the members of a block mapping and its end. -/
def readMembers : (fuel depth : Nat) → ReadM (List (Nat × Nat))
  | 0, _ => throw .tooDeep
  | fuel + 1, depth => do
    if ← accept .key then
      let ends := [.key, .value, .blockEnd]
      let k ← readNodeUnless fuel depth .member ends
      let v ← if ← accept .value then readNodeUnless fuel depth .member ends else addEmpty
      return (k, v) :: (← readMembers fuel depth)
    else if ← accept .blockEnd then return []
    else throw .malformed

/-- Reads the items of a sequence in brackets and the closing bracket. A key makes a mapping of one
member. -/
def readFlowItems : (fuel depth : Nat) → (isFirst : Bool) → ReadM (List Nat)
  | 0, _, _ => throw .tooDeep
  | fuel + 1, depth, isFirst => do
    if ← accept .flowSequenceEnd then return []
    if !isFirst then
      if !(← accept .flowEntry) then throw .malformed
    if ← accept .key then
      if depthLimit < depth then throw .tooDeep
      let index ← addNode (.mapping .dict [])
      let k ← readNodeUnless fuel (depth + 1) .inside [.value, .flowEntry, .flowSequenceEnd]
      let v ← if ← accept .value then
          readNodeUnless fuel (depth + 1) .inside [.flowEntry, .flowSequenceEnd]
        else addEmpty
      setNode index (.mapping .dict [(k, v)])
      return index :: (← readFlowItems fuel depth false)
    else if ← accept .flowSequenceEnd then return []
    else
      let item ← readNode fuel depth .inside
      return item :: (← readFlowItems fuel depth false)

/-- Reads the members of a mapping in braces and the closing brace. -/
def readFlowMembers : (fuel depth : Nat) → (isFirst : Bool) → ReadM (List (Nat × Nat))
  | 0, _, _ => throw .tooDeep
  | fuel + 1, depth, isFirst => do
    if ← accept .flowMappingEnd then return []
    if !isFirst then
      if !(← accept .flowEntry) then throw .malformed
    if ← accept .key then
      let k ← readNodeUnless fuel depth .inside [.value, .flowEntry, .flowMappingEnd]
      let v ← if ← accept .value then
          readNodeUnless fuel depth .inside [.flowEntry, .flowMappingEnd]
        else addEmpty
      return (k, v) :: (← readFlowMembers fuel depth false)
    else if ← accept .flowMappingEnd then return []
    else
      let k ← readNode fuel depth .inside
      return (k, ← addEmpty) :: (← readFlowMembers fuel depth false)

end

/-! ## Documents -/

/-- The handles of tags that need no directive. -/
def defaultHandles : List (Text × Text) := [([0x21], [0x21]), ([0x21, 0x21], standardStart)]

/-- Reads directives. There is one version at most, which begins with one, and one tag directive at
most for each handle. -/
def readDirectives (versionSeen : Bool) : (fuel : Nat) → ReadM Unit
  | 0 => return
  | fuel + 1 => do
    match ← peek with
    | .directive d =>
      drop
      match d with
      | .version major _ =>
        if versionSeen || major != 1 then throw .malformed
        readDirectives true fuel
      | .tag handle start =>
        if ((← get).handles.lookup handle).isSome then throw .malformed
        modify fun s => { s with handles := (handle, start) :: s.handles }
        readDirectives versionSeen fuel
      | .unknown => readDirectives versionSeen fuel
    | _ => return

/-- Drops the ends of documents. -/
def dropEnds : (fuel : Nat) → ReadM Unit
  | 0 => return
  | fuel + 1 => do if ← accept .documentEnd then dropEnds fuel

/-- Whether a token is a directive. -/
def Token.isDirective : Token → Bool
  | .directive _ => true
  | _ => false

/-- Reads the outermost node of a document, with its directives and its start. -/
def readRoot (fuel : Nat) : ReadM Nat := do
  let t ← peek
  if t = .streamEnd then addEmpty
  else if t.isDirective || t = .documentStart then
    readDirectives false fuel
    modify fun s => { s with handles := s.handles ++ defaultHandles }
    if !(← accept .documentStart) then throw .malformed
    if (← peek).isDirective then addEmpty
    else readNodeUnless fuel 0 .item [.documentStart, .documentEnd, .streamEnd]
  else
    modify fun s => { s with handles := defaultHandles }
    readNode fuel 0 .item

/-- Reads the only document of a text. A text without one is an empty scalar. -/
def readDocument (fuel : Nat) : ReadM Graph := do
  let root ← readRoot fuel
  dropEnds fuel
  if !(← accept .streamEnd) then throw .malformed
  return ⟨(← get).nodes, root⟩

/-- The document that a text writes. -/
def Graph.ofText (t : Text) : Except Error Graph :=
  let (tokens, fault) := scan t
  (readDocument (4 * tokens.length + 8)).run' { tokens, fault }

end NotebookAudit.Yaml

import NotebookAudit.Proofs.Json.Writing
import NotebookAudit.Proofs.Notebook.Format

/-!
Notebooks that are written and read back.

`Notebook.toJson` is the notebook file of a notebook: an object with one entry for each cell, whose
lines end in any of the three ways (`Notebook.LineEnding`). However its JSON is written and encoded,
it is read back as the notebook (`Content.read_toJson`).
-/

namespace NotebookAudit

variable {n : Notebook} {c : Cell} {line : Text}

/-! ## Line endings -/

namespace Notebook

/-- How a line of a source ends. -/
inductive LineEnding where
  | none
  | lineFeed
  | returnAndFeed
  deriving Repr, DecidableEq

/-- The characters of a line ending. -/
def LineEnding.text : LineEnding → Text
  | none => []
  | lineFeed => [0x0a]
  | returnAndFeed => [0x0d, 0x0a]

/-- A line of scalar values that ends neither in a carriage return nor in a line feed. -/
structure IsLine (line : Text) : Prop where
  encodable : Utf8.IsEncodable line
  noEnding : ∀ c ∈ line.getLast?, c ≠ 0x0d ∧ c ≠ 0x0a

/-- A line ending is dropped, and nothing else. -/
theorem dropLineEnding_append (isLine : IsLine line) (ending : LineEnding) :
    dropLineEnding (line ++ ending.text) = line := by
  have last (before : Text) (c : CodePoint) (ends : before ++ [c] = line) : c ≠ 0x0d ∧ c ≠ 0x0a :=
    isLine.noEnding c (by rw [← ends, List.getLast?_concat]; rfl)
  unfold dropLineEnding Text.endsWith
  simp only [List.isSuffixOf_iff_suffix]
  cases ending with
  | none =>
      rw [LineEnding.text, List.append_nil, if_neg, if_neg]
      · rintro ⟨before, ends⟩
        exact (last before 0x0a ends).2 rfl
      · rintro ⟨before, ends⟩
        exact (last (before ++ [0x0d]) 0x0a ((List.append_assoc _ _ _).trans ends)).2 rfl
  | lineFeed =>
      rw [LineEnding.text, if_neg, if_pos (List.suffix_append _ _)]
      · rw [List.length_append, List.length_singleton, Nat.add_sub_cancel, List.take_left]
      · rintro ⟨before, ends⟩
        have whole : before ++ [0x0d] ++ [0x0a] = line ++ [0x0a] :=
          (List.append_assoc _ _ _).trans ends
        exact (last before 0x0d (List.append_cancel_right whole)).1 rfl
  | returnAndFeed =>
      rw [LineEnding.text, if_pos (List.suffix_append _ _)]
      exact List.take_left' (by simp)

/-! ## Notebook files -/

/-- The lines of a source, which end as they are told by their indices. -/
def endLines (ending : Nat → LineEnding) (lines : List Text) : List Text :=
  lines.mapIdx fun i line => line ++ (ending i).text

/-- The entry of a cell, whose lines end as they are told by their indices. -/
def entryJson (ending : Nat → LineEnding) (c : Cell) : Json :=
  .object [("cell_type", .text c.kind.name),
    ("source", .array ((endLines ending c.lines).map .text))]

/-- The notebook file of a notebook, whose lines end as they are told by their places. -/
def toJson (ending : Nat → Nat → LineEnding) (n : Notebook) : Json :=
  .object [("cells", .array (n.cells.mapIdx fun i c => entryJson (ending i) c))]

/-- The name of a kind stands for the kind. -/
theorem kindMember_name (k : CellKind) : KindMember (some (.text k.name)) k := by
  cases k with
  | unknown => exact .other fun k isKnown same => isKnown (name_injective same).symm
  | _ => exact .known (by decide)

theorem dropLineEnding_endLines {lines : List Text} (isLine : ∀ line ∈ lines, IsLine line)
    (ending : Nat → LineEnding) : (endLines ending lines).map dropLineEnding = lines := by
  refine List.ext_getElem (by rw [endLines, List.length_map, List.length_mapIdx]) ?_
  intro i _ inRange
  simp only [endLines, List.getElem_map, List.getElem_mapIdx]
  exact dropLineEnding_append (isLine _ (List.getElem_mem inRange)) (ending i)

theorem entry_entryJson (isLine : ∀ line ∈ c.lines, IsLine line) (ending : Nat → LineEnding) :
    Entry (entryJson ending c) c := by
  have source := SourceMember.lines (endLines ending c.lines)
  rw [dropLineEnding_endLines isLine] at source
  exact .object (kindMember_name c.kind) source

/-- The notebook file of a notebook describes it. -/
theorem ofJson_toJson (isLine : ∀ c ∈ n.cells, ∀ line ∈ c.lines, IsLine line)
    (ending : Nat → Nat → LineEnding) : ofJson (n.toJson ending) = .ok n := by
  refine ofJson_eq_ok_iff.mpr ⟨_, .array _, ?_⟩
  refine List.forall₂_iff_get.mpr ⟨List.length_mapIdx, fun i _ inRange => ?_⟩
  rw [List.get_eq_getElem, List.get_eq_getElem, List.getElem_mapIdx]
  exact entry_entryJson (isLine _ (List.getElem_mem inRange)) (ending i)

theorem writable_endLines {lines : List Text} (isLine : ∀ line ∈ lines, IsLine line)
    (ending : Nat → LineEnding) (asciiOnly : Bool) (depth : Nat) :
    Json.Writable asciiOnly (depth + 1) (.array ((endLines ending lines).map .text)) := by
  have endings (ending : LineEnding) : Utf8.IsEncodable ending.text := by
    cases ending <;> decide
  refine .array fun v member => ?_
  obtain ⟨t, inLines, rfl⟩ := List.mem_map.mp member
  obtain ⟨i, inRange, rfl⟩ := List.mem_mapIdx.mp inLines
  have encodable := (isLine _ (List.getElem_mem inRange)).encodable
  exact .text (.of_isEncodable (List.forall_mem_append.mpr ⟨encodable, endings (ending i)⟩))

theorem writable_entryJson (isLine : ∀ line ∈ c.lines, IsLine line) (ending : Nat → LineEnding)
    (asciiOnly : Bool) (depth : Nat) :
    Json.Writable asciiOnly (depth + 2) (entryJson ending c) := by
  have kindName : Utf8.IsEncodable c.kind.name := by
    cases c.kind <;> decide
  have first : Utf8.IsEncodable "cell_type" := by decide
  have second : Utf8.IsEncodable "source" := by decide
  refine .object ?_ ?_ ?_
  · show ([Text.ofString "cell_type", Text.ofString "source"]).Nodup
    decide
  · exact List.forall_mem_cons.mpr ⟨.of_isEncodable first,
      List.forall_mem_singleton.mpr (.of_isEncodable second)⟩
  · exact List.forall_mem_cons.mpr ⟨.text (.of_isEncodable kindName),
      List.forall_mem_singleton.mpr (writable_endLines isLine ending asciiOnly depth)⟩

/-- The notebook file of a notebook can be written in every style. -/
theorem writable_toJson (isLine : ∀ c ∈ n.cells, ∀ line ∈ c.lines, IsLine line)
    (ending : Nat → Nat → LineEnding) (asciiOnly : Bool) :
    Json.Writable asciiOnly Json.depthLimit (n.toJson ending) := by
  have encodable : Utf8.IsEncodable "cells" := by decide
  refine .object (List.nodup_singleton _) (List.forall_mem_singleton.mpr (.of_isEncodable encodable))
    (List.forall_mem_singleton.mpr (.array fun v member => ?_))
  obtain ⟨i, inRange, rfl⟩ := List.mem_mapIdx.mp member
  exact writable_entryJson (isLine _ (List.getElem_mem inRange)) (ending i) asciiOnly _

end Notebook

/-! ## Reading what is written -/

/-- A notebook whose lines are scalar values and end neither in a carriage return nor in a line feed
is read back from its notebook file, whatever the line endings are, however the JSON is spelled and
with or without a byte order mark. In particular it is read back from what is written in any style,
with the characters outside ASCII escaped or as they are. -/
theorem Content.read_toJson {name : Text} (isNotebook : FileName.isNotebook name = true)
    (isLine : ∀ c ∈ n.cells, ∀ line ∈ c.lines, Notebook.IsLine line)
    (ending : Nat → Nat → Notebook.LineEnding) :
    (∀ bytes, Utf8.EncodesJson bytes (n.toJson ending) → read name (.bytes bytes) = .ok n) ∧
    ∀ s : Json.Style,
      read name (.bytes (Utf8.encode (Json.write s (n.toJson ending)))) = .ok n ∧
      read name (.bytes (Utf8.byteOrderMark ++ Utf8.encode (Json.write s (n.toJson ending)))) =
        .ok n := by
  have spelled (bytes : Bytes) (encodes : Utf8.EncodesJson bytes (n.toJson ending)) :
      read name (.bytes bytes) = .ok n := by
    rw [read_of_encodesJson isNotebook encodes, Notebook.ofJson_toJson isLine]
    rfl
  refine ⟨spelled, fun s => ?_⟩
  have writable := Notebook.writable_toJson isLine ending s.asciiOnly
  have encodable := Json.isEncodable_write writable
  have document := Json.document_write writable
  exact ⟨spelled _ ⟨_, ⟨encodable, .inl rfl⟩, document⟩,
    spelled _ ⟨_, ⟨encodable, .inr rfl⟩, document⟩⟩

/-- Two cells with an empty line, a line with a line feed inside, and a line with a character beyond
the first plane. -/
def astralNotebook : Notebook :=
  ⟨[⟨.markdown, ["Ñandú", []]⟩, ⟨.code, [[0x78, 0x0a, 0x79], [0x1f600]]⟩]⟩

/-- A character beyond the first plane is read back from its surrogate pair, after a byte order mark
and in front of a line ending. -/
theorem Content.read_toJson_astralLine :
    FileName.isNotebook "a.ipynb" = true ∧
      (∀ c ∈ astralNotebook.cells, ∀ line ∈ c.lines, Notebook.IsLine line) ∧
      read "a.ipynb" (.bytes (Utf8.byteOrderMark ++
        Utf8.encode (Json.write .file (astralNotebook.toJson fun i j =>
          if i = j then .returnAndFeed else .none)))) = .ok astralNotebook := by
  have isNotebook : FileName.isNotebook "a.ipynb" = true := by decide
  have isLine : ∀ c ∈ astralNotebook.cells, ∀ line ∈ c.lines, Notebook.IsLine line := by
    have each : ∀ c ∈ astralNotebook.cells, ∀ line ∈ c.lines,
        Utf8.IsEncodable line ∧ ∀ c ∈ line.getLast?, c ≠ 0x0d ∧ c ≠ 0x0a := by
      decide +kernel
    exact fun c inCells line inLines => ⟨(each c inCells line inLines).1, (each c inCells line inLines).2⟩
  exact ⟨isNotebook, isLine, ((read_toJson isNotebook isLine _).2 .file).2⟩

end NotebookAudit

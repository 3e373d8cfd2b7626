import NotebookAudit.Notebook.Document
import NotebookAudit.Proofs.Result

/-!
What JSON values are notebooks.

`Notebook.Entry` says which values are cells and of which cell each of them is the entry, by the
members `cell_type` and `source` alone, and `Notebook.Entries` which values the entries of a notebook
are in. A root is read as a notebook exactly if its entries are entries of the notebook's cells, in
order (`Notebook.ofJson_eq_ok_iff`). The first entry that is no cell's is the one whose number the
message of the error gives (`Notebook.ofJson_of_bad_entry`).
-/

namespace NotebookAudit.Notebook

variable {index : Nat} {v : Json} {c : Cell} {members members' : List (Text × Json)}

/-! ## The schema -/

/-- The member `cell_type` of an entry, and the kind that it stands for. -/
inductive KindMember : Option Json → CellKind → Prop
  | absent : KindMember none .unknown
  | null : KindMember (some .null) .unknown
  | known {k : CellKind} (isKnown : k ≠ .unknown) : KindMember (some (.text k.name)) k
  | other {t : Text} (noName : ∀ k : CellKind, k ≠ .unknown → t ≠ k.name) :
    KindMember (some (.text t)) .unknown

/-- The member `source` of an entry, and the lines that it holds. -/
inductive SourceMember : Option Json → List Text → Prop
  | absent : SourceMember none []
  | null : SourceMember (some .null) []
  | emptyText : SourceMember (some (.text [])) []
  | text {t : Text} (nonempty : t ≠ []) : SourceMember (some (.text t)) t.lines
  | lines (lines : List Text) :
    SourceMember (some (.array (lines.map .text))) (lines.map dropLineEnding)

/-- The value is an entry of the cell. -/
inductive Entry : Json → Cell → Prop
  | object {members : List (Text × Json)} {kind : CellKind} {lines : List Text}
    (isKind : KindMember (Json.member? "cell_type" members) kind)
    (isSource : SourceMember (Json.member? "source" members) lines) :
    Entry (.object members) ⟨kind, lines⟩

/-- The value is an entry of some cell. -/
def IsEntry (v : Json) : Prop := ∃ c, Entry v c

/-- The member `cells` of a root, and the entries that it holds. -/
inductive Entries : Option Json → List Json → Prop
  | absent : Entries none []
  | null : Entries (some .null) []
  | array (items : List Json) : Entries (some (.array items)) items

/-- Two entries do not differ in the members that a cell is made of. -/
inductive SameEntry : Json → Json → Prop
  | refl (v : Json) : SameEntry v v
  | object {members members' : List (Text × Json)}
    (sameKind : Json.member? "cell_type" members = Json.member? "cell_type" members')
    (sameSource : Json.member? "source" members = Json.member? "source" members') :
    SameEntry (.object members) (.object members')

/-- Two members `cells` do not differ in what the notebook is made of. -/
inductive SameCells : Option Json → Option Json → Prop
  | refl (m : Option Json) : SameCells m m
  | array {items items' : List Json} (each : List.Forall₂ SameEntry items items') :
    SameCells (some (.array items)) (some (.array items'))

/-! ## Cells -/

/-- The kind of a name stands for the name. -/
theorem kindMember_ofName (t : Text) : KindMember (some (.text t)) (CellKind.ofName (some t)) := by
  rw [CellKind.ofName]
  cases found : [CellKind.code, .markdown, .raw].find? fun k => some t = some k.name with
  | none =>
      rw [List.find?_eq_none] at found
      refine .other fun k isKnown same => ?_
      have member : k ∈ [CellKind.code, .markdown, .raw] := by
        cases k with
        | code => decide
        | markdown => decide
        | raw => decide
        | unknown => exact absurd rfl isKnown
      exact found k member (by simp [same])
  | some k =>
      have same : t = k.name := by simpa using List.find?_some found
      have isKnown : k ≠ .unknown := by
        rintro rfl
        exact absurd (List.mem_of_find?_eq_some found) (by decide)
      rw [same]
      exact .known isKnown

theorem name_injective {k l : CellKind} (same : k.name = l.name) : k = l := by
  revert same
  cases k <;> cases l <;> decide

/-- A member `cell_type` stands for one kind. -/
theorem KindMember.unique {m : Option Json} {k l : CellKind} (one : KindMember m k)
    (other : KindMember m l) : k = l := by
  generalize same : m = m' at other
  cases one with
  | absent =>
      cases other <;> cases same
      rfl
  | null =>
      cases other <;> cases same
      rfl
  | @known k isKnown =>
      cases other with
      | absent => cases same
      | null => cases same
      | known _ => exact name_injective (Json.text.inj (Option.some.inj same))
      | other noName => exact absurd (Json.text.inj (Option.some.inj same)).symm (noName k isKnown)
  | @other t noName =>
      cases other with
      | absent => cases same
      | null => cases same
      | @known l isKnown => exact absurd (Json.text.inj (Option.some.inj same)) (noName l isKnown)
      | other _ => rfl

/-- The items of a source are its lines with their line endings. -/
theorem readSource_array_eq_ok_iff {items : List Json} {lines : List Text} :
    readSource index (.array items) = .ok lines ↔
      ∃ texts : List Text, items = texts.map .text ∧ lines = texts.map dropLineEnding := by
  rw [readSource, mapM_eq_ok_iff]
  constructor
  · intro images
    induction images with
    | nil => exact ⟨[], rfl, rfl⟩
    | @cons item line items lines image _ ih =>
        obtain ⟨texts, rfl, rfl⟩ := ih
        cases item with
        | text t => exact ⟨t :: texts, rfl, by rw [← Except.ok.inj image]; rfl⟩
        | _ => cases image
  · intro both
    obtain ⟨texts, rfl, rfl⟩ := both
    induction texts with
    | nil => exact .nil
    | cons t texts ih => exact .cons rfl ih

/-- A source that is absent counts as null. -/
theorem readSource_eq_ok_iff {m : Option Json} {lines : List Text} :
    readSource index (m.getD .null) = .ok lines ↔ SourceMember m lines := by
  constructor
  · intro read
    cases m with
    | none =>
        cases read
        exact .absent
    | some v =>
        cases v with
        | null =>
            cases read
            exact .null
        | text t =>
            cases t with
            | nil =>
                cases read
                exact .emptyText
            | cons d t =>
                cases read
                exact .text (List.cons_ne_nil d t)
        | array items =>
            obtain ⟨texts, rfl, rfl⟩ := readSource_array_eq_ok_iff.mp read
            exact .lines texts
        | _ => cases read
  · intro isSource
    cases isSource with
    | absent => rfl
    | null => rfl
    | emptyText => rfl
    | @text t nonempty =>
        cases t with
        | nil => exact absurd rfl nonempty
        | cons d t => rfl
    | lines texts => exact readSource_array_eq_ok_iff.mpr ⟨texts, rfl, rfl⟩

/-- The kind of an entry with these members. -/
def readKind (index : Nat) (members : List (Text × Json)) : Except FormatError CellKind :=
  match Json.member? "cell_type" members with
  | none | some .null => .ok .unknown
  | some (.text t) => .ok (CellKind.ofName (some t))
  | some _ => .error (.cellType index)

theorem readCell_object :
    readCell index (.object members) = readKind index members >>= fun kind =>
      readSource index ((Json.member? "source" members).getD .null) >>= fun lines =>
        .ok ⟨kind, lines⟩ := by
  rw [readCell, readKind]
  cases Json.member? "cell_type" members with
  | none => rfl
  | some v => cases v <;> rfl

theorem readKind_eq_ok_iff {k : CellKind} :
    readKind index members = .ok k ↔ KindMember (Json.member? "cell_type" members) k := by
  rw [readKind]
  split
  next absent =>
    rw [absent]
    exact ⟨fun read => by cases read; exact .absent, fun isKind => by rw [isKind.unique .absent]⟩
  next null =>
    rw [null]
    exact ⟨fun read => by cases read; exact .null, fun isKind => by rw [isKind.unique .null]⟩
  next t text =>
    rw [text]
    constructor
    · intro read
      cases read
      exact kindMember_ofName t
    · intro isKind
      rw [isKind.unique (kindMember_ofName t)]
  next v notNull notText given =>
    rw [given]
    constructor
    · intro read
      cases read
    · intro isKind
      cases isKind with
      | null => exact absurd rfl notNull
      | known _ => exact absurd rfl (notText _)
      | other _ => exact absurd rfl (notText _)

/-- A value is read as the cell that it is an entry of. -/
theorem readCell_eq_ok_iff : readCell index v = .ok c ↔ Entry v c := by
  constructor
  · intro read
    cases v with
    | object members =>
        rw [readCell_object, bind_eq_ok_iff] at read
        obtain ⟨kind, readKind, read⟩ := read
        obtain ⟨lines, readLines, read⟩ := bind_eq_ok_iff.mp read
        cases read
        exact .object (readKind_eq_ok_iff.mp readKind) (readSource_eq_ok_iff.mp readLines)
    | _ => cases read
  · intro isEntry
    cases isEntry with
    | object isKind isSource =>
        rw [readCell_object, bind_eq_ok_iff]
        refine ⟨_, readKind_eq_ok_iff.mpr isKind, ?_⟩
        exact bind_eq_ok_iff.mpr ⟨_, readSource_eq_ok_iff.mpr isSource, rfl⟩

/-- Nothing of an entry but its kind and its source is read. -/
theorem readCell_of_same {w : Json} (same : SameEntry v w) : readCell index v = readCell index w := by
  cases same with
  | refl => rfl
  | object sameKind sameSource =>
      rw [readCell_object, readCell_object, readKind, readKind, sameKind, sameSource]

/-- The error of a source is about the cell of the index. -/
theorem readSource_error {e : FormatError} (failed : readSource index v = .error e) :
    e = .source index ∨ e = .sourceItem index := by
  cases v with
  | null => cases failed
  | text t => cases failed
  | array items =>
      rw [readSource] at failed
      induction items with
      | nil => cases failed
      | cons item items ih =>
          rw [List.mapM_cons, bind_eq_error_iff] at failed
          rcases failed with failed | ⟨_, -, failed⟩
          · cases item with
            | text t => cases failed
            | _ => exact .inr (Except.error.inj failed).symm
          · rcases bind_eq_error_iff.mp failed with failed | ⟨_, -, failed⟩
            · exact ih failed
            · cases failed
  | _ => exact .inl (Except.error.inj failed).symm

/-- The message is about the cell of the index, which it counts from one. -/
def IsAboutCell (index : Nat) (e : FormatError) : Prop :=
  (Text.ofString "Cell " ++ Text.ofNat (index + 1) ++ Text.ofString " ") <+: e.message

theorem isAboutCell_of_message {e : FormatError} {rest : Text}
    (message : e.message = "Cell " ++ Text.ofNat (index + 1) ++ 0x20 :: rest) :
    IsAboutCell index e := by
  refine ⟨rest, ?_⟩
  rw [message, List.append_assoc]
  rfl

theorem isAboutCell_cell (index : Nat) (kind : Text) : IsAboutCell index (.cell index kind) := by
  have message : (FormatError.cell index kind).message = Text.ofString "Cell " ++
      Text.ofNat (index + 1) ++ 0x20 :: (Text.ofString "must be a JSON object, got " ++ kind) := by
    dsimp only [FormatError.message]
    rw [List.append_assoc]
    rfl
  exact isAboutCell_of_message message

/-- The error of an entry that is not read is about the entry. -/
theorem readCell_error {e : FormatError} (failed : readCell index v = .error e) :
    IsAboutCell index e := by
  cases v with
  | object members =>
      rw [readCell_object, bind_eq_error_iff] at failed
      rcases failed with failed | ⟨_, -, failed⟩
      · rw [readKind] at failed
        split at failed <;> cases failed
        exact isAboutCell_of_message rfl
      · rcases bind_eq_error_iff.mp failed with failed | ⟨_, -, failed⟩
        · rcases readSource_error failed with rfl | rfl
          · exact isAboutCell_of_message rfl
          · exact isAboutCell_of_message rfl
        · cases failed
  | _ =>
      cases failed
      exact isAboutCell_cell _ _

/-! ## Notebooks -/

/-- The cells of entries, of which the first has the index `start`. -/
def readCells (start : Nat) (items : List Json) : Except FormatError (List Cell) :=
  (items.zipIdx start).mapM fun p => readCell p.2 p.1

/-- Entries are read as their cells, one for each, in order. -/
theorem readCells_eq_ok_iff {start : Nat} {items : List Json} {cells : List Cell} :
    readCells start items = .ok cells ↔ List.Forall₂ Entry items cells := by
  have values : items = (items.zipIdx start).map Prod.fst := (List.zipIdx_map_fst start items).symm
  rw [readCells, mapM_eq_ok_iff]
  conv => rhs; rw [values, List.forall₂_map_left_iff]
  simp only [readCell_eq_ok_iff]

theorem readCells_of_same {items items' : List Json} (same : List.Forall₂ SameEntry items items')
    (start : Nat) : readCells start items = readCells start items' := by
  induction same generalizing start with
  | nil => rfl
  | @cons v w items items' sameEntry _ ih =>
      have others := ih (start + 1)
      rw [readCells, readCells] at others ⊢
      rw [List.zipIdx_cons, List.zipIdx_cons, List.mapM_cons, List.mapM_cons, others,
        readCell_of_same sameEntry]

/-- The first value that is no entry is the one that the error is about. -/
theorem readCells_of_bad_entry {before after : List Json} (entries : ∀ w ∈ before, IsEntry w)
    (bad : ¬ IsEntry v) :
    ∃ e, readCells 0 (before ++ v :: after) = .error e ∧ IsAboutCell before.length e := by
  cases read : readCell before.length v with
  | ok c => exact absurd ⟨c, readCell_eq_ok_iff.mp read⟩ bad
  | error e =>
      refine ⟨e, ?_, readCell_error read⟩
      have succeeds : ∀ p ∈ before.zipIdx, ∃ c, readCell p.2 p.1 = .ok c := by
        intro p member
        obtain ⟨c, isEntry⟩ := entries p.1 (List.fst_mem_of_mem_zipIdx member)
        exact ⟨c, readCell_eq_ok_iff.mpr isEntry⟩
      rw [readCells, List.zipIdx_append, List.zipIdx_cons, Nat.zero_add]
      exact mapM_eq_error succeeds read

theorem ofJson_array {items : List Json}
    (given : Json.member? "cells" members = some (.array items)) :
    ofJson (.object members) = readCells 0 items >>= fun cells => .ok ⟨cells⟩ := by
  rw [ofJson, given]
  rfl

/-- A root is read as the notebook whose cells its entries are of. -/
theorem ofJson_eq_ok_iff {n : Notebook} :
    ofJson (.object members) = .ok n ↔
      ∃ items, Entries (Json.member? "cells" members) items ∧ List.Forall₂ Entry items n.cells := by
  constructor
  · intro read
    cases given : Json.member? "cells" members with
    | none =>
        rw [ofJson, given] at read
        cases read
        exact ⟨[], .absent, .nil⟩
    | some v =>
        cases v with
        | null =>
            rw [ofJson, given] at read
            cases read
            exact ⟨[], .null, .nil⟩
        | array items =>
            rw [ofJson_array given, bind_eq_ok_iff] at read
            obtain ⟨cells, read, whole⟩ := read
            cases whole
            exact ⟨items, .array items, readCells_eq_ok_iff.mp read⟩
        | _ =>
            rw [ofJson, given] at read
            cases read
  · intro described
    obtain ⟨items, entries, cells⟩ := described
    obtain ⟨all⟩ := n
    generalize given : Json.member? "cells" members = m at entries
    cases entries with
    | absent =>
        cases cells
        rw [ofJson, given]
    | null =>
        cases cells
        rw [ofJson, given]
    | array items =>
        rw [ofJson_array given, bind_eq_ok_iff]
        exact ⟨all, readCells_eq_ok_iff.mpr cells, rfl⟩

/-- Nothing of a root but its cells is read, and nothing of an entry but its kind and its source. -/
theorem ofJson_of_same
    (same : SameCells (Json.member? "cells" members) (Json.member? "cells" members')) :
    ofJson (.object members) = ofJson (.object members') := by
  generalize given : Json.member? "cells" members = m at same
  generalize given' : Json.member? "cells" members' = m' at same
  cases same with
  | refl => rw [ofJson, ofJson, given, given']
  | array each => rw [ofJson_array given, ofJson_array given', readCells_of_same each]

/-- If a value among the cells is no entry, the error is about the first such value. -/
theorem ofJson_of_bad_entry {before after : List Json}
    (given : Json.member? "cells" members = some (.array (before ++ v :: after)))
    (entries : ∀ w ∈ before, IsEntry w) (bad : ¬ IsEntry v) :
    ∃ e, ofJson (.object members) = .error e ∧ IsAboutCell before.length e := by
  obtain ⟨e, failed, isAbout⟩ := readCells_of_bad_entry entries bad
  refine ⟨e, ?_, isAbout⟩
  rw [ofJson_array given, failed]
  rfl

end NotebookAudit.Notebook

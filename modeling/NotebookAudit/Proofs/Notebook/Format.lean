import Mathlib.Data.List.Permutation
import NotebookAudit.Proofs.Json.Completeness
import NotebookAudit.Proofs.Notebook.Schema
import NotebookAudit.Proofs.Text.Utf8

/-!
What bytes are notebook files.

A notebook file is UTF-8 with at most one byte order mark in front, the text is one JSON value, the
value is an object, and its cells are entries (`Content.read_notebookFile`). Every other byte string
is refused with a format error; which entry is the first bad one decides which cell the message is
about.
-/

namespace NotebookAudit

variable {bytes bytes' : Bytes} {t t' : Text} {members : List (Text × Json)} {v : Json}

/-- The bytes encode a text, perhaps after a byte order mark, that spells the value in JSON. -/
def Utf8.EncodesJson (bytes : Bytes) (v : Json) : Prop :=
  ∃ t, Utf8.Encodes bytes t ∧ Json.Document t v

namespace Notebook

/-- The bytes are decoded and read as the value that they encode in JSON. -/
theorem encodesJson_iff : Utf8.EncodesJson bytes v ↔
    ∃ t, Utf8.decode (Utf8.dropMark bytes) = .ok t ∧ Json.read t = .ok v := by
  constructor
  · intro encodes
    obtain ⟨t, encodes, document⟩ := encodes
    have dropped := (Utf8.dropMark_eq_encode_iff encodes.1 document.head_ne).mpr encodes
    exact ⟨t, Utf8.decode_eq_ok_iff.mpr ⟨encodes.1, dropped.symm⟩, Json.read_eq_ok_iff.mpr document⟩
  · intro both
    obtain ⟨t, decoded, read⟩ := both
    obtain ⟨encodable, same⟩ := Utf8.decode_eq_ok_iff.mp decoded
    have document := Json.read_eq_ok_iff.mp read
    exact ⟨t, (Utf8.dropMark_eq_encode_iff encodable document.head_ne).mp same.symm, document⟩

theorem ofBytes_of_decode (decoded : Utf8.decode (Utf8.dropMark bytes) = .ok t) :
    ofBytes true bytes = ofText t := by
  rw [ofBytes, if_pos rfl, decoded]

theorem ofBytes_of_encodesJson (encodes : Utf8.EncodesJson bytes v) :
    ofBytes true bytes = ofJson v := by
  obtain ⟨t, decoded, read⟩ := encodesJson_iff.mp encodes
  rw [ofBytes_of_decode decoded, ofText, read]

/-- Only bytes that encode a JSON object are read as a notebook file. -/
theorem ofBytes_eq_ok_iff {n : Notebook} :
    ofBytes true bytes = .ok n ↔
      ∃ members, Utf8.EncodesJson bytes (.object members) ∧ ofJson (.object members) = .ok n := by
  constructor
  · intro read
    cases decoded : Utf8.decode (Utf8.dropMark bytes) with
    | error fault =>
        rw [ofBytes, if_pos rfl, decoded] at read
        cases read
    | ok t =>
        rw [ofBytes_of_decode decoded] at read
        cases value : Json.read t with
        | error fault =>
            rw [ofText, value] at read
            cases read
        | ok v =>
            have encodes : Utf8.EncodesJson bytes v := encodesJson_iff.mpr ⟨t, decoded, value⟩
            rw [ofText, value] at read
            cases v with
            | object members => exact ⟨members, encodes, read⟩
            | _ => cases read
  · intro described
    obtain ⟨members, encodes, read⟩ := described
    rw [ofBytes_of_encodesJson encodes, read]

/-- Bytes are read as a notebook file exactly if they encode a JSON object whose cells are entries. -/
theorem exists_ofBytes_eq_ok_iff :
    (∃ n, ofBytes true bytes = .ok n) ↔
      ∃ members items, Utf8.EncodesJson bytes (.object members) ∧
        Entries (Json.member? "cells" members) items ∧ ∀ v ∈ items, IsEntry v := by
  simp only [IsEntry, forall_exists_iff_forall₂]
  constructor
  · intro accepted
    obtain ⟨n, read⟩ := accepted
    obtain ⟨members, encodes, read⟩ := ofBytes_eq_ok_iff.mp read
    obtain ⟨items, entries, cells⟩ := ofJson_eq_ok_iff.mp read
    exact ⟨members, items, encodes, entries, n.cells, cells⟩
  · intro described
    obtain ⟨members, items, encodes, entries, cells, each⟩ := described
    have read : ofJson (.object members) = .ok ⟨cells⟩ :=
      ofJson_eq_ok_iff.mpr ⟨items, entries, each⟩
    exact ⟨⟨cells⟩, ofBytes_eq_ok_iff.mpr ⟨members, encodes, read⟩⟩

end Notebook

namespace Content

variable {name name' : Text}

theorem read_bytes (isNotebook : FileName.isNotebook name = true) (bytes : Bytes) :
    read name (.bytes bytes) = (Notebook.ofBytes true bytes).mapError .format := by
  rw [read, isNotebook]

theorem read_eq_ok_iff (isNotebook : FileName.isNotebook name = true) {n : Notebook} :
    read name (.bytes bytes) = .ok n ↔ Notebook.ofBytes true bytes = .ok n := by
  rw [read_bytes isNotebook, mapError_eq_ok_iff]

theorem read_of_encodesJson (isNotebook : FileName.isNotebook name = true)
    (encodes : Utf8.EncodesJson bytes v) :
    read name (.bytes bytes) = (Notebook.ofJson v).mapError .format := by
  rw [read_bytes isNotebook, Notebook.ofBytes_of_encodesJson encodes]

/-- A file with the name of a notebook is read or refused with a format error. It is read exactly if
it is UTF-8, with at most one byte order mark in front, for a JSON object whose cells are entries; the
notebook then has the cell of each entry, in order. What else the object and the entries hold does not
matter. If the cells are given but not all of them are entries, the error is about the first that is
none. -/
theorem read_notebookFile (isNotebook : FileName.isNotebook name = true) (bytes : Bytes) :
    ((∃ n, read name (.bytes bytes) = .ok n) ∨
      ∃ e, read name (.bytes bytes) = .error (.format e)) ∧
    ((∃ n, read name (.bytes bytes) = .ok n) ↔
      ∃ members items, Utf8.EncodesJson bytes (.object members) ∧
        Notebook.Entries (Json.member? "cells" members) items ∧
        ∀ v ∈ items, Notebook.IsEntry v) ∧
    ∀ members, Utf8.EncodesJson bytes (.object members) →
      (∀ n, read name (.bytes bytes) = .ok n →
        ∃ items, Notebook.Entries (Json.member? "cells" members) items ∧
          List.Forall₂ Notebook.Entry items n.cells) ∧
      (∀ name' bytes' members', FileName.isNotebook name' = true →
        Utf8.EncodesJson bytes' (.object members') →
        Notebook.SameCells (Json.member? "cells" members) (Json.member? "cells" members') →
        read name' (.bytes bytes') = read name (.bytes bytes)) ∧
      ∀ before v after, Json.member? "cells" members = some (.array (before ++ v :: after)) →
        (∀ w ∈ before, Notebook.IsEntry w) → ¬ Notebook.IsEntry v →
        ∃ e, read name (.bytes bytes) = .error (.format e) ∧
          Notebook.IsAboutCell before.length e := by
  refine ⟨?_, ?_, fun members encodes => ⟨fun n accepted => ?_, ?_, ?_⟩⟩
  · rw [read_bytes isNotebook]
    cases Notebook.ofBytes true bytes with
    | ok n => exact .inl ⟨n, rfl⟩
    | error e => exact .inr ⟨e, rfl⟩
  · simp only [read_eq_ok_iff isNotebook]
    exact Notebook.exists_ofBytes_eq_ok_iff
  · rw [read_of_encodesJson isNotebook encodes, mapError_eq_ok_iff] at accepted
    exact Notebook.ofJson_eq_ok_iff.mp accepted
  · intro name' bytes' members' isNotebook' encodes' same
    rw [read_of_encodesJson isNotebook encodes, read_of_encodesJson isNotebook' encodes',
      Notebook.ofJson_of_same same]
  · intro before v after given entries bad
    obtain ⟨e, failed, isAbout⟩ := Notebook.ofJson_of_bad_entry given entries bad
    refine ⟨e, ?_, isAbout⟩
    rw [read_of_encodesJson isNotebook encodes, failed]
    rfl

/-- The second of three cells is no object: the notebook is refused, and the message is about it. The
first cell alone is accepted. -/
theorem read_notebookFile_secondCell :
    FileName.isNotebook "a.ipynb" = true ∧
    (∃ e, read "a.ipynb" (.bytes (Utf8.encode "\x7b\"cells\": [\x7b\x7d, 7, 8]\x7d")) =
        .error (.format e) ∧ Notebook.IsAboutCell 1 e) ∧
    ∃ n, read "a.ipynb" (.bytes (Utf8.encode "\x7b\"cells\": [\x7b\x7d]\x7d")) = .ok n := by
  have isNotebook : FileName.isNotebook "a.ipynb" = true := by decide
  have empty : Notebook.IsEntry (.object []) := ⟨_, .object .absent .absent⟩
  have bad : ¬ Notebook.IsEntry (.int 7) := fun isEntry => nomatch isEntry.choose_spec
  have three : Utf8.EncodesJson (Utf8.encode "\x7b\"cells\": [\x7b\x7d, 7, 8]\x7d")
      (.object [("cells", .array [.object [], .int 7, .int 8])]) :=
    ⟨_, ⟨by decide, .inl rfl⟩, Json.read_eq_ok_iff.mp (by cbv)⟩
  have one : Utf8.EncodesJson (Utf8.encode "\x7b\"cells\": [\x7b\x7d]\x7d")
      (.object [("cells", .array [.object []])]) :=
    ⟨_, ⟨by decide, .inl rfl⟩, Json.read_eq_ok_iff.mp (by cbv)⟩
  refine ⟨isNotebook, ?_, ?_⟩
  · exact ((read_notebookFile isNotebook _).2.2 _ three).2.2 [.object []] (.int 7) [.int 8] rfl
      (List.forall_mem_singleton.mpr empty) bad
  · exact (read_notebookFile isNotebook _).2.1.mpr
      ⟨_, _, one, .array [.object []], List.forall_mem_singleton.mpr empty⟩

end Content

end NotebookAudit

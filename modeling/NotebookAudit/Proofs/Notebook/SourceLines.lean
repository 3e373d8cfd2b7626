import NotebookAudit.Proofs.Notebook.Format
import NotebookAudit.Proofs.Text.Lines
import NotebookAudit.Rule.Set

/-!
The lines of a source.

A source is a script, one text, or an array of lines with their line endings. The lines of a script
and of one text hold no line feeds. An item of an array loses its line ending and nothing else
(`Notebook.dropLineEnding_cases`), so what it keeps is one line exactly if it has no line feed
before its last character: `Content.read_physicalLines`. One text and the array of its lines are
read alike except for two kinds of texts: `Notebook.readCell_endedLines`.
-/

namespace NotebookAudit

/-! ## Line endings -/

namespace Notebook

variable {line t : Text}

/-- What is dropped of a line is its line ending, and all of it. -/
theorem dropLineEnding_cases (line : Text) :
    line = dropLineEnding line ++ [0x0d, 0x0a] ∨
      line = dropLineEnding line ++ [0x0a] ∧ ¬ [0x0d] <:+ dropLineEnding line ∨
        line = dropLineEnding line ∧ ¬ [0x0a] <:+ line := by
  unfold dropLineEnding Text.endsWith
  simp only [List.isSuffixOf_iff_suffix]
  split
  · next ends =>
    obtain ⟨before, rfl⟩ := ends
    exact .inl (by simp)
  · next noReturn =>
    split
    · next ends =>
      obtain ⟨before, rfl⟩ := ends
      refine .inr (.inl ⟨by simp, fun returns => noReturn ?_⟩)
      obtain ⟨front, same⟩ := returns
      refine ⟨front, ?_⟩
      have whole : front ++ [0x0d] = before := by simpa using same
      rw [← whole, List.append_assoc]
      rfl
    · next noFeed => exact .inr (.inr ⟨rfl, noFeed⟩)

theorem dropLineEnding_of_noFeed (noFeed : 0x0a ∉ line) : dropLineEnding line = line := by
  rcases dropLineEnding_cases line with ends | ⟨ends, -⟩ | ⟨same, -⟩
  · exact absurd (by rw [ends]; simp) noFeed
  · exact absurd (by rw [ends]; simp) noFeed
  · exact same.symm

/-- A line feed at the end is all that is dropped, unless a carriage return stands in front of it.
-/
theorem dropLineEnding_append_feed_iff :
    dropLineEnding (line ++ [0x0a]) = line ↔ ¬ [0x0d] <:+ line := by
  rcases dropLineEnding_cases (line ++ [0x0a]) with ends | ⟨ends, noReturn⟩ | ⟨-, noFeed⟩
  · have whole : line = dropLineEnding (line ++ [0x0a]) ++ [0x0d] :=
      List.append_cancel_right (ends.trans (List.append_assoc _ [0x0d] [0x0a]).symm)
    constructor
    · intro same
      rw [same] at whole
      simpa using congrArg List.length whole
    · intro noReturn
      exact absurd ⟨_, whole.symm⟩ noReturn
  · have same : line = dropLineEnding (line ++ [0x0a]) := List.append_cancel_right ends
    rw [← same] at noReturn
    exact ⟨fun _ => noReturn, fun _ => same.symm⟩
  · exact absurd (List.suffix_append _ _) noFeed

/-- A line feed is kept exactly if it stands before the last character. -/
theorem feed_mem_dropLineEnding_iff : 0x0a ∈ dropLineEnding line ↔ 0x0a ∈ line.dropLast := by
  rcases dropLineEnding_cases line with ends | ⟨ends, -⟩ | ⟨same, noFeed⟩
  · have front : line.dropLast = dropLineEnding line ++ [0x0d] := by
      conv_lhs => rw [ends]
      exact List.dropLast_append_of_ne_nil (List.cons_ne_nil _ _)
    rw [front]
    simp
  · have front : line.dropLast = dropLineEnding line := by
      conv_lhs => rw [ends]
      exact List.dropLast_concat
    rw [front]
  · rw [← same]
    refine ⟨fun member => ?_, fun member => List.dropLast_subset _ member⟩
    rcases List.eq_nil_or_concat line with rfl | ⟨front, last, rfl⟩
    · cases member
    · rw [List.concat_eq_append] at member noFeed ⊢
      rw [List.dropLast_concat]
      rcases List.mem_append.mp member with inFront | isLast
      · exact inFront
      · rw [List.mem_singleton.mp isLast] at noFeed
        exact absurd (List.suffix_append _ _) noFeed

/-! ## One text and the array of its lines -/

theorem return_feed_infix_iff (noFeed : 0x0a ∉ line) (rest : Text) :
    [0x0d, 0x0a] <:+: line ++ 0x0a :: rest ↔ [0x0d] <:+ line ∨ [0x0d, 0x0a] <:+: rest := by
  have notStart (t : Text) : ¬ [0x0d, 0x0a] <+: 0x0a :: t := fun starts =>
    absurd (List.cons_prefix_cons.mp starts).1 (by decide)
  have notInside : ¬ [0x0d, 0x0a] <:+: line := fun inside => noFeed (inside.subset (by simp))
  rw [List.infix_append_iff, or_iff_right notInside, List.infix_cons_iff,
    or_iff_right (notStart rest), or_comm]
  refine or_congr_left ⟨fun across => ?_, fun ends => ⟨[0x0d], [0x0a], rfl, ends, ⟨rest, rfl⟩⟩⟩
  obtain ⟨front, back, split, ends, starts⟩ := across
  -- the carriage return ends the line, as the line feed is not in it
  match front, split with
  | [], split =>
      rw [← List.nil_append back, ← split] at starts
      exact absurd starts (notStart rest)
  | [_], rfl => exact ends
  | [_, _], rfl => exact absurd ends.isInfix notInside

/-- The lines of a text with their line feeds are its lines without them exactly if the text neither
ends in a line feed nor holds a carriage return in front of one. -/
theorem lines_eq_iff (nonempty : t ≠ []) :
    t.lines = t.endedLines.map dropLineEnding ↔ ¬ [0x0a] <:+ t ∧ ¬ [0x0d, 0x0a] <:+: t := by
  induction t using Text.line_induction with
  | last line noFeed =>
      have absent (u : Text) (feeds : 0x0a ∈ u) : ¬ u <:+: line :=
        fun inside => noFeed (inside.subset feeds)
      rw [Text.lines_of_noFeed noFeed, Text.endedLines_of_noFeed nonempty noFeed,
        List.map_singleton, dropLineEnding_of_noFeed noFeed]
      have neither : ¬ [0x0a] <:+ line ∧ ¬ [0x0d, 0x0a] <:+: line :=
        ⟨fun ends => absent _ (by simp) ends.isInfix, absent _ (by simp)⟩
      exact ⟨fun _ => neither, fun _ => rfl⟩
  | more line rest noFeed ih =>
      rw [Text.lines_append noFeed, Text.endedLines_append noFeed, List.map_cons, List.cons.injEq,
        eq_comm, dropLineEnding_append_feed_iff, return_feed_infix_iff noFeed, not_or]
      by_cases last : rest = []
      · subst last
        have ends : [0x0a] <:+ line ++ [0x0a] := List.suffix_append _ _
        exact ⟨fun same => (nomatch same.2), fun both => absurd ends both.1⟩
      · have ends : [0x0a] <:+ line ++ 0x0a :: rest ↔ [0x0a] <:+ rest := by
          rw [List.singleton_suffix_iff_getLast?_eq_some,
            List.singleton_suffix_iff_getLast?_eq_some, List.getLast?_append_cons, List.getLast?_cons_of_ne_nil last]
        rw [ih last, ends]
        tauto

/-- The lines of a text as a source. -/
def textLines (t : Text) : List Text := if t = [] then [] else t.lines

theorem sourceMember_text (t : Text) : SourceMember (some (.text t)) (textLines t) := by
  unfold textLines
  split
  · next empty =>
    rw [empty]
    exact .emptyText
  · next nonempty => exact .text nonempty

theorem textLines_eq_iff (t : Text) :
    textLines t = t.endedLines.map dropLineEnding ↔ ¬ [0x0a] <:+ t ∧ ¬ [0x0d, 0x0a] <:+: t := by
  by_cases empty : t = []
  · rw [empty]
    exact ⟨fun _ => by decide, fun _ => rfl⟩
  · rw [textLines, if_neg empty, lines_eq_iff empty]

end Notebook

theorem Utf8.decodeLossy_encode {t : Text} (encodable : IsEncodable t) :
    decodeLossy (encode t) = t := by
  rw [decodeLossy, pieces_encode encodable, List.map_map]
  exact List.map_id t

/-- The lines of a script are those of the text that it encodes. -/
theorem Content.read_encode {name : Text} (noNotebook : FileName.isNotebook name = false) {t : Text}
    (encodable : Utf8.IsEncodable t) (noMark : t.head? ≠ some 0xfeff) :
    read name (.bytes (Utf8.encode t)) = .ok ⟨[⟨.code, t.lines⟩]⟩ := by
  have dropped : Utf8.dropMark (Utf8.encode t) = Utf8.encode t :=
    (Utf8.dropMark_eq_encode_iff encodable noMark).mpr ⟨encodable, .inl rfl⟩
  rw [read, noNotebook, Notebook.ofBytes, dropped, Utf8.decodeLossy_encode encodable]
  rfl

/-- Two cells have the same text as their source, one of them as a text and the other as the array
of its lines with their line feeds. Both are read, and they have the same lines exactly if the text
neither ends in a line feed nor holds a carriage return in front of one. The lines of the first are
also those of the script that is the encoding of the text, if that has characters, all of them
scalar values, and starts with no byte order mark. -/
theorem Notebook.readCell_endedLines {t : Text} {members members' : List (Text × Json)}
    {kind kind' : CellKind} (isKind : KindMember (Json.member? "cell_type" members) kind)
    (isKind' : KindMember (Json.member? "cell_type" members') kind')
    (asText : Json.member? "source" members = some (.text t))
    (asLines : Json.member? "source" members' = some (.array (t.endedLines.map .text))) :
    ∃ lines lines', (∀ index, readCell index (.object members) = .ok ⟨kind, lines⟩) ∧
      (∀ index, readCell index (.object members') = .ok ⟨kind', lines'⟩) ∧
      (lines = lines' ↔ ¬ [0x0a] <:+ t ∧ ¬ [0x0d, 0x0a] <:+: t) ∧
      (t ≠ [] → Utf8.IsEncodable t → t.head? ≠ some 0xfeff →
        ∀ name, FileName.isNotebook name = false →
          Content.read name (.bytes (Utf8.encode t)) = .ok ⟨[⟨.code, lines⟩]⟩) := by
  refine ⟨textLines t, t.endedLines.map dropLineEnding, fun index => ?_, fun index => ?_,
    textLines_eq_iff t, ?_⟩
  · refine readCell_eq_ok_iff.mpr (.object isKind ?_)
    rw [asText]
    exact sourceMember_text t
  · refine readCell_eq_ok_iff.mpr (.object isKind' ?_)
    rw [asLines]
    exact .lines t.endedLines
  · intro nonempty encodable noMark name noNotebook
    rw [Content.read_encode noNotebook encodable noMark, textLines, if_neg nonempty]

/-- A carriage return by itself and a line feed inside a text are read alike. -/
theorem Notebook.readCell_endedLines_loneReturn :
    ∃ lines, readCell 0 (.object [("source", .text [0x61, 0x0d, 0x62, 0x0a, 0x63])]) =
        .ok ⟨.unknown, lines⟩ ∧
      readCell 0 (.object [("source", .array [.text [0x61, 0x0d, 0x62, 0x0a], .text [0x63]])]) =
        .ok ⟨.unknown, lines⟩ ∧
      Content.read "a.py" (.bytes (Utf8.encode [0x61, 0x0d, 0x62, 0x0a, 0x63])) =
        .ok ⟨[⟨.code, lines⟩]⟩ := by
  have isKind (source : Json) :
      KindMember (Json.member? "cell_type" [("source", source)]) .unknown := .absent
  have isText : Json.member? "source" [("source", .text [0x61, 0x0d, 0x62, 0x0a, 0x63])] =
      some (.text [0x61, 0x0d, 0x62, 0x0a, 0x63]) := rfl
  have areLines : Json.member? "source"
      [("source", .array [.text [0x61, 0x0d, 0x62, 0x0a], .text [0x63]])] =
      some (.array ((Text.endedLines [0x61, 0x0d, 0x62, 0x0a, 0x63]).map .text)) := rfl
  obtain ⟨lines, lines', asText, asLines, same, asScript⟩ :=
    readCell_endedLines (isKind _) (isKind _) isText areLines
  have alike : lines = lines' := same.mpr (by decide)
  refine ⟨lines, asText 0, by rw [alike]; exact asLines 0, ?_⟩
  exact asScript (by decide) (by decide) (by decide) "a.py" (by decide)

/-! ## Physical lines -/

namespace Notebook

variable {v : Json} {c : Cell}

/-- The value is an object whose source is an array, of which an item has a line feed before its
last character. -/
def HasFoldedLine (v : Json) : Prop :=
  ∃ members items line, v = .object members ∧
    Json.member? "source" members = some (.array items) ∧ .text line ∈ items ∧
    0x0a ∈ line.dropLast

/-- The lines of a cell are those of its text, so that they are counted as they stand in it. -/
def KeepsLines (c : Cell) : Prop := c.lines ≠ [] → c.text.lines = c.lines

theorem keepsLines_iff : KeepsLines c ↔ ∀ line ∈ c.lines, 0x0a ∉ line := by
  unfold KeepsLines Cell.text
  constructor
  · intro keeps line member
    exact (Text.lines_joinWith_iff (List.ne_nil_of_mem member)).mp
      (keeps (List.ne_nil_of_mem member)) line member
  · intro noFeed nonempty
    exact (Text.lines_joinWith_iff nonempty).mpr noFeed

/-- The lines of a source hold no line feeds exactly if it is no array of which an item is folded.
-/
theorem SourceMember.noFeed_iff {m : Option Json} {lines : List Text}
    (isSource : SourceMember m lines) :
    (∀ line ∈ lines, 0x0a ∉ line) ↔
      ∀ items line, m = some (.array items) → .text line ∈ items → 0x0a ∉ line.dropLast := by
  cases isSource with
  | absent | null | emptyText =>
      exact ⟨fun _ items line same => (nomatch same), fun _ => List.forall_mem_nil _⟩
  | text nonempty =>
      exact ⟨fun _ items line same => (nomatch same), fun _ line => Text.noFeed_of_mem_lines⟩
  | lines texts =>
      rw [List.forall_mem_map]
      constructor
      · intro noFeed items line same member
        cases same
        obtain ⟨_, inTexts, ⟨⟩⟩ := List.mem_map.mp member
        exact fun folded => noFeed line inTexts (feed_mem_dropLineEnding_iff.mpr folded)
      · intro unfolded line inTexts fed
        exact unfolded _ line rfl (List.mem_map_of_mem inTexts) (feed_mem_dropLineEnding_iff.mp fed)

/-- The lines of a cell hold no line feeds exactly if no item of its source is folded. -/
theorem Entry.noFeed_iff (isEntry : Entry v c) :
    (∀ line ∈ c.lines, 0x0a ∉ line) ↔ ¬ HasFoldedLine v := by
  cases isEntry with
  | object isKind isSource =>
      rw [isSource.noFeed_iff]
      constructor
      · rintro unfolded ⟨_, items, line, ⟨⟩, source, member, folded⟩
        exact unfolded items line source member folded
      · intro unfolded items line source member folded
        exact unfolded ⟨_, items, line, rfl, source, member, folded⟩

end Notebook

/-- A document is read. The lines of a script hold no line feeds. Those of a cell of a notebook file
hold none exactly if its source is no array of which an item has a line feed before its last
character. And exactly the lines without line feeds are counted as the lines of the text of their
cell. -/
theorem Content.read_physicalLines {name : Text} {bytes : Bytes} {n : Notebook}
    (accepted : read name (.bytes bytes) = .ok n) :
    (FileName.isNotebook name = false → ∀ c ∈ n.cells, ∀ line ∈ c.lines, 0x0a ∉ line) ∧
    (FileName.isNotebook name = true → ∃ members items, Utf8.EncodesJson bytes (.object members) ∧
      Notebook.Entries (Json.member? "cells" members) items ∧
      List.Forall₂ (fun v c => (∀ line ∈ c.lines, 0x0a ∉ line) ↔ ¬ Notebook.HasFoldedLine v)
        items n.cells) ∧
    ∀ c ∈ n.cells, Notebook.KeepsLines c ↔ ∀ line ∈ c.lines, 0x0a ∉ line := by
  refine ⟨fun noNotebook => ?_, fun isNotebook => ?_, fun c _ => Notebook.keepsLines_iff⟩
  · rw [read, noNotebook] at accepted
    cases accepted
    exact List.forall_mem_singleton.mpr fun line => Text.noFeed_of_mem_lines
  · obtain ⟨members, encodes, ofJson⟩ :=
      Notebook.ofBytes_eq_ok_iff.mp ((read_eq_ok_iff isNotebook).mp accepted)
    obtain ⟨items, entries, cells⟩ := Notebook.ofJson_eq_ok_iff.mp ofJson
    exact ⟨members, items, encodes, entries, cells.imp fun _ _ isEntry => isEntry.noFeed_iff⟩

/-- The source of a cell is one text of two lines, and both are counted. -/
theorem Content.read_physicalLines_oneText :
    ∃ c, read "a.ipynb" (.bytes (Utf8.encode "\x7b\"cells\": [\x7b\"source\": \"a\\nb\"\x7d]\x7d")) =
        .ok ⟨[c]⟩ ∧
      c.lines = ["a", "b"] ∧ Notebook.KeepsLines c := by
  have accepted : read "a.ipynb"
      (.bytes (Utf8.encode "\x7b\"cells\": [\x7b\"source\": \"a\\nb\"\x7d]\x7d")) =
      .ok ⟨[⟨.unknown, ["a", "b"]⟩]⟩ := by
    cbv
  refine ⟨_, accepted, rfl, ?_⟩
  exact ((read_physicalLines accepted).2.2 _ (List.mem_singleton_self _)).mpr (by decide)

/-- The source of a code cell is an array of one item, which holds a comment and a line of code. The
cell has one line, a line feed is in it, and it is skipped as a comment. -/
theorem Content.read_foldedLine :
    ∃ n line, read "a.ipynb" (.bytes (Utf8.encode
        "\x7b\"cells\": [\x7b\"cell_type\": \"code\", \"source\": [\"# nota\\nDROP TABLE t\"]\x7d]\x7d")) =
        .ok n ∧
      n.codeLines = [⟨0, 0, line⟩] ∧ 0x0a ∈ line ∧ isSkippedLine line = true := by
  have accepted : read "a.ipynb" (.bytes (Utf8.encode
      "\x7b\"cells\": [\x7b\"cell_type\": \"code\", \"source\": [\"# nota\\nDROP TABLE t\"]\x7d]\x7d")) =
      .ok ⟨[⟨.code, ["# nota\nDROP TABLE t"]⟩]⟩ := by
    cbv
  exact ⟨_, _, accepted, rfl, by decide, by decide +kernel⟩

end NotebookAudit

import NotebookAudit.Proofs.Analysis.Outcome
import NotebookAudit.Proofs.Notebook.Footer
import NotebookAudit.Proofs.Text.LossyLines

/-!
Scripts, line by line.

A file whose name is not that of a notebook is read whatever its bytes are, as one code cell whose
lines are the physical lines of the file, each decoded by itself. So the line numbers of its findings
are those of the file, and of the findings without a place one says that the footer is missing and the
others are failures of rules (`script_findings`). `script_breaks_off` shows the one case in which the
footer is not reported: the search of a rule breaks off.
-/

namespace NotebookAudit

variable {n : Notebook} {name document : Text} {bytes : Bytes} {set : RuleSet}
  {findings : List Finding}

/-! ## Reading -/

namespace Script

/-- The text of the physical line of an index: the bytes between two line feeds, decoded by themselves.
A byte order mark in front of the first line is no part of it. -/
def physicalLine? (bytes : Bytes) (i : Nat) : Option Text :=
  (bytes.splitOn 0x0a)[i]?.map fun line =>
    Utf8.decodeLossy (if i = 0 then Utf8.dropMark line else line)

/-- The lines that are read from the bytes of a script. -/
def lines (bytes : Bytes) : List Text := (Utf8.decodeLossy (Utf8.dropMark bytes)).lines

/-- The lines that are read are the physical lines. -/
theorem getElem?_lines (bytes : Bytes) (i : Nat) : (lines bytes)[i]? = physicalLine? bytes i := by
  rw [lines, Utf8.lines_decodeLossy, Utf8.splitOn_dropMark, physicalLine?, List.getElem?_map]
  cases bytes.splitOn 0x0a with
  | nil => rfl
  | cons line others => cases i <;> rfl

theorem length_lines (bytes : Bytes) : (lines bytes).length = bytes.count 0x0a + 1 := by
  rw [lines, Utf8.lines_decodeLossy, Utf8.splitOn_dropMark, List.length_map, List.length_modifyHead,
    Utf8.length_splitOn_lineFeed]

end Script

/-- The notebook of a script. -/
theorem Content.read_bytes_of_script (noNotebook : FileName.isNotebook name = false)
    (bytes : Bytes) :
    (Content.bytes bytes).read name = .ok ⟨[⟨.code, Script.lines bytes⟩]⟩ := by
  rw [Content.read, noNotebook]
  rfl

/-! ## Findings without a place -/

namespace Notebook

/-- A finding on the header names the first cell. -/
theorem cellNumber_of_mem_headerFindings {f : Finding} (member : f ∈ n.headerFindings document) :
    f.cellNumber = some 1 := by
  unfold headerFindings at member
  split at member
  · cases member
  · dsimp only at member
    split at member
    · cases member
    · rw [List.mem_singleton] at member
      rw [member]
      rfl

/-- The findings without a place in a notebook that no cell closes are that on the missing footer and
the failures of rules. -/
theorem unplaced_of_noClosing (noClosing : ∀ c ∈ n.cells, c.isClosing = false)
    (checked : n.check document set = .ok findings) :
    findings.filter (·.cellNumber = none) =
      noClosingFinding document :: set.failureFindings document := by
  have placed {part : List Finding} (each : ∀ f ∈ part, f.cellNumber ≠ none) :
      part.filter (·.cellNumber = none) = [] :=
    List.filter_eq_nil_iff.mpr fun f member => by simpa using each f member
  have header : ∀ f ∈ n.headerFindings document, f.cellNumber ≠ none := by
    intro f member
    rw [cellNumber_of_mem_headerFindings member]
    exact Option.some_ne_none 1
  have widgets : ∀ f ∈ n.unusedWidgetVariables document, f.cellNumber ≠ none := by
    intro f member
    obtain ⟨d, -, rfl⟩ := List.mem_map.mp member
    exact Option.some_ne_none _
  have imports : ∀ f ∈ n.unusedImports document, f.cellNumber ≠ none := by
    intro f member
    obtain ⟨d, -, rfl⟩ := List.mem_map.mp member
    exact Option.some_ne_none _
  have rules : ∀ f ∈ set.matchFindings n document, f.cellNumber ≠ none := by
    intro f member
    obtain ⟨l, -, c, -, -, -, rfl⟩ := RuleSet.mem_matchFindings.mp member
    exact Option.some_ne_none _
  have failures : (set.failureFindings document).filter (·.cellNumber = none) =
      set.failureFindings document := by
    rw [List.filter_eq_self]
    intro f member
    obtain ⟨failure, -, rfl⟩ := List.mem_map.mp member
    rfl
  obtain ⟨-, rfl⟩ := check_eq_ok_iff.mp checked
  simp only [List.filter_append, placed header, placed widgets, placed imports, placed rules,
    failures, footerFindings_of_noClosing noClosing, List.nil_append, List.append_nil]
  rfl

theorem kind_of_mem_failureFindings {f : Finding} (member : f ∈ set.failureFindings document) :
    f.kind = Text.ofString "Error de Regla" := by
  obtain ⟨failure, -, rfl⟩ := List.mem_map.mp member
  rfl

/-- A finding without a place in a notebook that no cell closes says that the footer is missing, or
that a rule failed. -/
theorem kind_of_noClosing (noClosing : ∀ c ∈ n.cells, c.isClosing = false)
    (checked : n.check document set = .ok findings) {f : Finding} (member : f ∈ findings)
    (noCell : f.cellNumber = none) :
    f.kind = Text.ofString "Footer Faltante" ∨ f.kind = Text.ofString "Error de Regla" := by
  have member : f ∈ findings.filter (·.cellNumber = none) :=
    List.mem_filter.mpr ⟨member, decide_eq_true noCell⟩
  rw [unplaced_of_noClosing noClosing checked] at member
  rcases List.mem_cons.mp member with rfl | failed
  · exact .inl rfl
  · exact .inr (kind_of_mem_failureFindings failed)

/-- Exactly one finding says that a notebook that no cell closes has no footer. -/
theorem footerMissing_of_noClosing (noClosing : ∀ c ∈ n.cells, c.isClosing = false)
    (checked : n.check document set = .ok findings) :
    findings.filter (fun f => f.kind = Text.ofString "Footer Faltante" ∧ f.cellNumber = none) =
      [noClosingFinding document] := by
  have byPlace :
      findings.filter (fun f => f.kind = Text.ofString "Footer Faltante" ∧ f.cellNumber = none) =
        (findings.filter (·.cellNumber = none)).filter
          (·.kind = Text.ofString "Footer Faltante") := by
    rw [List.filter_filter]
    exact List.filter_congr fun f _ => Bool.decide_and _ _
  have noFailure :
      (set.failureFindings document).filter (·.kind = Text.ofString "Footer Faltante") = [] := by
    rw [List.filter_eq_nil_iff]
    intro f member
    rw [kind_of_mem_failureFindings member]
    decide
  have missing : (noClosingFinding document).kind = Text.ofString "Footer Faltante" := rfl
  rw [byPlace, unplaced_of_noClosing noClosing checked, List.filter_cons,
    if_pos (decide_eq_true missing), noFailure]

end Notebook

/-! ## The findings of a script -/

/-- The line that a finding in a script names is a physical line of the file, and the finding shows
it. -/
theorem Finding.PointsInto.physicalLine {f : Finding} {j : Nat}
    (pointsInto : f.PointsInto ⟨[⟨.code, Script.lines bytes⟩]⟩) (numbered : f.lineNumber = some j) :
    f.cellNumber = some 1 ∧ 1 ≤ j ∧
      ∃ line, Script.physicalLine? bytes (j - 1) = some line ∧ f.content = some line.trim := by
  obtain ⟨k, c, line, cell, cellAt, -, positive, -, lineAt, content⟩ := pointsInto.line j numbered
  obtain ⟨firstCell, -⟩ := pointsInto.cell k cell
  obtain ⟨inRange, same⟩ := List.getElem?_eq_some_iff.mp cellAt
  have onlyCell : k = 1 := by
    rw [List.length_singleton] at inRange
    omega
  subst onlyCell
  subst same
  rw [← Script.getElem?_lines]
  exact ⟨cell, positive, line, lineAt, content⟩

/-- A script is read whatever its bytes are, as one code cell with its physical lines: one more than
there are line feeds. Every line that a finding names is a physical line of the file, and no finding
says that the file cannot be read. Exactly one finding says that the footer is missing, unless the
search of a rule breaks off, and the finding that says so is then the only one. -/
theorem script_findings (noNotebook : FileName.isNotebook name = false) (bytes : Bytes) :
    ∃ lines, (Content.bytes bytes).read name = .ok ⟨[⟨.code, lines⟩]⟩ ∧
      lines.length = bytes.count 0x0a + 1 ∧ (∀ i, lines[i]? = Script.physicalLine? bytes i) ∧
      ∀ set : RuleSet, ∃ findings, analyzeNamed name (.bytes bytes) set = .ok findings ∧
        (∀ f ∈ findings, f.document = name) ∧
        (∀ f ∈ findings, ∀ j, f.lineNumber = some j → f.cellNumber = some 1 ∧ 1 ≤ j ∧
          ∃ line, Script.physicalLine? bytes (j - 1) = some line ∧ f.content = some line.trim) ∧
        (∀ f ∈ findings, f.cellNumber = none → f.kind ≠ Text.ofString "Error de Lectura") ∧
        ((set.BreaksOn ⟨[⟨.code, lines⟩]⟩ ∧
            findings = [analysisErrorFinding name Pattern.brokenGroupMessage]) ∨
          (¬ set.BreaksOn ⟨[⟨.code, lines⟩]⟩ ∧
            findings.filter (fun f => f.kind = Text.ofString "Footer Faltante" ∧ f.cellNumber = none) =
              [Notebook.noClosingFinding name])) := by
  have read := Content.read_bytes_of_script noNotebook bytes
  refine ⟨Script.lines bytes, read, Script.length_lines bytes, Script.getElem?_lines bytes, ?_⟩
  intro set
  rcases analyzeNamed_cases name (.bytes bytes) set with
    ⟨notBytes, -⟩ | ⟨e, refused, -⟩ | ⟨n, readAs, outcome⟩
  · rw [read] at notBytes
    cases notBytes
  · rw [read] at refused
    cases refused
  · rw [read] at readAs
    cases readAs
    rcases outcome with ⟨broken, brokeOff⟩ | ⟨findings, checked, ended⟩
    · refine ⟨_, brokeOff, ?_, ?_, ?_, .inl ⟨broken, rfl⟩⟩
      · intro f member
        rw [List.mem_singleton.mp member]
        rfl
      · intro f member j numbered
        rw [List.mem_singleton.mp member] at numbered
        cases numbered
      · intro f member _
        rw [List.mem_singleton.mp member]
        show Text.ofString "Error de Análisis" ≠ Text.ofString "Error de Lectura"
        decide
    · have noClosing : ∀ c ∈ [Cell.mk .code (Script.lines bytes)], c.isClosing = false := by
        intro c member
        rw [List.mem_singleton.mp member]
        rfl
      have concerns : ∀ f ∈ findings, f.Concerns _ name := fun _ => Notebook.check_mem checked
      refine ⟨findings, ended, fun f member => (concerns f member).document,
        fun f member j => (concerns f member).pointsInto.physicalLine, ?_,
        .inr ⟨(Notebook.check_eq_ok_iff.mp checked).1,
          Notebook.footerMissing_of_noClosing noClosing checked⟩⟩
      intro f member noCell
      rcases Notebook.kind_of_noClosing noClosing checked member noCell with missing | failed
      · rw [missing]
        decide
      · rw [failed]
        decide

/-- A file with a byte order mark whose first line ends, and whose second line begins, within a
character. -/
def brokenCharacters : Bytes :=
  [0xef, 0xbb, 0xbf, 0x61, 0xe2, 0x82, 0x0a, 0x82, 0x62, 0xf0, 0x9f, 0x0a]

/-- A character that breaks off in front of a line feed does not swallow it. -/
theorem script_findings_brokenCharacters :
    FileName.isNotebook "job.py" = false ∧
      ∃ lines, (Content.bytes brokenCharacters).read "job.py" = .ok ⟨[⟨.code, lines⟩]⟩ ∧
        lines.length = 3 ∧ lines[0]? = some [0x61, 0xfffd] ∧
        lines[1]? = some [0xfffd, 0x62, 0xfffd] ∧ lines[2]? = some [] ∧
        ∃ findings, analyzeNamed "job.py" (.bytes brokenCharacters) ⟨[], []⟩ = .ok findings ∧
          findings.filter (fun f => f.kind = Text.ofString "Footer Faltante" ∧ f.cellNumber = none) =
            [Notebook.noClosingFinding "job.py"] := by
  have noNotebook : FileName.isNotebook "job.py" = false := by decide +kernel
  obtain ⟨lines, read, length, lineAt, analyzed⟩ := script_findings noNotebook brokenCharacters
  obtain ⟨findings, ended, -, -, -, outcome⟩ := analyzed ⟨[], []⟩
  refine ⟨noNotebook, lines, read, length.trans (by decide), (lineAt 0).trans (by decide +kernel),
    (lineAt 1).trans (by decide +kernel), (lineAt 2).trans (by decide +kernel), findings, ended, ?_⟩
  rcases outcome with ⟨broken, -⟩ | ⟨-, footerMissing⟩
  · obtain ⟨l, -, c, inSet, -⟩ := broken
    cases inSet
  · exact footerMissing

/-- A rule that breaks off in a script leaves it without the finding on its footer. -/
theorem script_breaks_off :
    FileName.isNotebook "xyz.py" = false ∧
      ∃ set findings, RuleSet.compile [possessiveRule] = .ok set ∧
        analyzeNamed "xyz.py" (.bytes [0x78, 0x79, 0x7a]) set = .ok findings ∧
        findings.filter (fun f => f.kind = Text.ofString "Footer Faltante" ∧ f.cellNumber = none) =
          [] := by
  have answer : ((RuleSet.compile [possessiveRule]).toOption.bind fun set =>
      (analyzeNamed "xyz.py" (.bytes [0x78, 0x79, 0x7a]) set).toOption) =
        some [analysisErrorFinding "xyz.py" Pattern.brokenGroupMessage] := by
    decide +kernel
  obtain ⟨set, compiled, analyzed⟩ := Option.bind_eq_some_iff.mp answer
  exact ⟨by decide +kernel, set, _, toOption_eq_some_iff.mp compiled,
    toOption_eq_some_iff.mp analyzed, by decide +kernel⟩

end NotebookAudit

import NotebookAudit.Proofs.Analysis.Script
import NotebookAudit.Proofs.Text.Start

/-!
What the name of a document decides.

Every check reports its findings under the name of the document. Apart from that, only two things are
taken from the name: the format, by which the document is read, and the base name, which its header is to
hold. Under a name with the same two the analysis ends in the same way (`analyzeNamed_under`), and under
any other name the findings of some document are different (`analyzeNamed_alike_iff`).
-/

namespace NotebookAudit

variable {n : Notebook} {set : RuleSet} {name other : Text} {content : Content}

/-- The finding, reported under another name. -/
def Finding.under (document : Text) (f : Finding) : Finding := { f with document }

/-! ## The checks under another name -/

theorem RuleSet.failureFindings_under (set : RuleSet) (name other : Text) :
    set.failureFindings other = (set.failureFindings name).map (Finding.under other) := by
  rw [failureFindings, failureFindings, List.map_map]
  rfl

/-- The search ends in the same way. -/
theorem RuleSet.scan_under (set : RuleSet) (n : Notebook) (name other : Text) :
    set.scan n other = (set.scan n name).map (List.map (Finding.under other)) := by
  refine scan_map ?_ (fun _ => rfl) (fun _ _ _ => rfl) (set.failureFindings_under name other)
  exact (List.map_id n.codeLines).symm

namespace Notebook

theorem unusedImports_under (n : Notebook) (name other : Text) :
    n.unusedImports other = (n.unusedImports name).map (Finding.under other) := by
  rw [unusedImports, unusedImports, List.map_map]
  rfl

theorem unusedWidgetVariables_under (n : Notebook) (name other : Text) :
    n.unusedWidgetVariables other = (n.unusedWidgetVariables name).map (Finding.under other) := by
  rw [unusedWidgetVariables, unusedWidgetVariables, List.map_map]
  rfl

theorem footerFindings_under (n : Notebook) (name other : Text) :
    n.footerFindings other = (n.footerFindings name).map (Finding.under other) := by
  unfold footerFindings
  -- without a closing cell, or with no cell behind it, there is one finding
  split
  · rfl
  · split
    · rfl
    · next exit after _ =>
      rw [List.map_append]
      congr 1
      · unfold exitFindings
        split <;> rfl
      · cases after <;> rfl

/-- The header is to hold the base name. -/
theorem headerFindings_under (sameBase : FileName.baseName other = FileName.baseName name)
    (n : Notebook) :
    n.headerFindings other = (n.headerFindings name).map (Finding.under other) := by
  unfold headerFindings
  split
  · rfl
  · dsimp only
    rw [sameBase]
    split <;> rfl

/-- The checks end in the same way, with the same findings up to the name. -/
theorem check_under (sameBase : FileName.baseName other = FileName.baseName name) (n : Notebook)
    (set : RuleSet) :
    n.check other set = (n.check name set).map (List.map (Finding.under other)) := by
  rw [check, check, set.scan_under n name other, headerFindings_under sameBase,
    n.unusedWidgetVariables_under name other, n.unusedImports_under name other,
    n.footerFindings_under name other]
  cases set.scan n name with
  | error e => rfl
  | ok found =>
      refine congrArg Except.ok ?_
      simp only [List.map_append]

end Notebook

/-! ## Documents under another name -/

theorem Content.read_of_sameFormat
    (sameFormat : FileName.isNotebook other = FileName.isNotebook name) (content : Content) :
    content.read other = content.read name := by
  unfold Content.read
  rw [sameFormat]

/-- The analysis under a name with the same format and the same base name ends in the same way, with
the same findings up to the name. -/
theorem analyzeNamed_under (sameFormat : FileName.isNotebook other = FileName.isNotebook name)
    (sameBase : FileName.baseName other = FileName.baseName name) (content : Content)
    (set : RuleSet) :
    analyzeNamed other content set =
      (analyzeNamed name content set).map (List.map (Finding.under other)) := by
  unfold analyzeNamed
  rw [Content.read_of_sameFormat sameFormat]
  cases content.read name with
  | error e => cases e <;> rfl
  | ok n =>
      dsimp only
      rw [Notebook.check_under sameBase]
      cases n.check name set <;> rfl

/-- Bytes under a name have findings. -/
theorem exists_analyzeNamed_eq_ok (name : Text) (bytes : Bytes) (set : RuleSet) :
    ∃ findings, analyzeNamed name (.bytes bytes) set = .ok findings := by
  rcases analyzeNamed_cases name (.bytes bytes) set with
    ⟨notBytes, -⟩ | ⟨e, -, refused⟩ | ⟨n, -, ⟨-, brokeOff⟩ | ⟨findings, -, ended⟩⟩
  · rcases Content.read_bytes_cases name bytes with ⟨n, read⟩ | ⟨-, e, failed⟩
    · rw [read] at notBytes
      cases notBytes
    · rw [failed] at notBytes
      cases notBytes
  · exact ⟨_, refused⟩
  · exact ⟨_, brokeOff⟩
  · exact ⟨_, ended⟩

/-! ## What the findings say about the name

The findings of no bytes tell the format, and those of a document whose first cell is empty tell the base
name. -/

namespace Notebook

variable {c : Cell} {others : List Cell}

/-- A first cell without text names a document only if the base name is empty. -/
theorem headerFindings_of_noText (noText : c.text = []) (others : List Cell) (name : Text) :
    (⟨c :: others⟩ : Notebook).headerFindings name =
      if FileName.baseName name = [] then []
      else [c.finding 0 name "Header Incorrecto"
        ("La primera celda no contiene el nombre del archivo '" ++ FileName.baseName name ++ "'.")
        .warning] := by
  have absent (t : Text) : Text.contains [] t = true ↔ t = [] := by
    cases t with
    | nil => exact iff_of_true rfl rfl
    | cons d rest => exact iff_of_false Bool.false_ne_true (List.cons_ne_nil d rest)
  have lowered : c.text.lower = [] := Text.lower_eq_nil_iff.mpr noText
  unfold headerFindings
  dsimp only
  rw [lowered]
  simp only [absent, Text.lower_eq_nil_iff]

/-- The finding on the header shows the base name. -/
theorem baseName_eq_of_headerFindings_under (noText : c.text = [])
    (alike : (⟨c :: others⟩ : Notebook).headerFindings other =
      ((⟨c :: others⟩ : Notebook).headerFindings name).map (Finding.under other)) :
    FileName.baseName other = FileName.baseName name := by
  rw [headerFindings_of_noText noText, headerFindings_of_noText noText] at alike
  split at alike
  · next empty =>
    split at alike
    · next empty' => rw [empty, empty']
    · cases alike
  · split at alike
    · cases alike
    · have details := congrArg Finding.details (List.singleton_inj.mp alike)
      exact List.append_cancel_left (List.append_cancel_right details)

/-- If the findings of all checks are the same up to the name, so are those on the header. -/
theorem headerFindings_under_of_check {findings : List Finding} (sound : ¬ set.BreaksOn n)
    (checked : n.check name set = .ok findings)
    (checked' : n.check other set = .ok (findings.map (Finding.under other))) :
    n.headerFindings other = (n.headerFindings name).map (Finding.under other) := by
  have ended : set.scan n name = _ := RuleSet.scan_eq_ok sound
  have same : n.check other set = (n.check name set).map (List.map (Finding.under other)) := by
    rw [checked, checked']
    rfl
  rw [check, check, set.scan_under n name other, ended, n.unusedWidgetVariables_under name other,
    n.unusedImports_under name other, n.footerFindings_under name other] at same
  have sections := Except.ok.inj same
  simp only [List.map_append, List.append_assoc] at sections
  exact List.append_cancel_right sections

/-- The findings of a notebook that is read are those of its checks, if these come to their end. -/
theorem check_eq_ok_of_analyzeNamed {findings : List Finding} (sound : ¬ set.BreaksOn n)
    (read : content.read name = .ok n) (analyzed : analyzeNamed name content set = .ok findings) :
    n.check name set = .ok findings := by
  unfold analyzeNamed at analyzed
  rw [read] at analyzed
  dsimp only at analyzed
  rw [check_eq_ok sound] at analyzed ⊢
  exact congrArg Except.ok (Except.ok.inj analyzed)

end Notebook

theorem Content.read_noBytes_of_notebook (format : FileName.isNotebook name = true) :
    ∃ e, (Content.bytes []).read name = .error (.format e) := by
  have refused : (Notebook.ofBytes true []).toOption = none := by decide +kernel
  unfold Content.read
  rw [format]
  dsimp only
  cases read : Notebook.ofBytes true [] with
  | ok n =>
      rw [read] at refused
      cases refused
  | error e => exact ⟨e, rfl⟩

theorem Content.read_noBytes_of_script (format : FileName.isNotebook name = false) :
    (Content.bytes []).read name = .ok ⟨[⟨.code, [[]]⟩]⟩ := by
  have empty : Script.lines [] = [[]] := by decide +kernel
  rw [Content.read_bytes_of_script format, empty]

/-- No bytes are no notebook file, and they are a script without a footer. -/
theorem footerMissing_iff_of_noBytes {findings : List Finding}
    (analyzed : analyzeNamed name (.bytes []) ⟨[], []⟩ = .ok findings) :
    Text.ofString "Footer Faltante" ∈ findings.map (·.kind) ↔ FileName.isNotebook name = false := by
  unfold analyzeNamed at analyzed
  cases format : FileName.isNotebook name with
  | true =>
      obtain ⟨e, refused⟩ := Content.read_noBytes_of_notebook format
      rw [refused] at analyzed
      cases analyzed
      have differ : Text.ofString "Footer Faltante" ≠ Text.ofString "Error de Lectura" := by decide
      exact iff_of_false (fun member => differ (List.mem_singleton.mp member)) (by decide)
  | false =>
      refine iff_of_true ?_ rfl
      rw [Content.read_noBytes_of_script format] at analyzed
      have footer : (⟨[⟨.code, [[]]⟩]⟩ : Notebook).footerFindings name =
          [Notebook.noClosingFinding name] := rfl
      have found := Except.ok.inj analyzed
      rw [footer] at found
      rw [← found]
      simp only [List.map_append, List.mem_append]
      exact .inl (.inr List.mem_cons_self)

/-- In either format there are bytes that are read as a notebook whose first cell has no text. -/
theorem exists_read_noText (name : Text) :
    ∃ bytes c others, Cell.text c = [] ∧ (Content.bytes bytes).read name = .ok ⟨c :: others⟩ := by
  cases format : FileName.isNotebook name with
  | true =>
      have read : (Notebook.ofBytes true (Utf8.encode "\x7b\"cells\": [\x7b\x7d]\x7d")).toOption =
          some ⟨[⟨.unknown, []⟩]⟩ := by
        decide +kernel
      rw [toOption_eq_some_iff] at read
      refine ⟨Utf8.encode "\x7b\"cells\": [\x7b\x7d]\x7d", ⟨.unknown, []⟩, [], rfl, ?_⟩
      rw [Content.read, format, read]
      rfl
  | false => exact ⟨[], ⟨.code, [[]]⟩, [], rfl, Content.read_noBytes_of_script format⟩

/-- Under two names all documents have the same findings up to the name, exactly if the names have the
same format and the same base name. -/
theorem analyzeNamed_alike_iff :
    (FileName.isNotebook other = FileName.isNotebook name ∧
        FileName.baseName other = FileName.baseName name) ↔
      ∀ bytes set, ∃ findings, analyzeNamed name (.bytes bytes) set = .ok findings ∧
        analyzeNamed other (.bytes bytes) set = .ok (findings.map (Finding.under other)) := by
  constructor
  · intro same bytes set
    obtain ⟨findings, analyzed⟩ := exists_analyzeNamed_eq_ok name bytes set
    refine ⟨findings, analyzed, ?_⟩
    rw [analyzeNamed_under same.1 same.2, analyzed]
    rfl
  · intro alike
    have sameFormat : FileName.isNotebook other = FileName.isNotebook name := by
      -- whether the footer is missed when there are no bytes depends on the format alone
      obtain ⟨findings, analyzed, analyzed'⟩ := alike [] ⟨[], []⟩
      have kinds : (findings.map (Finding.under other)).map (·.kind) = findings.map (·.kind) := by
        rw [List.map_map]
        rfl
      have missing := footerMissing_iff_of_noBytes analyzed'
      rw [kinds, footerMissing_iff_of_noBytes analyzed] at missing
      exact (Bool.eq_iff_iff.mpr (by simpa using missing)).symm
    refine ⟨sameFormat, ?_⟩
    -- the finding on an empty first cell shows the base name, and there is none if that is empty
    obtain ⟨bytes, c, others, noText, read⟩ := exists_read_noText name
    have read' := (Content.read_of_sameFormat sameFormat (.bytes bytes)).trans read
    obtain ⟨findings, analyzed, analyzed'⟩ := alike bytes ⟨[], []⟩
    have noRules : ¬ (⟨[], []⟩ : RuleSet).BreaksOn ⟨c :: others⟩ := fun broken => by
      obtain ⟨l, -, rule, member, -⟩ := broken
      cases member
    have checked := Notebook.check_eq_ok_of_analyzeNamed noRules read analyzed
    have checked' := Notebook.check_eq_ok_of_analyzeNamed noRules read' analyzed'
    exact Notebook.baseName_eq_of_headerFindings_under noText
      (Notebook.headerFindings_under_of_check noRules checked checked')

/-- Directories, slashes, blanks around a name and the case of its extension do not count, neither in the
checks nor for a rule that is not compiled. -/
theorem analyzeNamed_alike_directories :
    ∃ set findings, RuleSet.compile [{ possessiveRule with pattern := "(" }] = .ok set ∧
      analyzeNamed "informes/carga.py" (.bytes (Utf8.encode "import os")) set = .ok findings ∧
      findings.map (·.kind) = [Text.ofString "Header Incorrecto",
        Text.ofString "Importación no usada", Text.ofString "Footer Faltante",
        Text.ofString "Error de Regla"] ∧
      analyzeNamed " C:\\x\\carga.PY " (.bytes (Utf8.encode "import os")) set =
        .ok (findings.map (Finding.under " C:\\x\\carga.PY ")) := by
  have answer : ((RuleSet.compile [{ possessiveRule with pattern := "(" }]).toOption.bind fun set =>
      (analyzeNamed "informes/carga.py" (.bytes (Utf8.encode "import os")) set).toOption.map
        (List.map (·.kind))) =
      some [Text.ofString "Header Incorrecto", Text.ofString "Importación no usada",
        Text.ofString "Footer Faltante", Text.ofString "Error de Regla"] := by
    decide +kernel
  obtain ⟨set, compiled, kinds⟩ := Option.bind_eq_some_iff.mp answer
  have same : FileName.isNotebook " C:\\x\\carga.PY " = FileName.isNotebook "informes/carga.py" ∧
      FileName.baseName " C:\\x\\carga.PY " = FileName.baseName "informes/carga.py" := by
    decide +kernel
  obtain ⟨findings, analyzed, analyzed'⟩ :=
    analyzeNamed_alike_iff.mp same (Utf8.encode "import os") set
  rw [analyzed] at kinds
  exact ⟨set, findings, toOption_eq_some_iff.mp compiled, analyzed, Option.some.inj kinds, analyzed'⟩

end NotebookAudit

import NotebookAudit.Analysis
import NotebookAudit.Proofs.Analysis.Checks

/-!
What the analysis of a document can come to.

The bytes of a document under a name always have findings (`analyzeNamed_findings`). There are three
cases: a notebook file that cannot be read has one finding, which says so; a notebook in which the
search of the rules breaks off has one finding, which says so; and every other notebook has the
findings of its checks, in the order of the checks, each of which points into the notebook.
`analyzeNamed_breaks_off` shows that the second case is met.
-/

namespace NotebookAudit

variable {n : Notebook} {document : Text} {set : RuleSet}

/-! ## Reading -/

/-- Bytes are read, or they are refused as a notebook file. -/
theorem Content.read_bytes_cases (name : Text) (bytes : Bytes) :
    (∃ n, (Content.bytes bytes).read name = .ok n) ∨
      FileName.isNotebook name = true ∧
        ∃ e, (Content.bytes bytes).read name = .error (.format e) := by
  unfold Content.read
  cases format : FileName.isNotebook name with
  | false => exact .inl ⟨_, rfl⟩
  | true =>
      dsimp only
      cases Notebook.ofBytes true bytes with
      | ok n => exact .inl ⟨n, rfl⟩
      | error e => exact .inr ⟨rfl, e, rfl⟩

/-! ## Checking -/

/-- The findings of the checks of a notebook, check by check. -/
structure Notebook.Sections (n : Notebook) (document : Text) (set : RuleSet)
    (findings : List Finding) : Prop where
  inOrder : findings =
    n.headerFindings document ++ n.unusedWidgetVariables document ++ n.unusedImports document
      ++ n.footerFindings document ++ set.matchFindings n document ++ set.failureFindings document
  header : (n.headerFindings document).length ≤ 1 ∧
    ∀ f ∈ n.headerFindings document, f.kind = "Header Incorrecto" ∧ f.severity = .warning
  widgets : (n.unusedWidgetVariables document).Pairwise Finding.Before ∧
    ∀ f ∈ n.unusedWidgetVariables document,
      f.kind = "Variable de widget no usada" ∧ f.severity = .warning
  imports : (n.unusedImports document).Pairwise Finding.Before ∧
    ∀ f ∈ n.unusedImports document, f.kind = "Importación no usada" ∧ f.severity = .warning
  footer : (n.footerFindings document).length ≤ 2 ∧
    ∀ f ∈ n.footerFindings document, f.kind ∈ Notebook.footerKinds ∧ f.severity = .info
  rules : (set.matchFindings n document).Pairwise Finding.NotAfter ∧
    ∀ f ∈ set.matchFindings n document, ∃ c ∈ set.rules,
      f.kind = c.rule.name ∧ f.details = c.rule.message ∧ f.severity = c.rule.severity
  failures : (set.failureFindings document).length = set.failures.length ∧
    ∀ f ∈ set.failureFindings document, f.kind = "Error de Regla" ∧ f.severity = .critical

namespace Notebook

theorem exists_check_eq_error (broken : set.BreaksOn n) :
    ∃ e, n.check document set = .error e := by
  obtain ⟨e, failed⟩ := RuleSet.exists_scan_eq_error broken
  refine ⟨e, ?_⟩
  rw [check, failed]
  rfl

theorem check_eq_ok (sound : ¬ set.BreaksOn n) :
    n.check document set = .ok
      (n.headerFindings document ++ n.unusedWidgetVariables document ++ n.unusedImports document
        ++ n.footerFindings document ++ set.matchFindings n document
        ++ set.failureFindings document) := by
  have ended : set.scan n document =
      .ok (set.matchFindings n document ++ set.failureFindings document) := RuleSet.scan_eq_ok sound
  rw [check, ended, List.append_assoc _ (set.matchFindings n document)]
  rfl

/-- The checks in a row give findings exactly if the search of the rules comes to its end. -/
theorem check_eq_ok_iff {findings : List Finding} :
    n.check document set = .ok findings ↔
      ¬ set.BreaksOn n ∧ findings =
        n.headerFindings document ++ n.unusedWidgetVariables document ++ n.unusedImports document
          ++ n.footerFindings document ++ set.matchFindings n document
          ++ set.failureFindings document :=
  eq_ok_iff_of_cases exists_check_eq_error check_eq_ok

/-- The checks in a row keep what every check by itself gives. -/
theorem check_sections {findings : List Finding} (checked : n.check document set = .ok findings) :
    n.Sections document set findings where
  inOrder := (check_eq_ok_iff.mp checked).2
  header := ⟨headerFindings_length n document, fun _ member => (of_mem_headerFindings member).2⟩
  widgets := ⟨unusedWidgetVariables_pairwise n document, fun _ member =>
    (of_mem_unusedWidgetVariables member).2⟩
  imports := ⟨unusedImports_pairwise n document, fun _ member => (of_mem_unusedImports member).2⟩
  footer := ⟨footerFindings_length n document, fun _ member => (of_mem_footerFindings member).2⟩
  rules := ⟨RuleSet.matchFindings_pairwise set n document, fun _ member =>
    (RuleSet.of_mem_matchFindings member).2⟩
  failures := ⟨List.length_map _, fun _ member => (RuleSet.of_mem_failureFindings n member).2⟩

/-- Every finding of the checks is one of the document and points into the notebook. -/
theorem check_mem {findings : List Finding} {f : Finding}
    (checked : n.check document set = .ok findings) (member : f ∈ findings) :
    f.Concerns n document := by
  obtain ⟨-, rfl⟩ := check_eq_ok_iff.mp checked
  simp only [List.mem_append] at member
  rcases member with ((((inHeader | inWidgets) | inImports) | inFooter) | inRules) | inFailures
  · exact (of_mem_headerFindings inHeader).1
  · exact (of_mem_unusedWidgetVariables inWidgets).1
  · exact (of_mem_unusedImports inImports).1
  · exact (of_mem_footerFindings inFooter).1
  · exact (RuleSet.of_mem_matchFindings inRules).1
  · exact (RuleSet.of_mem_failureFindings n inFailures).1

end Notebook

/-! ## Documents under a name -/

/-- A document under a name fails only by numbers that are no bytes; otherwise it is refused as a
notebook file, breaks off in the search, or is checked to the end. -/
theorem analyzeNamed_cases (name : Text) (content : Content) (set : RuleSet) :
    (content.read name = .error .notBytes ∧ analyzeNamed name content set = .error .notBytes) ∨
      (∃ e, content.read name = .error (.format e) ∧
        analyzeNamed name content set = .ok [readErrorFinding name e.message]) ∨
      ∃ n, content.read name = .ok n ∧
        ((set.BreaksOn n ∧ analyzeNamed name content set =
            .ok [analysisErrorFinding name Pattern.brokenGroupMessage]) ∨
          ∃ findings, n.check name set = .ok findings ∧
            analyzeNamed name content set = .ok findings) := by
  unfold analyzeNamed
  cases content.read name with
  | error e =>
      cases e with
      | notBytes => exact .inl ⟨rfl, rfl⟩
      | format e => exact .inr (.inl ⟨e, rfl, rfl⟩)
  | ok n =>
      refine .inr (.inr ⟨n, rfl, ?_⟩)
      dsimp only
      by_cases broken : set.BreaksOn n
      · have stopped : ∃ e, n.check name set = .error e := Notebook.exists_check_eq_error broken
        obtain ⟨e, failed⟩ := stopped
        rw [failed]
        exact .inl ⟨broken, rfl⟩
      · rw [Notebook.check_eq_ok broken]
        exact .inr ⟨_, rfl, rfl⟩

/-- Every finding of a document is reported under its name. -/
theorem analyzeNamed_document {name : Text} {content : Content} {set : RuleSet}
    {findings : List Finding} (analyzed : analyzeNamed name content set = .ok findings)
    {f : Finding} (member : f ∈ findings) : f.document = name := by
  rcases analyzeNamed_cases name content set with
    ⟨-, failed⟩ | ⟨e, -, refused⟩ | ⟨n, -, ⟨-, brokeOff⟩ | ⟨checkFindings, checked, ended⟩⟩
  · rw [failed] at analyzed
    cases analyzed
  · rw [refused] at analyzed
    cases analyzed
    rw [List.mem_singleton.mp member]
    rfl
  · rw [brokeOff] at analyzed
    cases analyzed
    rw [List.mem_singleton.mp member]
    rfl
  · rw [ended] at analyzed
    cases analyzed
    exact (Notebook.check_mem checked member).document

/-- The bytes of a document under a name always have findings, all under that name: one that says
that a notebook file cannot be read, or findings that point into the notebook read. These are one
that says that the search of the rules breaks off, exactly if it does, or those of the checks in
their order. -/
theorem analyzeNamed_findings (name : Text) (bytes : Bytes) (set : RuleSet) :
    ∃ findings, analyzeNamed name (.bytes bytes) set = .ok findings ∧
      (∀ f ∈ findings, f.document = name) ∧
      ((FileName.isNotebook name = true ∧ ∃ e,
          (Content.bytes bytes).read name = .error (.format e) ∧
          findings = [readErrorFinding name e.message]) ∨
        ∃ n, (Content.bytes bytes).read name = .ok n ∧ (∀ f ∈ findings, f.PointsInto n) ∧
          (set.BreaksOn n ∧ findings = [analysisErrorFinding name Pattern.brokenGroupMessage] ∨
            ¬ set.BreaksOn n ∧ n.Sections name set findings)) := by
  have named {findings : List Finding}
      (analyzed : analyzeNamed name (.bytes bytes) set = .ok findings) :
      ∀ f ∈ findings, f.document = name := fun _ member => analyzeNamed_document analyzed member
  rcases analyzeNamed_cases name (.bytes bytes) set with
    ⟨notBytes, -⟩ | ⟨e, failed, refused⟩ | ⟨n, read, outcome⟩
  · rcases Content.read_bytes_cases name bytes with ⟨n, read⟩ | ⟨-, e, failed⟩
    · rw [read] at notBytes
      cases notBytes
    · rw [failed] at notBytes
      cases notBytes
  · refine ⟨_, refused, named refused, .inl ⟨?_, e, failed, rfl⟩⟩
    rcases Content.read_bytes_cases name bytes with ⟨n, read⟩ | ⟨isNotebook, -⟩
    · rw [read] at failed
      cases failed
    · exact isNotebook
  · rcases outcome with ⟨broken, brokeOff⟩ | ⟨findings, checked, ended⟩
    · refine ⟨_, brokeOff, named brokeOff, .inr ⟨n, read, ?_, .inl ⟨broken, rfl⟩⟩⟩
      intro f member
      rw [List.mem_singleton.mp member]
      exact Finding.ofDocument_pointsInto _ _ _ _ _
    · refine ⟨_, ended, named ended, .inr ⟨n, read, ?_, .inr ⟨?_, ?_⟩⟩⟩
      · intro f member
        exact (Notebook.check_mem checked member).pointsInto
      · exact (Notebook.check_eq_ok_iff.mp checked).1
      · exact Notebook.check_sections checked

/-- A rule that is compiled can still break off the search. The one finding of the document is then
not among those of the checks. -/
theorem analyzeNamed_breaks_off :
    ∃ set, RuleSet.compile [possessiveRule] = .ok set ∧
      analyzeNamed "xyz.py" (.bytes [0x78, 0x79, 0x7a]) set =
        .ok [analysisErrorFinding "xyz.py" Pattern.brokenGroupMessage] ∧
      ∀ n, (Content.bytes [0x78, 0x79, 0x7a]).read "xyz.py" = .ok n →
        ¬ n.Sections "xyz.py" set [analysisErrorFinding "xyz.py" Pattern.brokenGroupMessage] := by
  have answer : ((RuleSet.compile [possessiveRule]).toOption.bind fun set =>
      (analyzeNamed "xyz.py" (.bytes [0x78, 0x79, 0x7a]) set).toOption) =
        some [analysisErrorFinding "xyz.py" Pattern.brokenGroupMessage] := by
    decide +kernel
  have footer : ((Content.bytes [0x78, 0x79, 0x7a]).read "xyz.py").toOption.map
      (fun n => (n.footerFindings "xyz.py").map (·.kind)) =
        some [Text.ofString "Footer Faltante"] := by
    decide +kernel
  obtain ⟨set, compiled, analyzed⟩ := Option.bind_eq_some_iff.mp answer
  refine ⟨set, toOption_eq_some_iff.mp compiled, toOption_eq_some_iff.mp analyzed, ?_⟩
  intro n read sections
  rw [read] at footer
  have kinds : (n.footerFindings "xyz.py").map (·.kind) = [Text.ofString "Footer Faltante"] :=
    Option.some.inj footer
  have footerIn : Text.ofString "Footer Faltante" ∈
      [analysisErrorFinding "xyz.py" Pattern.brokenGroupMessage].map (·.kind) := by
    rw [sections.inOrder]
    simp only [List.map_append, kinds, List.mem_append, List.mem_singleton, true_or, or_true]
  exact absurd footerIn (by decide +kernel)

end NotebookAudit

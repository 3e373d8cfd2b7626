import NotebookAudit.Proofs.Notebook.Lines
import NotebookAudit.Proofs.Result
import NotebookAudit.Proofs.Rule.Compilation
import NotebookAudit.Proofs.Rule.Scan

/-!
The matches of a rule set in a notebook.

A match is a place: the indices of a code cell, of a line of it that is searched, and of a rule that
is found on that line (`RuleSet.IsMatch`). `RuleSet.ruleMatches` lists them, and the findings of the
rules report this list item by item. So a search that comes to its end reports every match once, in the
order of the cells, the lines and the rules, and after them the failures of the set
(`RuleSet.scan_enumerates`). `RuleSet.scan_unfinished` shows a search that does not come to its end.
-/

namespace NotebookAudit

/-- The place of a match: the indices of the cell, of the line in the cell, and of the rule in the
set. -/
structure RuleMatch where
  cell : Nat
  line : Nat
  rule : Nat
  deriving Repr, DecidableEq

/-- The order of cells, then of lines, then of rules. -/
def RuleMatch.Before (m m' : RuleMatch) : Prop :=
  m.cell < m'.cell ∨
    m.cell = m'.cell ∧ (m.line < m'.line ∨ m.line = m'.line ∧ m.rule < m'.rule)

namespace RuleSet

variable {set : RuleSet} {n : Notebook} {document : Text} {m : RuleMatch} {l : PlacedLine}

/-- What stands at the place of a match: a code cell, a line of it that is searched, and a rule that is
found on the line. -/
structure MatchesAt (set : RuleSet) (n : Notebook) (m : RuleMatch) (c : Cell) (line : Text)
    (r : CompiledRule) : Prop where
  cellAt : n.cells[m.cell]? = some c
  code : c.kind = .code
  lineAt : c.lines[m.line]? = some line
  searched : isSkippedLine line = false
  ruleAt : set.rules[m.rule]? = some r
  found : r.pattern.search line = .found

/-- The place is that of a match. -/
def IsMatch (set : RuleSet) (n : Notebook) (m : RuleMatch) : Prop :=
  ∃ c line r, set.MatchesAt n m c line r

/-- The finding reports the match: it has the name, the message and the severity of the rule and the
numbers of the cell and of the line, and it shows both. -/
def Reports (set : RuleSet) (n : Notebook) (document : Text) (m : RuleMatch) (f : Finding) : Prop :=
  ∃ c line r, set.MatchesAt n m c line r ∧
    f = ⟨document, r.rule.name, r.rule.message, some (m.cell + 1), some (m.line + 1),
      some line.trim, some c.text, r.rule.severity⟩

/-! ## The list of matches -/

/-- The match of a rule of an index on a line, if there is one. -/
def matchOn (l : PlacedLine) (p : CompiledRule × Nat) : List RuleMatch :=
  if isSkippedLine l.text = false ∧ p.1.pattern.search l.text = .found then
    [⟨l.cell, l.line, p.2⟩]
  else []

/-- The matches of a set in a notebook, line by line and rule by rule. -/
def ruleMatches (set : RuleSet) (n : Notebook) : List RuleMatch :=
  n.codeLines.flatMap fun l => set.rules.zipIdx.flatMap (matchOn l)

theorem mem_matchOn {p : CompiledRule × Nat} :
    m ∈ matchOn l p ↔
      (isSkippedLine l.text = false ∧ p.1.pattern.search l.text = .found) ∧
        m = ⟨l.cell, l.line, p.2⟩ := by
  unfold matchOn
  split
  · next hit => rw [List.mem_singleton, and_iff_right hit]
  · next noHit => exact iff_of_false List.not_mem_nil fun hit => noHit hit.1

theorem mem_ruleMatches : m ∈ set.ruleMatches n ↔ set.IsMatch n m := by
  simp only [ruleMatches, List.mem_flatMap, mem_matchOn]
  constructor
  · rintro ⟨l, lineIn, ⟨r, k⟩, ruleIn, ⟨searched, found⟩, rfl⟩
    obtain ⟨c, cellAt, code, lineAt⟩ := Notebook.mem_codeLines.mp lineIn
    exact ⟨c, l.text, r, cellAt, beq_iff_eq.mp code, lineAt, searched,
      List.mem_zipIdx_iff_getElem?.mp ruleIn, found⟩
  · rintro ⟨c, line, r, cellAt, code, lineAt, searched, ruleAt, found⟩
    have lineIn : ⟨m.cell, m.line, line⟩ ∈ n.codeLines :=
      Notebook.mem_codeLines.mpr ⟨c, cellAt, beq_iff_eq.mpr code, lineAt⟩
    exact ⟨_, lineIn, (r, m.rule), List.mem_zipIdx_iff_getElem?.mpr ruleAt, ⟨searched, found⟩, rfl⟩

/-- The matches come in the order of their places, no place twice. -/
theorem ruleMatches_pairwise (set : RuleSet) (n : Notebook) :
    (set.ruleMatches n).Pairwise RuleMatch.Before := by
  -- matches of one line are in the order of its rules, and those of two lines in that of the lines
  rw [ruleMatches, List.pairwise_flatMap]
  constructor
  · intro l _
    rw [List.pairwise_flatMap]
    constructor
    · intro p _
      unfold matchOn
      split
      · exact List.pairwise_singleton _ _
      · exact .nil
    · refine (Notebook.zipIdx_pairwise set.rules).imp ?_
      intro p q before m first m' second
      obtain ⟨-, rfl⟩ := mem_matchOn.mp first
      obtain ⟨-, rfl⟩ := mem_matchOn.mp second
      exact .inr ⟨rfl, .inr ⟨rfl, before⟩⟩
  · refine n.codeLines_pairwise.imp ?_
    intro l k before m first m' second
    obtain ⟨p, -, first⟩ := List.mem_flatMap.mp first
    obtain ⟨q, -, second⟩ := List.mem_flatMap.mp second
    obtain ⟨-, rfl⟩ := mem_matchOn.mp first
    obtain ⟨-, rfl⟩ := mem_matchOn.mp second
    rcases before with earlierCell | ⟨sameCell, earlierLine⟩
    · exact .inl earlierCell
    · exact .inr ⟨sameCell, .inl earlierLine⟩

/-! ## The findings of the matches -/

/-- The finding of a rule on a line reports the match there. -/
theorem reports_matchOn {p : CompiledRule × Nat} (lineIn : l ∈ n.codeLines)
    (ruleIn : p ∈ set.rules.zipIdx) :
    List.Forall₂ (set.Reports n document) (matchOn l p) (p.1.hits n document l) := by
  obtain ⟨c, cellAt, code, lineAt⟩ := Notebook.mem_codeLines.mp lineIn
  have shown : n.cellText l.cell = c.text := by
    rw [Notebook.cellText, cellAt]
    rfl
  unfold matchOn CompiledRule.hits
  split
  · next hit =>
    refine .cons ⟨c, l.text, p.1, ⟨cellAt, beq_iff_eq.mp code, lineAt, hit.1,
      List.mem_zipIdx_iff_getElem?.mp ruleIn, hit.2⟩, ?_⟩ .nil
    rw [Rule.finding, shown]
  · exact .nil

/-- The findings of the rules report the matches, one each and in their order. -/
theorem reports_ruleMatches (set : RuleSet) (n : Notebook) (document : Text) :
    List.Forall₂ (set.Reports n document) (set.ruleMatches n) (set.matchFindings n document) := by
  refine forall₂_flatMap fun l lineIn => ?_
  -- the findings do not need the indices of the rules, which the matches have
  have numbered : set.rules.flatMap (CompiledRule.hits n document l) =
      set.rules.zipIdx.flatMap fun p => p.1.hits n document l := by
    conv_lhs => rw [← List.zipIdx_map_fst 0 set.rules, List.flatMap_map]
  rw [numbered]
  exact forall₂_flatMap fun p ruleIn => reports_matchOn lineIn ruleIn

/-! ## The order of the snapshot -/

/-- The compiled rules and the failures of a snapshot keep its order. -/
theorem sublist_of_compile {rules : List Rule} (compiled : compile rules = .ok set) :
    (set.rules.map (·.rule)).Sublist rules ∧ (set.failures.map (·.rule)).Sublist rules := by
  obtain ⟨-, rfl⟩ := compile_eq_ok_iff.mp compiled
  constructor
  · refine (map_filterMap_sublist ?_ _).trans List.filter_sublist
    exact fun r c outcome => (Rule.compiled?_eq_some_iff.mp outcome).1
  · refine (map_filterMap_sublist ?_ _).trans List.filter_sublist
    exact fun r f outcome => (Rule.failure?_eq_some_iff.mp outcome).1

/-! ## The search of a notebook -/

theorem scan_eq_ok_of_noCode (noCode : ∀ c ∈ n.cells, c.kind ≠ .code) :
    set.scan n document = .ok (set.failures.map (RuleFailure.finding document)) := by
  have noLines : n.codeLines = [] := by
    refine List.eq_nil_iff_forall_not_mem.mpr fun l lineIn => ?_
    obtain ⟨c, cellAt, code, -⟩ := Notebook.mem_codeLines.mp lineIn
    exact noCode c (List.mem_of_getElem? cellAt) (beq_iff_eq.mp code)
  rw [scan, noLines]
  rfl

/-- A search breaks off exactly if a rule does on a line that is searched. Otherwise its findings report
every match of the set in the notebook, each once and in the order of cells, lines and rules, and after
them every failure of the set, each with one critical finding on the document, also if there is no
code cell. The rules and the failures of a set that is compiled are in the order of the snapshot. -/
theorem scan_enumerates (set : RuleSet) (n : Notebook) (document : Text) :
    ((∃ e, set.scan n document = .error e) ↔ set.BreaksOn n) ∧
      (∀ findings, set.scan n document = .ok findings →
        ∃ (places : List RuleMatch) (found failed : List Finding), findings = found ++ failed ∧
          places.Pairwise RuleMatch.Before ∧ (∀ m, m ∈ places ↔ set.IsMatch n m) ∧
          List.Forall₂ (set.Reports n document) places found ∧
          failed = set.failures.map (RuleFailure.finding document) ∧
          ∀ f ∈ failed, f.document = document ∧ f.kind = "Error de Regla" ∧
            f.severity = .critical ∧ f.cellNumber = none) ∧
      ((∀ c ∈ n.cells, c.kind ≠ .code) →
        set.scan n document = .ok (set.failures.map (RuleFailure.finding document))) ∧
      ∀ rules, compile rules = .ok set →
        (set.rules.map (·.rule)).Sublist rules ∧ (set.failures.map (·.rule)).Sublist rules := by
  refine ⟨exists_scan_eq_error_iff, ?_, scan_eq_ok_of_noCode, fun rules => sublist_of_compile⟩
  intro findings searched
  obtain ⟨-, rfl⟩ := scan_eq_ok_iff.mp searched
  refine ⟨set.ruleMatches n, _, _, rfl, set.ruleMatches_pairwise n, fun m => mem_ruleMatches,
    set.reports_ruleMatches n document, rfl, ?_⟩
  intro f member
  obtain ⟨failure, -, rfl⟩ := List.mem_map.mp member
  exact ⟨rfl, rfl, rfl, rfl⟩

/-- A warning of a given message on whatever a pattern is found in. -/
def namesake (message pattern : Text) : Rule := ⟨"1", "Regla", message, pattern, .warning, true⟩

/-- A notebook with two lines on which a rule for `b` is found, one of them before the last line on which
a rule for `a` is. -/
def abNotebook : Notebook :=
  ⟨[⟨.code, ["a b", "b"]⟩, ⟨.markdown, ["a b"]⟩, ⟨.code, ["import a", "a"]⟩]⟩

/-- Two rules of one name and a third one whose pattern has a fault: every match is reported, in the
order of the lines and of the rules, and after them the fault. -/
theorem scan_enumerates_namesakes :
    ∃ set findings, compile [namesake "A" "a", namesake "rota" "(", namesake "B" "b"] = .ok set ∧
      set.scan abNotebook "job.ipynb" = .ok findings ∧
      (findings.map fun f => (f.cellNumber, f.lineNumber)) =
        [(some 1, some 1), (some 1, some 1), (some 1, some 2), (some 3, some 2), (none, none)] ∧
      (set.rules.map (·.rule)).Sublist
        [namesake "A" "a", namesake "rota" "(", namesake "B" "b"] ∧
      set.scan ⟨[⟨.markdown, ["a b"]⟩]⟩ "job.ipynb" =
        .ok (set.failures.map (RuleFailure.finding "job.ipynb")) ∧
      ∃ places : List RuleMatch, places.Pairwise RuleMatch.Before ∧
        places.length + set.failures.length = 5 ∧
        ∀ m, m ∈ places ↔ set.IsMatch abNotebook m := by
  have answer : ((compile [namesake "A" "a", namesake "rota" "(", namesake "B" "b"]).toOption.bind
      fun set => (set.scan abNotebook "job.ipynb").toOption.map
        (List.map fun f => (f.cellNumber, f.lineNumber))) =
      some [(some 1, some 1), (some 1, some 1), (some 1, some 2), (some 3, some 2), (none, none)] := by
    decide +kernel
  obtain ⟨set, compiled, searched⟩ := Option.bind_eq_some_iff.mp answer
  obtain ⟨findings, searched, numbers⟩ := Option.map_eq_some_iff.mp searched
  have compiled := toOption_eq_some_iff.mp compiled
  have searched := toOption_eq_some_iff.mp searched
  obtain ⟨-, reported, -, inOrder⟩ := scan_enumerates set abNotebook "job.ipynb"
  obtain ⟨-, -, noCode, -⟩ := scan_enumerates set ⟨[⟨.markdown, ["a b"]⟩]⟩ "job.ipynb"
  obtain ⟨places, found, failed, rfl, increasing, members, reports, rfl, -⟩ :=
    reported findings searched
  refine ⟨set, _, compiled, searched, numbers, (inOrder _ compiled).1, noCode (by decide), places,
    increasing, ?_, members⟩
  have count := congrArg List.length numbers
  rw [List.length_map, List.length_append, List.length_map, ← reports.length_eq] at count
  exact count

/-- A rule that breaks off leaves the search of a notebook without findings, although the set has a
failure to report. -/
theorem scan_unfinished :
    ∃ set, compile [possessiveRule, namesake "rota" "("] = .ok set ∧ set.failures.length = 1 ∧
      ∀ findings, set.scan ⟨[⟨.code, ["xyz"]⟩]⟩ "job.ipynb" ≠ .ok findings := by
  have answer : (compile [possessiveRule, namesake "rota" "("]).toOption.map (fun set =>
      (set.failures.length, (set.scan ⟨[⟨.code, ["xyz"]⟩]⟩ "job.ipynb").toOption)) =
        some (1, none) := by
    decide +kernel
  obtain ⟨set, compiled, outcome⟩ := Option.map_eq_some_iff.mp answer
  obtain ⟨failures, noFindings⟩ := Prod.mk.inj outcome
  refine ⟨set, toOption_eq_some_iff.mp compiled, failures, fun findings searched => ?_⟩
  rw [toOption_eq_some_iff.mpr searched] at noFindings
  cases noFindings

end RuleSet

end NotebookAudit

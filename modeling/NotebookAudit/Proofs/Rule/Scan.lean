import NotebookAudit.Proofs.Traversal
import NotebookAudit.Rule.Set

/-!
Searching a notebook for the rules of a set.

A search of one line has three answers, and the third, a match in which some group ends before it
starts, ends the search of the whole notebook. `RuleSet.scan_eq_ok_iff` says that the search comes
to its end exactly if no rule has such a match on a line that is searched, and that it then gives,
line by line and rule by rule, one finding for each rule that is found, and the failures at the end.
-/

namespace NotebookAudit

/-! ## One rule on one line -/

/-- A rule whose pattern has a match in `xyz` in which its inner group ends before it starts. -/
def possessiveRule : Rule where
  id := "1"
  name := "Posesiva"
  message := "m"
  pattern := "((x)|y|z)*+"
  severity := .warning
  enabled := true

namespace CompiledRule

/-- The line is searched, and the pattern of the rule has a match there in which some group ends
before it starts. -/
def BreaksOn (c : CompiledRule) (line : Text) : Prop :=
  isSkippedLine line = false ∧ c.pattern.search line = .brokenGroup

/-- The findings of a rule on a line: one if the line is searched and the pattern is found. -/
def hits (n : Notebook) (document : Text) (l : PlacedLine) (c : CompiledRule) : List Finding :=
  if isSkippedLine l.text = false ∧ c.pattern.search l.text = .found then
    [c.rule.finding n document l]
  else []

theorem mem_hits {n : Notebook} {document : Text} {l : PlacedLine} {c : CompiledRule}
    {f : Finding} :
    f ∈ c.hits n document l ↔
      isSkippedLine l.text = false ∧ c.pattern.search l.text = .found ∧
        f = c.rule.finding n document l := by
  unfold hits
  split
  · next hit => simp [hit]
  · next noHit =>
    simp only [List.not_mem_nil, false_iff]
    intro hit
    obtain ⟨searched, found, -⟩ := hit
    exact noHit ⟨searched, found⟩

end CompiledRule

namespace RuleSet

variable {set : RuleSet} {n : Notebook} {document : Text} {l : PlacedLine} {c : CompiledRule}

theorem findingsOf_eq_ok (searched : isSkippedLine l.text = false)
    (sound : ¬ c.BreaksOn l.text) : findingsOf n document l c = .ok (c.hits n document l) := by
  unfold findingsOf CompiledRule.hits
  cases answer : c.pattern.search l.text with
  | nothing => simp
  | found => simp [searched]
  | brokenGroup => exact absurd ⟨searched, answer⟩ sound

/-! ## All rules on one line -/

/-- A line on which no rule breaks off gives the findings of the rules in their order. -/
theorem lineFindings_eq_ok (sound : ∀ c ∈ set.rules, ¬ c.BreaksOn l.text) :
    set.lineFindings n document l = .ok (set.rules.flatMap (CompiledRule.hits n document l)) := by
  unfold lineFindings
  cases searched : isSkippedLine l.text with
  | true =>
      have noHits : set.rules.flatMap (CompiledRule.hits n document l) = [] :=
        List.flatMap_eq_nil_iff.mpr fun c _ => by simp [CompiledRule.hits, searched]
      rw [noHits]
      rfl
  | false =>
      rw [mapM_eq_ok_map fun c member => findingsOf_eq_ok searched (sound c member)]
      rfl

theorem exists_lineFindings_eq_error (broken : ∃ c ∈ set.rules, c.BreaksOn l.text) :
    ∃ e, set.lineFindings n document l = .error e := by
  obtain ⟨c, member, searched, answer⟩ := broken
  have fails : findingsOf n document l c = .error ⟨c.rule⟩ := by
    rw [findingsOf, answer]
  obtain ⟨e, failed⟩ := exists_mapM_eq_error ⟨c, member, _, fails⟩
  refine ⟨e, ?_⟩
  rw [lineFindings, searched, failed]
  rfl

/-! ## All lines -/

/-- Some rule of the set breaks off on some code line of the notebook. -/
def BreaksOn (set : RuleSet) (n : Notebook) : Prop :=
  ∃ l ∈ n.codeLines, ∃ c ∈ set.rules, c.BreaksOn l.text

/-- The findings of the rules of a set on the code lines of a notebook, in the order of the lines
and then of the rules. -/
def matchFindings (set : RuleSet) (n : Notebook) (document : Text) : List Finding :=
  n.codeLines.flatMap fun l => set.rules.flatMap (CompiledRule.hits n document l)

/-- A rule that breaks off on some line ends the search. -/
theorem exists_scan_eq_error (broken : set.BreaksOn n) :
    ∃ e, set.scan n document = .error e := by
  obtain ⟨l, member, brokenLine⟩ := broken
  have lineFails : ∃ e, set.lineFindings n document l = .error e :=
    exists_lineFindings_eq_error brokenLine
  obtain ⟨e, failed⟩ := exists_mapM_eq_error ⟨l, member, lineFails⟩
  refine ⟨e, ?_⟩
  rw [scan, failed]
  rfl

theorem scan_eq_ok (sound : ¬ set.BreaksOn n) :
    set.scan n document =
      .ok (set.matchFindings n document ++ set.failureFindings document) := by
  have lines : ∀ l ∈ n.codeLines, set.lineFindings n document l =
      .ok (set.rules.flatMap (CompiledRule.hits n document l)) := by
    intro l member
    exact lineFindings_eq_ok fun c inSet breaks => sound ⟨l, member, c, inSet, breaks⟩
  rw [scan, mapM_eq_ok_map lines]
  rfl

/-- A search comes to its end exactly if no rule breaks off, and it then gives the findings of the
rules on the lines and after them the failures. -/
theorem scan_eq_ok_iff {findings : List Finding} :
    set.scan n document = .ok findings ↔
      ¬ set.BreaksOn n ∧
        findings = set.matchFindings n document ++ set.failureFindings document :=
  eq_ok_iff_of_cases exists_scan_eq_error scan_eq_ok

/-- A search ends in an error exactly if some rule breaks off. -/
theorem exists_scan_eq_error_iff : (∃ e, set.scan n document = .error e) ↔ set.BreaksOn n := by
  refine ⟨fun failed => ?_, exists_scan_eq_error⟩
  obtain ⟨e, failed⟩ := failed
  refine Classical.byContradiction fun sound => ?_
  rw [scan_eq_ok sound] at failed
  cases failed

/-- A finding of a rule on a line is that of a rule of the set on a code line where its pattern is
found. -/
theorem mem_matchFindings {f : Finding} :
    f ∈ set.matchFindings n document ↔
      ∃ l ∈ n.codeLines, ∃ c ∈ set.rules, isSkippedLine l.text = false ∧
        c.pattern.search l.text = .found ∧ f = c.rule.finding n document l := by
  simp only [matchFindings, List.mem_flatMap, CompiledRule.mem_hits]

/-! ## Two searches

Two notebooks with the same code lines in other places, or one notebook under two names, are searched in
the same way. What is found is the same up to a change `h` of findings, if that of one rule on one line
is. -/

section Twice

variable {m : Notebook} {other : Text} {h : Finding → Finding} {k : PlacedLine → PlacedLine}

theorem findingsOf_map (sameText : (k l).text = l.text)
    (finding : c.rule.finding m other (k l) = h (c.rule.finding n document l)) :
    findingsOf m other (k l) c = (findingsOf n document l c).map (List.map h) := by
  unfold findingsOf
  rw [sameText]
  cases c.pattern.search l.text with
  | nothing => rfl
  | brokenGroup => rfl
  | found => exact congrArg (fun f => Except.ok [f]) finding

theorem lineFindings_map (sameText : (k l).text = l.text)
    (finding : ∀ r : Rule, r.finding m other (k l) = h (r.finding n document l)) :
    set.lineFindings m other (k l) = (set.lineFindings n document l).map (List.map h) := by
  unfold lineFindings
  rw [sameText, mapM_eq_map_mapM fun c _ => findingsOf_map sameText (finding c.rule)]
  split
  · rfl
  · cases set.rules.mapM (findingsOf n document l) with
    | error e => rfl
    | ok found => exact congrArg Except.ok List.map_flatten.symm

/-- The second search ends as the first one does. -/
theorem scan_map (lines : m.codeLines = n.codeLines.map k) (sameText : ∀ l, (k l).text = l.text)
    (finding : ∀ l ∈ n.codeLines, ∀ r : Rule,
      r.finding m other (k l) = h (r.finding n document l))
    (failures : set.failureFindings other = (set.failureFindings document).map h) :
    set.scan m other = (set.scan n document).map (List.map h) := by
  have searched : n.codeLines.mapM (set.lineFindings m other ∘ k) =
      (n.codeLines.mapM (set.lineFindings n document)).map (List.map (List.map h)) :=
    mapM_eq_map_mapM fun l lineIn => lineFindings_map (sameText l) (finding l lineIn)
  rw [scan, scan, lines, List.mapM_map, searched, failures]
  cases n.codeLines.mapM (set.lineFindings n document) with
  | error e => rfl
  | ok found =>
      refine congrArg Except.ok ?_
      rw [List.map_append, List.map_flatten]

end Twice

end RuleSet

end NotebookAudit

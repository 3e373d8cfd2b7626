import Mathlib.Data.List.Basic
import NotebookAudit.Proofs.Finding.Place
import NotebookAudit.Proofs.Rule.Compilation
import NotebookAudit.Proofs.Rule.Scan

/-!
What the rules of a snapshot do to each other.

A snapshot is searched to the end exactly if every rule of it would be by itself. The findings are
then those of the rules by themselves: line by line in the order of the rules, and at the end the
failures in the order of the rules (`RuleSet.findings_isolated`). A rule put in at any place adds
its own findings to those of the others and leaves these in their order. A rule that breaks off
takes the findings of all the others with it (`RuleSet.findings_lost`).
-/

namespace NotebookAudit

/-! ## Merging lists -/

/-- The third list holds the items of the first two and keeps the order of both. -/
inductive Merge {α : Type} : List α → List α → List α → Prop
  | nil : Merge [] [] []
  | left {x : α} {xs ys zs : List α} (rest : Merge xs ys zs) : Merge (x :: xs) ys (x :: zs)
  | right {y : α} {xs ys zs : List α} (rest : Merge xs ys zs) : Merge xs (y :: ys) (y :: zs)

namespace Merge

variable {α β : Type} {xs ys zs xs' ys' zs' : List α}

theorem of_left (xs : List α) : Merge xs [] xs := by
  induction xs with
  | nil => exact .nil
  | cons x rest ih => exact ih.left

theorem of_right (ys : List α) : Merge [] ys ys := by
  induction ys with
  | nil => exact .nil
  | cons y rest ih => exact ih.right

theorem append (first : Merge xs ys zs) (second : Merge xs' ys' zs') :
    Merge (xs ++ xs') (ys ++ ys') (zs ++ zs') := by
  induction first with
  | nil => exact second
  | left _ ih => exact ih.left
  | right _ ih => exact ih.right

/-- A list put in anywhere in another is merged with it. -/
theorem insert (before own after : List α) :
    Merge own (before ++ after) (before ++ (own ++ after)) :=
  (of_right before).append <| by
    simpa using (of_left own).append (of_right after)

theorem flatMap {f g h : β → List α} (ls : List β) (merged : ∀ l ∈ ls, Merge (f l) (g l) (h l)) :
    Merge (ls.flatMap f) (ls.flatMap g) (ls.flatMap h) := by
  induction ls with
  | nil => exact .nil
  | cons l rest ih =>
      rw [List.forall_mem_cons] at merged
      simp only [List.flatMap_cons]
      exact merged.1.append (ih merged.2)

end Merge

/-! ## Findings by their place -/

namespace Finding

/-- Whether a finding has the numbers of a line. -/
def isAt (l : PlacedLine) (f : Finding) : Bool :=
  f.cellNumber = some (l.cell + 1) && f.lineNumber = some (l.line + 1)

/-- Whether a finding is on the document as a whole. -/
def isOfDocument (f : Finding) : Bool := f.cellNumber.isNone

end Finding

/-! ## The findings of a rule -/

namespace Rule

variable {n : Notebook} {document : Text} {l m : PlacedLine} {r : Rule}

/-- The findings of a rule on a line: none if it is disabled or its pattern has a fault. -/
def hits (n : Notebook) (document : Text) (r : Rule) (l : PlacedLine) : List Finding :=
  if r.enabled then r.compiled?.toList.flatMap (CompiledRule.hits n document l) else []

/-- The findings of a rule on a document: one if it is enabled and its pattern has a fault. -/
def faults (document : Text) (r : Rule) : List Finding :=
  if r.enabled then r.failure?.toList.map (RuleFailure.finding document) else []

/-- An enabled rule whose pattern is compiled, and breaks off on some code line. -/
def BreaksOff (n : Notebook) (r : Rule) : Prop :=
  r.enabled = true ∧ ∃ p, Pattern.compile r.pattern = .ok p ∧
    ∃ l ∈ n.codeLines, CompiledRule.BreaksOn ⟨r, p⟩ l.text

theorem onLine_of_mem_hits {f : Finding} (member : f ∈ r.hits n document l) : f.OnLine n l := by
  unfold hits at member
  split at member
  · obtain ⟨c, -, hit⟩ := List.mem_flatMap.mp member
    obtain ⟨-, -, rfl⟩ := CompiledRule.mem_hits.mp hit
    exact ⟨rfl, rfl, rfl, rfl⟩
  · cases member

theorem isOfDocument_of_mem_faults {f : Finding} (member : f ∈ r.faults document) :
    f.isOfDocument = true := by
  unfold faults at member
  split at member
  · obtain ⟨_, -, rfl⟩ := List.mem_map.mp member
    rfl
  · cases member

/-- A finding of a rule on one line is at that line. -/
theorem isAt_of_mem_hits {f : Finding} (member : f ∈ r.hits n document l) :
    f.isAt l = true := by
  have onLine := onLine_of_mem_hits member
  simp [Finding.isAt, onLine.cellNumber, onLine.lineNumber]

/-- A finding of a rule on one line is not at another. -/
theorem not_isAt_of_mem_hits {f : Finding} (apart : l.Before m ∨ m.Before l)
    (member : f ∈ r.hits n document m) : f.isAt l ≠ true := by
  have onLine := onLine_of_mem_hits member
  simp only [Finding.isAt, onLine.cellNumber, onLine.lineNumber, Option.some.injEq,
    Bool.and_eq_true, decide_eq_true_eq, ne_eq, not_and]
  unfold PlacedLine.Before at apart
  omega

/-- Of the findings of a rule on all lines, those at one line are its findings there. -/
theorem flatMap_hits_filter_isAt {lines : List PlacedLine}
    (inOrder : lines.Pairwise PlacedLine.Before) (member : l ∈ lines) :
    (lines.flatMap (r.hits n document)).filter (Finding.isAt l) = r.hits n document l :=
  filter_flatMap_of_apart inOrder member (fun _ hit => isAt_of_mem_hits hit)
    fun _ _ apart _ hit => not_isAt_of_mem_hits apart hit

/-- The findings of a rule on a document are at no line. -/
theorem faults_filter_isAt : (r.faults document).filter (Finding.isAt l) = [] := by
  refine List.filter_eq_nil_iff.mpr fun f member => ?_
  have whole := isOfDocument_of_mem_faults member
  rw [Finding.isOfDocument, Option.isNone_iff_eq_none] at whole
  simp [Finding.isAt, whole]

theorem faults_filter_isOfDocument :
    (r.faults document).filter Finding.isOfDocument = r.faults document :=
  List.filter_eq_self.mpr fun _ member => isOfDocument_of_mem_faults member

/-- The findings of a rule on lines are not on the document. -/
theorem flatMap_hits_filter_isOfDocument (lines : List PlacedLine) :
    (lines.flatMap (r.hits n document)).filter Finding.isOfDocument = [] := by
  refine List.filter_eq_nil_iff.mpr fun f member => ?_
  obtain ⟨l, -, hit⟩ := List.mem_flatMap.mp member
  simp [Finding.isOfDocument, (onLine_of_mem_hits hit).cellNumber]

end Rule

/-! ## The findings of a snapshot -/

namespace RuleSet

variable {n : Notebook} {document : Text} {rules : List Rule} {r : Rule} {found : List Finding}

theorem matchFindings_ofOutcomes (rules : List Rule) (n : Notebook) (document : Text) :
    (ofOutcomes rules).matchFindings n document =
      n.codeLines.flatMap fun l => rules.flatMap fun r => r.hits n document l := by
  have onLine (l : PlacedLine) : (ofOutcomes rules).rules.flatMap (CompiledRule.hits n document l) =
      rules.flatMap fun r => r.hits n document l := by
    induction rules with
    | nil => rfl
    | cons r rest ih =>
        simp only [ofOutcomes] at ih ⊢
        rw [List.flatMap_cons, ← ih]
        cases enabled : r.enabled <;> cases compiled : r.compiled? <;>
          simp [Rule.hits, enabled, compiled]
  rw [matchFindings]
  exact congrArg n.codeLines.flatMap (funext onLine)

theorem failureFindings_ofOutcomes (rules : List Rule) (document : Text) :
    (ofOutcomes rules).failureFindings document = rules.flatMap (Rule.faults document) := by
  induction rules with
  | nil => rfl
  | cons r rest ih =>
      simp only [failureFindings, ofOutcomes] at ih ⊢
      rw [List.flatMap_cons, ← ih]
      cases enabled : r.enabled <;> cases failed : r.failure? <;>
        simp [Rule.faults, enabled, failed]

/-- The rules that a snapshot is compiled to break off exactly if some rule of it does. -/
theorem breaksOn_ofOutcomes_iff :
    (ofOutcomes rules).BreaksOn n ↔ ∃ r ∈ rules, r.BreaksOff n := by
  constructor
  · intro broken
    obtain ⟨l, lineIn, c, member, breaks⟩ := broken
    obtain ⟨ruleIn, enabled, compiled⟩ := mem_ofOutcomes_rules.mp member
    exact ⟨c.rule, ruleIn, enabled, c.pattern, compiled, l, lineIn, breaks⟩
  · intro someRule
    obtain ⟨r, ruleIn, enabled, p, compiled, l, lineIn, breaks⟩ := someRule
    exact ⟨l, lineIn, ⟨r, p⟩, mem_ofOutcomes_rules.mpr ⟨ruleIn, enabled, compiled⟩, breaks⟩

/-- The findings of a snapshot in a notebook, if the rules are compiled and the search comes to its
end. -/
def findings? (rules : List Rule) (n : Notebook) (document : Text) : Option (List Finding) :=
  (compile rules).toOption.bind fun set => (set.scan n document).toOption

/-- The findings of a rule by itself. -/
def alone (n : Notebook) (document : Text) (r : Rule) : List Finding :=
  (findings? [r] n document).getD []

/-- A snapshot has findings exactly if no rule of it stops the compilation or breaks off, and they
are those of the rules on the lines and then on the document. -/
theorem findings?_eq_some_iff :
    findings? rules n document = some found ↔
      (∀ r ∈ rules, ¬ (r.Stops ∨ r.BreaksOff n)) ∧
        found = (n.codeLines.flatMap fun l => rules.flatMap fun r => r.hits n document l) ++
          rules.flatMap (Rule.faults document) := by
  unfold findings?
  simp only [Option.bind_eq_some_iff, toOption_eq_some_iff, compile_eq_ok_iff, scan_eq_ok_iff]
  constructor
  · intro searched
    obtain ⟨_, ⟨goesOn, rfl⟩, sound, rfl⟩ := searched
    rw [matchFindings_ofOutcomes, failureFindings_ofOutcomes]
    refine ⟨?_, rfl⟩
    intro r member noFindings
    rcases noFindings with stops | breaksOff
    · exact goesOn r member stops
    · exact sound (breaksOn_ofOutcomes_iff.mpr ⟨r, member, breaksOff⟩)
  · intro together
    obtain ⟨sound, rfl⟩ := together
    refine ⟨_, ⟨fun r member stops => sound r member (.inl stops), rfl⟩, ?_, ?_⟩
    · intro broken
      obtain ⟨r, member, breaksOff⟩ := breaksOn_ofOutcomes_iff.mp broken
      exact sound r member (.inr breaksOff)
    · rw [matchFindings_ofOutcomes, failureFindings_ofOutcomes]

theorem findings?_isSome_iff :
    (findings? rules n document).isSome ↔ ∀ r ∈ rules, ¬ (r.Stops ∨ r.BreaksOff n) := by
  rw [Option.isSome_iff_exists]
  constructor
  · intro someFindings
    obtain ⟨found, searched⟩ := someFindings
    exact (findings?_eq_some_iff.mp searched).1
  · intro sound
    exact ⟨_, findings?_eq_some_iff.mpr ⟨sound, rfl⟩⟩

section Alone

variable (sound : ¬ (r.Stops ∨ r.BreaksOff n))

include sound

theorem findings?_alone : findings? [r] n document = some (alone n document r) := by
  have searched : (findings? [r] n document).isSome :=
    findings?_isSome_iff.mpr (List.forall_mem_singleton.mpr sound)
  obtain ⟨found, searched⟩ := Option.isSome_iff_exists.mp searched
  rw [alone, searched, Option.getD_some]

theorem alone_eq :
    alone n document r = n.codeLines.flatMap (r.hits n document) ++ r.faults document := by
  rw [(findings?_eq_some_iff.mp (findings?_alone sound)).2]
  simp only [List.flatMap_singleton]

/-- The findings of a rule by itself that are at a line are its findings there. -/
theorem alone_filter_isAt {l : PlacedLine} (member : l ∈ n.codeLines) :
    (alone n document r).filter (Finding.isAt l) = r.hits n document l := by
  rw [alone_eq sound, List.filter_append,
    Rule.flatMap_hits_filter_isAt n.codeLines_pairwise member, Rule.faults_filter_isAt,
    List.append_nil]

theorem alone_filter_isOfDocument :
    (alone n document r).filter Finding.isOfDocument = r.faults document := by
  rw [alone_eq sound, List.filter_append, Rule.flatMap_hits_filter_isOfDocument,
    Rule.faults_filter_isOfDocument, List.nil_append]

end Alone

/-- The findings of a snapshot are those of its rules by themselves, brought together line by
line. -/
theorem findings?_eq_of_alone (searched : findings? rules n document = some found) :
    found =
      (n.codeLines.flatMap fun l => rules.flatMap fun r =>
        (alone n document r).filter (Finding.isAt l)) ++
      rules.flatMap fun r => (alone n document r).filter Finding.isOfDocument := by
  obtain ⟨sound, rfl⟩ := findings?_eq_some_iff.mp searched
  congr 1
  · refine List.flatMap_congr fun l lineIn => List.flatMap_congr fun r ruleIn => ?_
    exact (alone_filter_isAt (sound r ruleIn) lineIn).symm
  · exact List.flatMap_congr fun r ruleIn => (alone_filter_isOfDocument (sound r ruleIn)).symm

/-- A rule put in at any place adds its own findings to those of the others. -/
theorem merge_of_insert {before after : List Rule}
    (searched : findings? (before ++ r :: after) n document = some found) :
    ∃ others, findings? (before ++ after) n document = some others ∧
      Merge (alone n document r) others found := by
  obtain ⟨sound, rfl⟩ := findings?_eq_some_iff.mp searched
  have soundOthers : ∀ q ∈ before ++ after, ¬ (q.Stops ∨ q.BreaksOff n) := fun q member =>
    sound q (((List.sublist_cons_self r after).append_left before).subset member)
  refine ⟨_, findings?_eq_some_iff.mpr ⟨soundOthers, rfl⟩, ?_⟩
  rw [alone_eq (sound r (by simp))]
  simp only [List.flatMap_append, List.flatMap_cons]
  exact (Merge.flatMap _ fun l _ => .insert _ _ _).append (.insert _ _ _)

/-- A disabled rule may as well not be there. -/
theorem findings?_of_disabled (before after : List Rule) (disabled : r.enabled = false) :
    findings? (before ++ r :: after) n document = findings? (before ++ after) n document := by
  have noOutcome : ¬ (r.Stops ∨ r.BreaksOff n) := by
    intro noFindings
    rcases noFindings with stops | ⟨enabled, -⟩
    · exact Rule.not_stops_of_disabled disabled stops
    · rw [disabled] at enabled
      cases enabled
  have noHits : r.hits n document = fun _ => [] := by
    funext l
    rw [Rule.hits, disabled]
    rfl
  have noFaults : r.faults document = [] := by
    rw [Rule.faults, disabled]
    rfl
  refine Option.ext fun found => ?_
  rw [findings?_eq_some_iff, findings?_eq_some_iff]
  simp only [List.forall_mem_append, List.forall_mem_cons, List.flatMap_append, List.flatMap_cons,
    noOutcome, noHits, noFaults, List.nil_append, not_false_eq_true, true_and]

/-- Rules do not get in each other's way unless one stops the compilation or breaks off the search.
The findings of a snapshot are those of its rules by themselves, at every line and at the end in the
order of the rules; a rule put in, taken out or disabled at any place makes a difference of its own
findings. -/
theorem findings_isolated (rules : List Rule) (n : Notebook) (document : Text) :
    ((findings? rules n document).isSome ↔ ∀ r ∈ rules, (findings? [r] n document).isSome) ∧
      (∀ r, findings? [r] n document = none ↔ r.Stops ∨ r.BreaksOff n) ∧
      (∀ found, findings? rules n document = some found → found =
        (n.codeLines.flatMap fun l => rules.flatMap fun r =>
          (alone n document r).filter (Finding.isAt l)) ++
        rules.flatMap fun r => (alone n document r).filter Finding.isOfDocument) ∧
      ∀ before r after, rules = before ++ r :: after →
        (∀ found, findings? rules n document = some found →
          ∃ others, findings? (before ++ after) n document = some others ∧
            Merge (alone n document r) others found) ∧
        findings? (before ++ { r with enabled := false } :: after) n document =
          findings? (before ++ after) n document := by
  have byItself (r : Rule) :
      (findings? [r] n document).isSome ↔ ¬ (r.Stops ∨ r.BreaksOff n) := by
    rw [findings?_isSome_iff, List.forall_mem_singleton]
  refine ⟨?_, ?_, fun found searched => findings?_eq_of_alone searched, ?_⟩
  · simp only [findings?_isSome_iff, List.forall_mem_singleton]
  · intro r
    rw [← Option.not_isSome_iff_eq_none, byItself, not_not]
  · intro before r after same
    subst same
    exact ⟨fun found searched => merge_of_insert searched, findings?_of_disabled before after rfl⟩

/-- A rule that is found wherever there is an `x`. -/
def plainRule : Rule where
  id := "2"
  name := "Equis"
  message := "m"
  pattern := "x"
  severity := .warning
  enabled := true

/-- A notebook of one line on which the plain rule is found and the possessive rule breaks off. -/
def xyzNotebook : Notebook := ⟨[⟨.code, ["xyz"]⟩]⟩

/-- A rule that breaks off takes the findings of another rule with it, though no pattern stops the
compilation. -/
theorem findings_lost :
    (∀ r ∈ [possessiveRule, plainRule], ¬ r.Stops) ∧
      findings? [plainRule] xyzNotebook "job.ipynb" =
        some [plainRule.finding xyzNotebook "job.ipynb" ⟨0, 0, "xyz"⟩] ∧
      findings? [possessiveRule, plainRule] xyzNotebook "job.ipynb" = none := by
  have compiled : (compile [possessiveRule, plainRule]).toOption.isSome = true := by
    decide +kernel
  refine ⟨?_, by decide +kernel, by decide +kernel⟩
  obtain ⟨set, compiled⟩ := Option.isSome_iff_exists.mp compiled
  exact (compile_eq_ok_iff.mp (toOption_eq_some_iff.mp compiled)).1

end RuleSet

end NotebookAudit

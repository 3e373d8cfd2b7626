import NotebookAudit.Proofs.Analysis.Outcome
import NotebookAudit.Proofs.Pattern.Limits
import NotebookAudit.Proofs.Rule.Compilation
import NotebookAudit.Workspace

/-!
When the analysis of a document stops without findings.

The bytes of a document under a name have findings once the rules are compiled, so a service that is
given rules stops exactly if one of them stops the compilation
(`Workspace.analyze_returns_or_stops`). `Pattern.compile_shown` says what the pattern of such a rule
looks like, and `Workspace.analyze_stops` shows one.
-/

namespace NotebookAudit

/-- The error of a rule that stops the compilation has its cause in the text of the pattern. -/
theorem Pattern.StopsWith.shown {t : Text} {e : Pattern.Error} (stops : Pattern.StopsWith t e) :
    e.ShownBy t := Pattern.compile_shown stops.1

namespace Workspace

/-- A service compiles the rules that it is given and analyzes the document with them. -/
theorem analyze_given (d : Document) (rules : List Rule) (w : Workspace) (service : Service) :
    analyze d (some rules) false { w with service := some service } =
      (lift .pattern (RuleSet.compile rules) >>= fun set => lift .analysis (d.analyze set))
        { w with service := some service } := rfl

/-- The analysis of the bytes of a document under a name, with rules that are given, leaves the
workspace as it is. It has findings exactly if no rule stops the compilation, and every enabled rule
is then compiled or has failed once; otherwise the first rule that stops decides the error, and its
pattern shows the cause. -/
theorem analyze_returns_or_stops (rules : List Rule) (name : Text) (bytes : Bytes) (w : Workspace)
    (service : Service) :
    ((∀ r ∈ rules, ¬ r.Stops) ∧ ∃ set findings, RuleSet.compile rules = .ok set ∧
      (set.rules.map (·.rule) ++ set.failures.map (·.rule)).Perm (rules.filter (·.enabled)) ∧
      (∀ c ∈ set.rules, Pattern.compile c.rule.pattern = .ok c.pattern) ∧
      (∀ f ∈ set.failures, Pattern.compile f.rule.pattern = .error (.invalid f.fault)) ∧
      analyzeNamed name (.bytes bytes) set = .ok findings ∧
      analyze ⟨some name, .bytes bytes⟩ (some rules) false { w with service := some service } =
        (.ok findings, { w with service := some service })) ∨
    ∃ before r after e, rules = before ++ r :: after ∧ (∀ q ∈ before, ¬ q.Stops) ∧
      r.enabled = true ∧ Pattern.StopsWith r.pattern e ∧ e.ShownBy r.pattern ∧
      RuleSet.compile rules = .error e ∧
      analyze ⟨some name, .bytes bytes⟩ (some rules) false { w with service := some service } =
        (.error (.pattern e), { w with service := some service }) := by
  rcases RuleSet.goesOn_or_first_stop rules with
    goesOn | ⟨before, r, after, e, rfl, goesOn, enabled, stops⟩
  · have compiled := RuleSet.compile_eq_ofOutcomes goesOn
    obtain ⟨findings, analyzed, -⟩ := analyzeNamed_findings name bytes (RuleSet.ofOutcomes rules)
    refine .inl ⟨goesOn, _, findings, compiled, RuleSet.ofOutcomes_perm goesOn, ?_, ?_, analyzed,
      ?_⟩
    · exact fun c member => (RuleSet.mem_ofOutcomes_rules.mp member).2.2
    · exact fun f member => (RuleSet.mem_ofOutcomes_failures.mp member).2.2
    · rw [analyze_given, compiled]
      show (lift .analysis (analyzeNamed name (.bytes bytes) _)) _ = _
      rw [analyzed]
      rfl
  · have stopped := RuleSet.compile_append_stops goesOn enabled stops after
    refine .inr ⟨before, r, after, e, rfl, goesOn, enabled, stops, stops.shown, stopped, ?_⟩
    rw [analyze_given, stopped]
    rfl

end Workspace

/-- A rule whose pattern turns on the switches for ASCII and for every script. -/
def mixedRule : Rule where
  id := "1"
  name := "Mixta"
  message := "m"
  pattern := "(?a)(?u)x"
  severity := .warning
  enabled := true

/-- A rule that neither is compiled nor fails leaves a document without findings. -/
theorem Workspace.analyze_stops :
    RuleSet.compile [mixedRule] = .error .flagConflict ∧
      analyze ⟨some "x.py", .bytes [0x78]⟩ (some [mixedRule]) false
          { empty with service := some ⟨none, none, none⟩ } =
        (.error (.pattern .flagConflict),
          { empty with service := some ⟨none, none, none⟩ }) := by
  have stopped : RuleSet.compile [mixedRule] = .error .flagConflict := by
    have answer : (match RuleSet.compile [mixedRule] with
        | .ok _ => none
        | .error e => some e) = some Pattern.Error.flagConflict := by
      decide +kernel
    cases compiled : RuleSet.compile [mixedRule] with
    | ok set =>
        rw [compiled] at answer
        cases answer
    | error e =>
        rw [compiled] at answer
        exact congrArg Except.error (Option.some.inj answer)
  refine ⟨stopped, ?_⟩
  rw [analyze_given, stopped]
  rfl

end NotebookAudit

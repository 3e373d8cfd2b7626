import NotebookAudit.Rule.Set

/-!
Compiling a snapshot of rules.

Every enabled rule of a snapshot has an outcome of its own: it is compiled, it fails with a fault of
its pattern, or it stops the compilation of the whole snapshot with an error that is no such fault.
`RuleSet.compile_eq_ok_iff` says that a snapshot is compiled exactly if none of its rules stops it,
and that the result then holds the outcomes of the enabled rules in their order, and
`RuleSet.ofOutcomes_perm` that every enabled rule is in the result once.
-/

namespace NotebookAudit

/-- Compiling the pattern `t` ends in the error `e`, which is no fault of the pattern. -/
def Pattern.StopsWith (t : Text) (e : Pattern.Error) : Prop :=
  Pattern.compile t = .error e ∧ ∀ fault, e ≠ .invalid fault

/-! ## The outcome of one rule -/

namespace Rule

/-- The compiled form of a rule, if its pattern is one. -/
def compiled? (r : Rule) : Option CompiledRule :=
  match Pattern.compile r.pattern with
  | .ok p => some ⟨r, p⟩
  | .error _ => none

/-- The failure of a rule, if its pattern has a fault. -/
def failure? (r : Rule) : Option RuleFailure :=
  match Pattern.compile r.pattern with
  | .error (.invalid fault) => some ⟨r, fault⟩
  | _ => none

/-- An enabled rule that stops the compilation of every snapshot that holds it. -/
def Stops (r : Rule) : Prop := r.enabled = true ∧ ∃ e, Pattern.StopsWith r.pattern e

theorem compiled?_eq_some_iff {r : Rule} {c : CompiledRule} :
    r.compiled? = some c ↔ c.rule = r ∧ Pattern.compile r.pattern = .ok c.pattern := by
  unfold compiled?
  constructor
  · intro found
    split at found
    · next p compiled =>
      cases found
      exact ⟨rfl, compiled⟩
    · cases found
  · intro outcome
    obtain ⟨rfl, compiled⟩ := outcome
    rw [compiled]

theorem failure?_eq_some_iff {r : Rule} {f : RuleFailure} :
    r.failure? = some f ↔
      f.rule = r ∧ Pattern.compile r.pattern = .error (.invalid f.fault) := by
  unfold failure?
  constructor
  · intro found
    split at found
    · next fault compiled =>
      cases found
      exact ⟨rfl, compiled⟩
    · cases found
  · intro outcome
    obtain ⟨rfl, compiled⟩ := outcome
    rw [compiled]

/-- An enabled rule is compiled, or fails with a fault of its pattern, or stops the compilation. -/
theorem outcome_cases (r : Rule) :
    (∃ p, Pattern.compile r.pattern = .ok p) ∨
      (∃ fault, Pattern.compile r.pattern = .error (.invalid fault)) ∨
        ∃ e, Pattern.StopsWith r.pattern e := by
  cases compiled : Pattern.compile r.pattern with
  | ok p => exact .inl ⟨p, rfl⟩
  | error e =>
      refine .inr ?_
      cases e with
      | invalid fault => exact .inl ⟨fault, rfl⟩
      | tooDeep | flagConflict | numeral =>
          exact .inr ⟨_, compiled, fun _ same => nomatch same⟩

theorem not_stops_of_disabled {r : Rule} (disabled : r.enabled = false) : ¬ r.Stops := by
  intro stops
  obtain ⟨enabled, -⟩ := stops
  rw [disabled] at enabled
  cases enabled

end Rule

/-! ## Snapshots -/

namespace RuleSet

/-- The outcomes of the enabled rules of a snapshot, in their order. -/
def ofOutcomes (rules : List Rule) : RuleSet where
  rules := (rules.filter (·.enabled)).filterMap Rule.compiled?
  failures := (rules.filter (·.enabled)).filterMap Rule.failure?

section Cons

variable {r : Rule} (rest : List Rule)

theorem compile_cons_of_disabled (disabled : r.enabled = false) :
    compile (r :: rest) = compile rest := by
  rw [compile, disabled]
  rfl

theorem compile_cons_of_ok {p : Pattern} (enabled : r.enabled = true)
    (compiled : Pattern.compile r.pattern = .ok p) :
    compile (r :: rest) = (compile rest).map fun set => ⟨⟨r, p⟩ :: set.rules, set.failures⟩ := by
  rw [compile, enabled, compiled]
  cases compile rest <;> rfl

theorem compile_cons_of_invalid {fault : Pattern.Fault} (enabled : r.enabled = true)
    (failed : Pattern.compile r.pattern = .error (.invalid fault)) :
    compile (r :: rest) =
      (compile rest).map fun set => ⟨set.rules, ⟨r, fault⟩ :: set.failures⟩ := by
  rw [compile, enabled, failed]
  cases compile rest <;> rfl

theorem compile_cons_of_stopsWith {e : Pattern.Error} (enabled : r.enabled = true)
    (stops : Pattern.StopsWith r.pattern e) : compile (r :: rest) = .error e := by
  rw [compile, enabled, stops.1]
  cases e with
  | invalid fault => exact absurd rfl (stops.2 fault)
  | tooDeep | flagConflict | numeral => rfl

theorem ofOutcomes_cons_of_disabled (disabled : r.enabled = false) :
    ofOutcomes (r :: rest) = ofOutcomes rest := by
  simp [ofOutcomes, disabled]

theorem ofOutcomes_cons_of_ok {p : Pattern} (enabled : r.enabled = true)
    (compiled : Pattern.compile r.pattern = .ok p) :
    ofOutcomes (r :: rest) =
      ⟨⟨r, p⟩ :: (ofOutcomes rest).rules, (ofOutcomes rest).failures⟩ := by
  simp [ofOutcomes, enabled, Rule.compiled?, Rule.failure?, compiled]

theorem ofOutcomes_cons_of_invalid {fault : Pattern.Fault} (enabled : r.enabled = true)
    (failed : Pattern.compile r.pattern = .error (.invalid fault)) :
    ofOutcomes (r :: rest) =
      ⟨(ofOutcomes rest).rules, ⟨r, fault⟩ :: (ofOutcomes rest).failures⟩ := by
  simp [ofOutcomes, enabled, Rule.compiled?, Rule.failure?, failed]

end Cons

/-- A snapshot without a rule that stops it is compiled to the outcomes of its enabled rules. -/
theorem compile_eq_ofOutcomes {rules : List Rule} (goesOn : ∀ r ∈ rules, ¬ r.Stops) :
    compile rules = .ok (ofOutcomes rules) := by
  induction rules with
  | nil => rfl
  | cons r rest ih =>
      rw [List.forall_mem_cons] at goesOn
      have compiledRest := ih goesOn.2
      cases enabled : r.enabled with
      | false =>
          rw [compile_cons_of_disabled rest enabled, ofOutcomes_cons_of_disabled rest enabled]
          exact compiledRest
      | true =>
          rcases r.outcome_cases with ⟨p, compiled⟩ | ⟨fault, failed⟩ | stops
          · rw [compile_cons_of_ok rest enabled compiled,
              ofOutcomes_cons_of_ok rest enabled compiled, compiledRest]
            rfl
          · rw [compile_cons_of_invalid rest enabled failed,
              ofOutcomes_cons_of_invalid rest enabled failed, compiledRest]
            rfl
          · exact absurd ⟨enabled, stops⟩ goesOn.1

/-- In front of the first rule that stops the compilation there may be any rules that do not. -/
theorem compile_append_stops {before : List Rule} {r : Rule} {e : Pattern.Error}
    (goesOn : ∀ q ∈ before, ¬ q.Stops) (enabled : r.enabled = true)
    (stops : Pattern.StopsWith r.pattern e) (after : List Rule) :
    compile (before ++ r :: after) = .error e := by
  induction before with
  | nil => exact compile_cons_of_stopsWith after enabled stops
  | cons q before ih =>
      rw [List.forall_mem_cons] at goesOn
      have stopped := ih goesOn.2
      rw [List.cons_append]
      cases enabledFirst : q.enabled with
      | false => rw [compile_cons_of_disabled _ enabledFirst, stopped]
      | true =>
          rcases q.outcome_cases with ⟨p, compiled⟩ | ⟨fault, failed⟩ | stopsFirst
          · rw [compile_cons_of_ok _ enabledFirst compiled, stopped]
            rfl
          · rw [compile_cons_of_invalid _ enabledFirst failed, stopped]
            rfl
          · exact absurd ⟨enabledFirst, stopsFirst⟩ goesOn.1

/-- A snapshot either goes on to its end, or splits at the first rule that stops it. -/
theorem goesOn_or_first_stop (rules : List Rule) :
    (∀ r ∈ rules, ¬ r.Stops) ∨
      ∃ before r after e, rules = before ++ r :: after ∧ (∀ q ∈ before, ¬ q.Stops) ∧
        r.enabled = true ∧ Pattern.StopsWith r.pattern e := by
  induction rules with
  | nil => exact .inl (List.forall_mem_nil _)
  | cons r rest ih =>
      by_cases stops : r.Stops
      · obtain ⟨enabled, e, stopsWith⟩ := stops
        exact .inr ⟨[], r, rest, e, rfl, List.forall_mem_nil _, enabled, stopsWith⟩
      · rcases ih with goesOn | ⟨before, q, after, e, rfl, goesOn, enabled, stopsWith⟩
        · exact .inl (List.forall_mem_cons.mpr ⟨stops, goesOn⟩)
        · exact .inr ⟨r :: before, q, after, e, rfl, List.forall_mem_cons.mpr ⟨stops, goesOn⟩,
            enabled, stopsWith⟩

/-- A snapshot is compiled exactly if none of its rules stops it, and the result holds the outcomes
of its enabled rules. -/
theorem compile_eq_ok_iff {rules : List Rule} {set : RuleSet} :
    compile rules = .ok set ↔ (∀ r ∈ rules, ¬ r.Stops) ∧ set = ofOutcomes rules := by
  constructor
  · intro compiled
    rcases goesOn_or_first_stop rules with
      goesOn | ⟨before, r, after, e, rfl, goesOn, enabled, stops⟩
    · rw [compile_eq_ofOutcomes goesOn] at compiled
      exact ⟨goesOn, (Except.ok.inj compiled).symm⟩
    · rw [compile_append_stops goesOn enabled stops] at compiled
      cases compiled
  · intro outcomes
    obtain ⟨goesOn, rfl⟩ := outcomes
    exact compile_eq_ofOutcomes goesOn

/-- Every enabled rule of a snapshot that is compiled is in the result once, as a compiled rule or
as a failure. -/
theorem ofOutcomes_perm {rules : List Rule} (goesOn : ∀ r ∈ rules, ¬ r.Stops) :
    ((ofOutcomes rules).rules.map (·.rule) ++ (ofOutcomes rules).failures.map (·.rule)).Perm
      (rules.filter (·.enabled)) := by
  induction rules with
  | nil => exact .nil
  | cons r rest ih =>
      rw [List.forall_mem_cons] at goesOn
      have permRest := ih goesOn.2
      cases enabled : r.enabled with
      | false =>
          rw [ofOutcomes_cons_of_disabled rest enabled, List.filter_cons_of_neg (by simp [enabled])]
          exact permRest
      | true =>
          rw [List.filter_cons_of_pos enabled]
          rcases r.outcome_cases with ⟨p, compiled⟩ | ⟨fault, failed⟩ | stops
          · rw [ofOutcomes_cons_of_ok rest enabled compiled]
            exact permRest.cons r
          · rw [ofOutcomes_cons_of_invalid rest enabled failed]
            exact List.perm_middle.trans (permRest.cons r)
          · exact absurd ⟨enabled, stops⟩ goesOn.1

/-- A compiled rule is an enabled rule of the snapshot with the compiled form of its pattern. -/
theorem mem_ofOutcomes_rules {rules : List Rule} {c : CompiledRule} :
    c ∈ (ofOutcomes rules).rules ↔
      c.rule ∈ rules ∧ c.rule.enabled = true ∧ Pattern.compile c.rule.pattern = .ok c.pattern := by
  simp only [ofOutcomes, List.mem_filterMap, List.mem_filter, Rule.compiled?_eq_some_iff]
  constructor
  · intro member
    obtain ⟨r, ⟨inSnapshot, enabled⟩, rfl, compiled⟩ := member
    exact ⟨inSnapshot, enabled, compiled⟩
  · intro member
    obtain ⟨inSnapshot, enabled, compiled⟩ := member
    exact ⟨c.rule, ⟨inSnapshot, enabled⟩, rfl, compiled⟩

/-- A failure is an enabled rule of the snapshot with the fault of its pattern. -/
theorem mem_ofOutcomes_failures {rules : List Rule} {f : RuleFailure} :
    f ∈ (ofOutcomes rules).failures ↔
      f.rule ∈ rules ∧ f.rule.enabled = true ∧
        Pattern.compile f.rule.pattern = .error (.invalid f.fault) := by
  simp only [ofOutcomes, List.mem_filterMap, List.mem_filter, Rule.failure?_eq_some_iff]
  constructor
  · intro member
    obtain ⟨r, ⟨inSnapshot, enabled⟩, rfl, failed⟩ := member
    exact ⟨inSnapshot, enabled, failed⟩
  · intro member
    obtain ⟨inSnapshot, enabled, failed⟩ := member
    exact ⟨f.rule, ⟨inSnapshot, enabled⟩, rfl, failed⟩

end RuleSet

end NotebookAudit

import Mathlib.Algebra.GroupWithZero.Nat
import NotebookAudit.Finding
import NotebookAudit.Proofs.Traversal

/-!
The summaries of a report.

The findings are counted one after another. What the counts are at any time is stated once
(`Report.Tallies`): the kinds stand in the order in which they first appear, each has the number of times
it occurs, and the numbers add up to that of all findings. One more finding keeps this true
(`Report.Tallies.addKind`), so it holds of every report (`Report.tallies_countByKind`). It leaves no choice
for the kinds and their order, so the summary of two reports together follows from it, without another look
at how findings are counted (`Report.Tallies.kinds_append`).

`Report.summaries_exact` puts together what the summaries and the parts of a report say.
-/

namespace NotebookAudit.Report

variable {r : Report} {counts : List (Text × Nat)} {xs ys ks ks' : List Text}

/-! ## One more of a kind -/

/-- The number that counts give a kind; zero if they do not hold it. -/
def numberOf (kind : Text) (counts : List (Text × Nat)) : Nat := (counts.lookup kind).getD 0

theorem numberOf_cons (kind : Text) (p : Text × Nat) (counts : List (Text × Nat)) :
    numberOf kind (p :: counts) = if p.1 = kind then p.2 else numberOf kind counts := by
  by_cases same : p.1 = kind
  · rw [if_pos same, numberOf, List.lookup_cons, beq_iff_eq.mpr same.symm]
    rfl
  · rw [if_neg same, numberOf, List.lookup_cons, beq_eq_false_iff_ne.mpr (Ne.symm same)]
    rfl

theorem numberOf_addKind (kind added : Text) (counts : List (Text × Nat)) :
    numberOf kind (addKind added counts) =
      numberOf kind counts + if added = kind then 1 else 0 := by
  induction counts with
  | nil =>
      rw [addKind, numberOf_cons]
      exact (Nat.zero_add _).symm
  | cons p rest ih =>
      rw [addKind]
      split
      · next same =>
        rw [numberOf_cons, numberOf_cons, ← same]
        split <;> rfl
      · next other =>
        rw [numberOf_cons, numberOf_cons, ih]
        split
        · next found => rw [if_neg fun again => other (found.trans again.symm), Nat.add_zero]
        · rfl

/-- A new kind comes last, and no other moves. -/
theorem kinds_addKind (added : Text) (counts : List (Text × Nat)) :
    (addKind added counts).map Prod.fst =
      if added ∈ counts.map Prod.fst then counts.map Prod.fst
      else counts.map Prod.fst ++ [added] := by
  induction counts with
  | nil => rfl
  | cons p rest ih =>
      rw [addKind]
      split
      · next same => rw [if_pos (by simp [same]), List.map_cons, List.map_cons]
      · next other =>
        rw [List.map_cons, ih, List.map_cons]
        by_cases known : added ∈ rest.map Prod.fst
        · rw [if_pos known, if_pos (List.mem_cons_of_mem _ known)]
        · have new : added ∉ p.1 :: rest.map Prod.fst := by
            rw [List.mem_cons, not_or]
            exact ⟨Ne.symm other, known⟩
          rw [if_neg known, if_neg new, List.cons_append]

theorem sum_addKind (added : Text) (counts : List (Text × Nat)) :
    ((addKind added counts).map Prod.snd).sum = (counts.map Prod.snd).sum + 1 := by
  induction counts with
  | nil => rfl
  | cons p rest ih =>
      rw [addKind]
      split
      · simp only [List.map_cons, List.sum_cons]
        exact Nat.add_right_comm _ _ _
      · simp only [List.map_cons, List.sum_cons]
        rw [ih, Nat.add_assoc]

/-- Where no kind comes twice, an entry is a kind with its number. -/
theorem mem_iff_numberOf (distinct : (counts.map Prod.fst).Nodup) (kind : Text) (n : Nat) :
    (kind, n) ∈ counts ↔ kind ∈ counts.map Prod.fst ∧ numberOf kind counts = n := by
  induction counts with
  | nil => simp
  | cons p rest ih =>
      rw [List.map_cons, List.nodup_cons] at distinct
      rw [List.mem_cons, ih distinct.2, List.map_cons, List.mem_cons, numberOf_cons]
      by_cases same : p.1 = kind
      · subst same
        simp [distinct.1, Prod.ext_iff, eq_comm]
      · simp [same, Ne.symm same, Prod.ext_iff]

/-! ## The order of first appearance -/

/-- Kinds in the order in which they first appear in a list. -/
def InOrderOf (xs ks : List Text) : Prop := ks.Pairwise fun k k' => xs.idxOf k < xs.idxOf k'

theorem InOrderOf.nodup (ordered : InOrderOf xs ks) : ks.Nodup := by
  refine List.Pairwise.imp ?_ ordered
  rintro k _ earlier rfl
  exact Nat.lt_irrefl _ earlier

/-- The order leaves no choice: the same kinds in it are the same list. -/
theorem InOrderOf.eq_of_mem_iff (ordered : InOrderOf xs ks) (ordered' : InOrderOf xs ks')
    (same : ∀ k, k ∈ ks ↔ k ∈ ks') : ks = ks' := by
  refine List.Perm.eq_of_pairwise ?_ ordered ordered'
    ((List.perm_ext_iff_of_nodup ordered.nodup ordered'.nodup).mpr same)
  exact fun k k' _ _ earlier later => absurd earlier (Nat.lt_asymm later)

/-- Kinds that appear already stay in their order when more follows, and new ones come behind them in the
order of what follows. -/
theorem InOrderOf.append (ordered : InOrderOf xs ks) (ordered' : InOrderOf ys ks')
    (known : ∀ k ∈ ks, k ∈ xs) (new : ∀ k ∈ ks', k ∉ xs) : InOrderOf (xs ++ ys) (ks ++ ks') := by
  have atOld (k : Text) (member : k ∈ ks) : (xs ++ ys).idxOf k = xs.idxOf k := by
    rw [List.idxOf_append, if_pos (known k member)]
  have atNew (k : Text) (member : k ∈ ks') : (xs ++ ys).idxOf k = ys.idxOf k + xs.length := by
    rw [List.idxOf_append, if_neg (new k member)]
  refine List.pairwise_append.mpr ⟨?_, ?_, ?_⟩
  · refine ordered.imp_of_mem fun member member' earlier => ?_
    rwa [atOld _ member, atOld _ member']
  · refine ordered'.imp_of_mem fun member member' earlier => ?_
    rw [atNew _ member, atNew _ member']
    exact Nat.add_lt_add_right earlier _
  · intro k member k' member'
    rw [atOld k member, atNew k' member']
    exact Nat.lt_of_lt_of_le (List.idxOf_lt_length_iff.mpr (known k member)) (Nat.le_add_left _ _)

/-! ## What every count keeps -/

/-- The counts are those of the kinds of a list: the kinds that occur in it, in the order in which they
first appear, each with the number of times it occurs, and together as many as the list is long. -/
structure Tallies (xs : List Text) (counts : List (Text × Nat)) : Prop where
  members : ∀ kind, kind ∈ counts.map Prod.fst ↔ kind ∈ xs
  ordered : InOrderOf xs (counts.map Prod.fst)
  numbers : ∀ kind, numberOf kind counts = xs.count kind
  total : (counts.map Prod.snd).sum = xs.length

theorem tallies_nil : Tallies [] [] where
  members := fun _ => Iff.rfl
  ordered := .nil
  numbers := fun _ => rfl
  total := rfl

/-- One more of a kind keeps the counts right. -/
theorem Tallies.addKind (tallies : Tallies xs counts) (added : Text) :
    Tallies (xs ++ [added]) (addKind added counts) where
  members := by
    intro kind
    rw [kinds_addKind, List.mem_append, List.mem_singleton, ← tallies.members kind]
    split
    · next known =>
      refine ⟨.inl, ?_⟩
      rintro (old | rfl)
      · exact old
      · exact known
    · rw [List.mem_append, List.mem_singleton]
  ordered := by
    have kept : ∀ k ∈ counts.map Prod.fst, k ∈ xs := fun k => (tallies.members k).mp
    rw [kinds_addKind]
    split
    · have stays : InOrderOf (xs ++ [added]) (counts.map Prod.fst ++ []) :=
        tallies.ordered.append .nil kept fun _ member => nomatch member
      rwa [List.append_nil] at stays
    · next new =>
      refine tallies.ordered.append (List.pairwise_singleton _ _) kept fun k member => ?_
      rw [List.mem_singleton.mp member, ← tallies.members]
      exact new
  numbers := by
    intro kind
    rw [numberOf_addKind, tallies.numbers, List.count_append, List.count_singleton]
    simp only [beq_iff_eq]
  total := by
    rw [sum_addKind, tallies.total, List.length_append, List.length_singleton]

/-- Findings that are counted one after another keep the counts right. -/
theorem Tallies.foldl (tallies : Tallies xs counts) (findings : List Finding) :
    Tallies (xs ++ findings.map (·.kind))
      (findings.foldl (fun counts f => Report.addKind f.kind counts) counts) := by
  induction findings generalizing xs counts with
  | nil => simpa using tallies
  | cons f rest ih =>
      have next := ih (tallies.addKind f.kind)
      rwa [List.append_assoc, List.singleton_append] at next

/-- The kinds of the findings, in order. -/
def kinds (r : Report) : List Text := r.findings.map (·.kind)

theorem tallies_countByKind (r : Report) : Tallies r.kinds r.countByKind :=
  tallies_nil.foldl r.findings

/-- The kinds of a list that is followed by another are those of the first, and behind them the new ones of
the other. -/
theorem Tallies.kinds_append {first second both : List (Text × Nat)} (tallies : Tallies xs first)
    (tallies' : Tallies ys second) (together : Tallies (xs ++ ys) both) :
    both.map Prod.fst =
      first.map Prod.fst ++ (second.map Prod.fst).filter (· ∉ first.map Prod.fst) := by
  have new : ∀ k ∈ (second.map Prod.fst).filter (· ∉ first.map Prod.fst), k ∉ xs := by
    intro k member
    rw [← tallies.members]
    exact of_decide_eq_true (List.mem_filter.mp member).2
  -- both sides are in the order of the whole list, so they are the same if they have the same kinds
  refine together.ordered.eq_of_mem_iff
    (tallies.ordered.append (tallies'.ordered.sublist List.filter_sublist)
      (fun k => (tallies.members k).mp) new) ?_
  intro k
  rw [together.members, List.mem_append, List.mem_append, List.mem_filter, decide_eq_true_eq,
    tallies.members, tallies'.members]
  by_cases old : k ∈ xs <;> simp [old]

/-! ## Severities and documents -/

/-- The severities of the findings, in order. -/
def severities (r : Report) : List Severity := r.findings.map (·.severity)

theorem countBySeverity_eq (r : Report) :
    r.countBySeverity = Severity.all.map fun s => (s, r.severities.count s) := by
  refine List.map_congr_left fun s _ => ?_
  rw [severities, List.count, List.countP_map]
  rfl

theorem sum_countBySeverity (r : Report) :
    (r.countBySeverity.map Prod.snd).sum = r.findings.length := by
  have parts : (Severity.all.flatMap fun s => r.findings.filter (·.severity = s)).Perm r.findings :=
    flatMap_filter_perm (by decide) fun f _ => by cases f.severity <;> decide
  rw [← parts.length_eq, List.length_flatMap, countBySeverity, List.map_map]
  congr 1
  refine List.map_congr_left fun s _ => ?_
  exact List.countP_eq_length_filter

/-- The parts of the documents are the findings, each as often as it is reported. -/
theorem findingsFor_perm {names : List Text} (distinct : names.Nodup)
    (covered : ∀ f ∈ r.findings, f.document ∈ names) :
    (names.flatMap r.findingsFor).Perm r.findings :=
  flatMap_filter_perm distinct covered

/-- The summaries of a report neither lose findings nor make any up.

By kind, the entries are the kinds that occur, each once and with the number of its findings, in the order
in which they first appear. By severity, there are the three severities with the number of their findings.
The numbers of either summary add up to that of all findings. The parts of the documents, for different
names that all documents are among, are together the findings again, and each part keeps their order. The
numbers of two reports together are the sums of theirs, and the kinds are those of the first and behind them
the new ones of the second. -/
theorem summaries_exact (r : Report) :
    (∀ kind n, (kind, n) ∈ r.countByKind ↔ 0 < n ∧ r.kinds.count kind = n) ∧
    (r.countByKind.map Prod.fst).Nodup ∧ InOrderOf r.kinds (r.countByKind.map Prod.fst) ∧
    r.countBySeverity.map (fun p => (p.1.name, p.2)) =
      [(Text.ofString "Critical", r.severities.count .critical),
        (Text.ofString "Warning", r.severities.count .warning),
        (Text.ofString "Info", r.severities.count .info)] ∧
    (r.countByKind.map Prod.snd).sum = r.findings.length ∧
    (r.countBySeverity.map Prod.snd).sum = r.findings.length ∧
    (∀ names : List Text, names.Nodup → (∀ f ∈ r.findings, f.document ∈ names) →
      (names.flatMap r.findingsFor).Perm r.findings) ∧
    (∀ name, (r.findingsFor name).Sublist r.findings ∧
      ∀ f ∈ r.findingsFor name, f.document = name) ∧
    ∀ more both : Report, both.findings = r.findings ++ more.findings →
      (∀ kind, numberOf kind both.countByKind =
        numberOf kind r.countByKind + numberOf kind more.countByKind) ∧
      both.countByKind.map Prod.fst = r.countByKind.map Prod.fst ++
        (more.countByKind.map Prod.fst).filter (· ∉ r.countByKind.map Prod.fst) ∧
      both.countBySeverity =
        List.zipWith (fun p q => (p.1, p.2 + q.2)) r.countBySeverity more.countBySeverity := by
  have tallies := r.tallies_countByKind
  refine ⟨?_, tallies.ordered.nodup, tallies.ordered, ?_, ?_, r.sum_countBySeverity,
    fun names => findingsFor_perm, ?_, ?_⟩
  · intro kind n
    rw [mem_iff_numberOf tallies.ordered.nodup, tallies.members, tallies.numbers,
      ← List.count_pos_iff]
    exact and_congr_left fun number => by rw [number]
  · rw [countBySeverity_eq]
    rfl
  · rw [tallies.total, kinds, List.length_map]
  · intro name
    refine ⟨List.filter_sublist, fun f member => ?_⟩
    exact of_decide_eq_true (List.mem_filter.mp member).2
  · intro more both joined
    have together : Tallies (r.kinds ++ more.kinds) both.countByKind := by
      rw [kinds, kinds, ← List.map_append, ← joined]
      exact both.tallies_countByKind
    refine ⟨?_, tallies.kinds_append more.tallies_countByKind together, ?_⟩
    · intro kind
      rw [together.numbers, tallies.numbers, more.tallies_countByKind.numbers, List.count_append]
    · have severitiesJoined : both.severities = r.severities ++ more.severities := by
        rw [severities, joined, List.map_append]
        rfl
      rw [countBySeverity_eq, countBySeverity_eq, countBySeverity_eq, List.zipWith_map,
        List.zipWith_self]
      refine List.map_congr_left fun s _ => ?_
      rw [severitiesJoined, List.count_append]

/-- Findings of two documents in turn. A rule has the name that unused imports are reported under. -/
def namesakeReport : Report where
  findings :=
    [.ofDocument "a.py" "Importación no usada" "os" .warning,
      .ofDocument "b.py" "Footer Faltante" "-" .info,
      .ofDocument "a.py" "Importación no usada" "regla" .critical]
  documents := 2

/-- Findings of another document, the second of a kind that the first report has. -/
def laterReport : Report where
  findings :=
    [.ofDocument "c.py" "Error de Regla" "(" .critical,
      .ofDocument "c.py" "Footer Faltante" "-" .info]
  documents := 1

/-- The unused import and the rule are counted under one kind. The part of a document leaves out what stands
between its findings, and the kind that both reports have keeps its place. -/
theorem summaries_exact_namesakes :
    (["b.py", "a.py"] : List Text).Nodup ∧
      (∀ f ∈ namesakeReport.findings, f.document ∈ (["b.py", "a.py"] : List Text)) ∧
      ((["b.py", "a.py"] : List Text).flatMap namesakeReport.findingsFor).Perm
        namesakeReport.findings ∧
      ∃ both : Report, both.findings = namesakeReport.findings ++ laterReport.findings ∧
        both.countByKind.map Prod.fst =
          (["Importación no usada", "Footer Faltante", "Error de Regla"] : List Text) ∧
        numberOf "Importación no usada" both.countByKind = 2 ∧
        numberOf "Footer Faltante" both.countByKind = 2 := by
  have distinct : (["b.py", "a.py"] : List Text).Nodup := by decide
  have covered : ∀ f ∈ namesakeReport.findings, f.document ∈ (["b.py", "a.py"] : List Text) := by
    decide
  obtain ⟨-, -, -, -, -, -, partition, -, joins⟩ := summaries_exact namesakeReport
  obtain ⟨both, joined⟩ : ∃ both : Report,
      both.findings = namesakeReport.findings ++ laterReport.findings := ⟨⟨_, 3⟩, rfl⟩
  obtain ⟨numbers, inOrder, -⟩ := joins laterReport both joined
  refine ⟨distinct, covered, partition _ distinct covered, both, joined, ?_, ?_, ?_⟩
  · rw [inOrder]
    decide
  · rw [numbers]
    decide
  · rw [numbers]
    decide

end NotebookAudit.Report

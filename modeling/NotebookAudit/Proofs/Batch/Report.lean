import NotebookAudit.Proofs.Analysis.Outcome
import NotebookAudit.Proofs.Batch.Pool
import NotebookAudit.Proofs.Traversal

/-!
The report of a batch.

`analyzeBatch_report` says that the report of a batch is that of its supported documents analyzed
one after another, that the workers come to the same findings in whatever order they start and
finish, and that documents of different names keep their findings to themselves.
-/

namespace NotebookAudit

variable {documents : List Document} {rules : List Rule} {workers : Option Int} {set : RuleSet}

/-- The number of workers of a batch on a machine with some processors. A number that is not given,
or zero, stands for one that fits the machine. -/
def poolSize (processors : Nat) (workers : Option Int) (documents : Nat) : Nat :=
  match workers with
  | some w => if w = 0 then min 32 (processors + 4) else min w.toNat documents
  | none => min 32 (processors + 4)

/-- There is a worker if there is a document and the number of workers is not negative. -/
theorem poolSize_pos (processors : Nat) (notNegative : ∀ w ∈ workers, 0 ≤ w) {n : Nat}
    (someDocument : 0 < n) : 0 < poolSize processors workers n := by
  cases workers with
  | none =>
      rw [poolSize]
      omega
  | some w =>
      have atLeast := notNegative w rfl
      rw [poolSize]
      split <;> omega

namespace Document

/-- A document that is supported has a name. -/
theorem name_of_isSupported {d : Document} (supported : d.isSupported = true) :
    d.name = some d.nameOrEmpty := by
  cases named : d.name with
  | some name => rw [nameOrEmpty, named, Option.getD_some]
  | none =>
      rw [isSupported, nameOrEmpty, named, Option.getD_none] at supported
      exact absurd supported (by decide)

/-- A supported document has the findings of its content under its name, or one finding that says
why there are none. -/
theorem findingsInBatch_cases {d : Document} (supported : d.isSupported = true) (set : RuleSet) :
    analyzeNamed d.nameOrEmpty d.content set = .ok (d.findingsInBatch set) ∨
      ∃ e, analyzeNamed d.nameOrEmpty d.content set = .error e ∧
        d.findingsInBatch set = [analysisErrorFinding d.nameOrEmpty e.message] := by
  have underName : d.analyze set = analyzeNamed d.nameOrEmpty d.content set := by
    rw [analyze, name_of_isSupported supported]
  rw [findingsInBatch, underName]
  cases analyzeNamed d.nameOrEmpty d.content set with
  | ok findings => exact .inl rfl
  | error e => exact .inr ⟨e, rfl, rfl⟩

/-- The findings of a supported document in a batch are reported under its name. -/
theorem findingsInBatch_document {d : Document} (supported : d.isSupported = true) {f : Finding}
    (member : f ∈ d.findingsInBatch set) : f.document = d.nameOrEmpty := by
  rcases findingsInBatch_cases supported set with analyzed | ⟨e, -, failed⟩
  · exact analyzeNamed_document analyzed member
  · rw [failed] at member
    rw [List.mem_singleton.mp member]
    rfl

end Document

/-- The documents of a batch that are analyzed. -/
def acceptedDocuments (documents : List Document) : List Document :=
  documents.filter Document.isSupported

theorem prepareBatch_eq_ok (compiled : RuleSet.compile rules = .ok set)
    (notNegative : ∀ w ∈ workers, 0 ≤ w) : prepareBatch rules workers = .ok set := by
  have fits : (workers.map (decide <| · < 0)).getD false = false := by
    cases workers with
    | none => rfl
    | some w => exact decide_eq_false (Int.not_lt.mpr (notNegative w rfl))
  rw [prepareBatch, compiled, fits]
  rfl

/-- A batch whose rules are compiled, with a number of workers that is not negative, has a
report. -/
theorem analyzeBatch_eq_ok (compiled : RuleSet.compile rules = .ok set)
    (notNegative : ∀ w ∈ workers, 0 ≤ w) :
    analyzeBatch documents rules workers =
      .ok ⟨(acceptedDocuments documents).flatMap (Document.findingsInBatch set),
        (acceptedDocuments documents).length⟩ := by
  unfold analyzeBatch acceptedDocuments
  cases documents.filter Document.isSupported with
  | nil => rfl
  | cons d rest =>
      dsimp only
      rw [prepareBatch_eq_ok compiled notNegative]
      rfl

/-- In a report of supported documents of different names, the findings under the name of a document
are those of the document. -/
theorem findingsFor_of_distinct {accepted : List Document}
    (supported : ∀ d ∈ accepted, d.isSupported = true)
    (distinct : (accepted.map Document.nameOrEmpty).Nodup) {d : Document} (member : d ∈ accepted)
    (n : Nat) :
    Report.findingsFor ⟨accepted.flatMap (Document.findingsInBatch set), n⟩ d.nameOrEmpty =
      d.findingsInBatch set := by
  refine filter_flatMap_of_apart (List.pairwise_map.mp distinct) member ?_ ?_
  · intro f inFindings
    exact decide_eq_true (Document.findingsInBatch_document (supported d member) inFindings)
  · intro other inAccepted apart f inFindings
    rw [Document.findingsInBatch_document (supported other inAccepted) inFindings, ne_eq,
      decide_eq_true_eq]
    rcases apart with apart | apart
    · exact apart.symm
    · exact apart

/-- The report of a batch is that of its supported documents analyzed one after another, in which a
document whose analysis fails has one finding that says so. Every run of the workers ends in this
report; and documents of different names keep their findings to themselves. -/
theorem analyzeBatch_report (documents : List Document)
    (compiled : RuleSet.compile rules = .ok set) (notNegative : ∀ w ∈ workers, 0 ≤ w) :
    ∃ report, analyzeBatch documents rules workers = .ok report ∧
      report.documents = (acceptedDocuments documents).length ∧
      report.findings = (acceptedDocuments documents).flatMap (Document.findingsInBatch set) ∧
      (∀ d ∈ acceptedDocuments documents, d.name = some d.nameOrEmpty ∧
        (analyzeNamed d.nameOrEmpty d.content set = .ok (d.findingsInBatch set) ∨
          ∃ e, analyzeNamed d.nameOrEmpty d.content set = .error e ∧
            d.findingsInBatch set = [analysisErrorFinding d.nameOrEmpty e.message])) ∧
      (∀ processors, Pool.EndsIn (acceptedDocuments documents) set
        (poolSize processors workers (acceptedDocuments documents).length) report) ∧
      (((acceptedDocuments documents).map Document.nameOrEmpty).Nodup →
        ∀ d ∈ acceptedDocuments documents,
          report.findingsFor d.nameOrEmpty = d.findingsInBatch set) := by
  have supported : ∀ d ∈ acceptedDocuments documents, d.isSupported = true :=
    fun d member => (List.mem_filter.mp member).2
  refine ⟨_, analyzeBatch_eq_ok compiled notNegative, rfl, rfl, ?_, ?_, ?_⟩
  · intro d member
    exact ⟨d.name_of_isSupported (supported d member),
      d.findingsInBatch_cases (supported d member) set⟩
  · intro processors
    exact Pool.endsIn _ set fun someDocument => poolSize_pos processors notNegative someDocument
  · intro distinct d member
    exact findingsFor_of_distinct supported distinct member _

/-- Documents of which the first cannot be analyzed and two are not supported. -/
def mixedDocuments : List Document :=
  [⟨some "a.py", .numbers [300]⟩, ⟨none, .bytes []⟩, ⟨some "b.txt", .bytes [0x78]⟩,
    ⟨some "c.ipynb", .bytes [0x7b, 0x7d]⟩]

/-- The document that cannot be analyzed does not disturb the other. -/
theorem analyzeBatch_mixedDocuments :
    RuleSet.compile [] = .ok ⟨[], []⟩ ∧ (∀ w ∈ (some 2 : Option Int), 0 ≤ w) ∧
      ∃ report, analyzeBatch mixedDocuments [] (some 2) = .ok report ∧ report.documents = 2 ∧
        report.findingsFor "a.py" =
          [analysisErrorFinding "a.py" DocumentError.notBytes.message] ∧
        (report.findingsFor "c.ipynb").map (·.kind) = [Text.ofString "Footer Faltante"] ∧
        Pool.EndsIn (acceptedDocuments mixedDocuments) ⟨[], []⟩ 2 report := by
  have compiled : RuleSet.compile [] = .ok ⟨[], []⟩ := rfl
  have notNegative : ∀ w ∈ (some 2 : Option Int), 0 ≤ w := by decide
  obtain ⟨report, analyzed, count, -, -, ends, own⟩ :=
    analyzeBatch_report mixedDocuments compiled notNegative
  have distinct : ((acceptedDocuments mixedDocuments).map Document.nameOrEmpty).Nodup := by
    decide +kernel
  have first : report.findingsFor "a.py" =
      Document.findingsInBatch ⟨[], []⟩ ⟨some "a.py", .numbers [300]⟩ :=
    own distinct ⟨some "a.py", .numbers [300]⟩
      (List.mem_filter.mpr ⟨by simp [mixedDocuments], by decide +kernel⟩)
  have second : report.findingsFor "c.ipynb" =
      Document.findingsInBatch ⟨[], []⟩ ⟨some "c.ipynb", .bytes [0x7b, 0x7d]⟩ :=
    own distinct ⟨some "c.ipynb", .bytes [0x7b, 0x7d]⟩
      (List.mem_filter.mpr ⟨by simp [mixedDocuments], by decide +kernel⟩)
  refine ⟨compiled, notNegative, report, analyzed, count, ?_, ?_, ends 1⟩
  · rw [first]
    decide +kernel
  · rw [second]
    decide +kernel

end NotebookAudit

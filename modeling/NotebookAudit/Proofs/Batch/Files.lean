import NotebookAudit.Proofs.Batch.Report

/-!
The report of files.

The files that can be read are documents of a batch. Their results come as a stream, one after another,
and are handed out to their files again, between those that cannot be read (`handOut`).
`handsOut` says that the results of every run of the workers suffice for the files, that none is left
over, and that each file gets its own; so the report of files is that of the files one by one
(`analyzeFiles_eq_ok`).
-/

namespace NotebookAudit

variable {files : List NamedFile} {rules : List Rule} {workers : Option Int} {set : RuleSet}

/-- Bytes under a name are analyzed without an error, by themselves as in a batch. -/
theorem Document.analyze_bytes (name : Text) (bytes : Bytes) (set : RuleSet) :
    Document.analyze ⟨some name, .bytes bytes⟩ set =
      .ok (Document.findingsInBatch set ⟨some name, .bytes bytes⟩) := by
  have underName : Document.analyze ⟨some name, .bytes bytes⟩ set =
      analyzeNamed name (.bytes bytes) set := rfl
  rw [findingsInBatch, underName]
  rcases analyzeNamed_cases name (.bytes bytes) set with
    ⟨notBytes, -⟩ | ⟨e, -, refused⟩ | ⟨n, -, ⟨-, brokeOff⟩ | ⟨findings, -, ended⟩⟩
  · rcases Content.read_bytes_cases name bytes with ⟨n, read⟩ | ⟨-, e, read⟩
    · rw [read] at notBytes
      cases notBytes
    · rw [read] at notBytes
      cases notBytes
  · rw [refused]
  · rw [brokeOff]
  · rw [ended]

namespace NamedFile

/-- The document of a file that can be read. -/
def document? (f : NamedFile) : Option Document :=
  match f.content with
  | .ok bytes => some ⟨some f.name, .bytes bytes⟩
  | .error _ => none

end NamedFile

/-- The documents of the files that can be read, in order. -/
def readableDocuments (files : List NamedFile) : List Document := files.filterMap NamedFile.document?

/-- The findings of files when the results come from a stream: a file that cannot be read has its own
finding, and every other file takes the next result. Besides the findings there is what is left of the
stream; there is nothing if the stream ends too early. -/
def handOut : List NamedFile → List (List Finding) → Option (List Finding × List (List Finding))
  | [], results => some ([], results)
  | ⟨name, .error e⟩ :: rest, results => do
    let (findings, left) ← handOut rest results
    return (readErrorFinding name e.message :: findings, left)
  | ⟨_, .ok _⟩ :: _, [] => none
  | ⟨_, .ok _⟩ :: rest, result :: results => do
    let (findings, left) ← handOut rest results
    return (result ++ findings, left)

/-- The results of the readable documents suffice for the files, and what follows them is left. -/
theorem handOut_results (files : List NamedFile) (set : RuleSet) (more : List (List Finding)) :
    handOut files ((readableDocuments files).map (Document.findingsInBatch set) ++ more) =
      some (files.flatMap (NamedFile.findings set), more) := by
  induction files with
  | nil => rfl
  | cons f rest ih =>
      obtain ⟨name, content⟩ := f
      cases content with
      | error e =>
          have sameDocuments : readableDocuments (⟨name, .error e⟩ :: rest) = readableDocuments rest :=
            rfl
          rw [sameDocuments, handOut, ih]
          rfl
      | ok bytes =>
          have oneMore : readableDocuments (⟨name, .ok bytes⟩ :: rest) =
              ⟨some name, .bytes bytes⟩ :: readableDocuments rest := rfl
          rw [oneMore, List.map_cons, List.cons_append, handOut, ih]
          rfl

/-- Every run of the workers on the readable files goes on until it has four steps for each, and then
ends with a stream of results that is handed out to the files as the findings: it suffices, and nothing
is left of it. -/
def HandsOut (files : List NamedFile) (set : RuleSet) (workers : Nat) (findings : List Finding) : Prop :=
  ∀ k p, Pool.Runs (readableDocuments files) set workers k p →
    (k < 4 * (readableDocuments files).length ∧
      ∃ q, Pool.Step (readableDocuments files) set workers p q) ∨
    (k = 4 * (readableDocuments files).length ∧
      (∀ q, ¬ Pool.Step (readableDocuments files) set workers p q) ∧
      handOut files p.collected = some (findings, []))

/-- With workers for the readable files, the results of every run are handed out as the findings of the
files one by one. -/
theorem handsOut (files : List NamedFile) (set : RuleSet) {count : Nat}
    (someWorker : 0 < (readableDocuments files).length → 0 < count) :
    HandsOut files set count (files.flatMap (NamedFile.findings set)) := by
  intro k p run
  rcases run.goes_on_or_ends someWorker with goesOn | ⟨ended, stops, collected⟩
  · exact .inl goesOn
  · refine .inr ⟨ended, stops, ?_⟩
    have handed := handOut_results files set []
    rw [List.append_nil] at handed
    rw [collected, handed]

/-- What a file that cannot be read has as its findings does not depend on rules. -/
theorem NamedFile.findings_of_unreadable {f : NamedFile} (unreadable : f.isReadable = false)
    (set set' : RuleSet) : f.findings set = f.findings set' := by
  obtain ⟨name, content⟩ := f
  cases content with
  | error e => rfl
  | ok bytes => cases unreadable

/-- Files have a report if the number of workers is not negative and, in case some file can be read, the
rules are compiled. -/
theorem analyzeFiles_eq_ok
    (compiled : files.any NamedFile.isReadable = true → RuleSet.compile rules = .ok set)
    (notNegative : ∀ w ∈ workers, 0 ≤ w) :
    analyzeFiles files rules workers =
      .ok ⟨files.flatMap (NamedFile.findings set), files.length⟩ := by
  unfold analyzeFiles
  cases readable : files.any NamedFile.isReadable with
  | true =>
      rw [if_pos rfl, prepareBatch_eq_ok (compiled readable) notNegative]
      rfl
  | false =>
      rw [List.any_eq_false] at readable
      have same : ∀ f ∈ files, f.findings ⟨[], []⟩ = f.findings set := fun f member =>
        NamedFile.findings_of_unreadable (eq_false_of_ne_true (readable f member)) _ _
      have sameFindings : files.flatMap (NamedFile.findings ⟨[], []⟩) =
          files.flatMap (NamedFile.findings set) := by
        rw [List.flatMap_def, List.flatMap_def, List.map_congr_left same]
      rw [if_neg Bool.false_ne_true, ← sameFindings]
      rfl

end NotebookAudit

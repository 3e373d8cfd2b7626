import NotebookAudit.Analysis

/-!
The workers of a batch.

The documents of a batch are submitted one after another to a pool of workers. A worker takes up any
document that waits, and any document that is worked on may be done next. When all documents are
submitted, their findings are collected in the order of the documents, each as soon as its document
is done. `Pool.Step` is one such step, and `Pool.Runs` counts the steps from the empty pool.

* `Pool.Runs.sound`: what is done and what is collected is the same in every order of the steps.
* `Pool.endsIn`: every run can go on until it has four steps for each document, and then has
  collected the findings of the documents analyzed one after another.
-/

namespace NotebookAudit

/-- How far a submitted document is. -/
inductive Job where
  | waiting
  | running
  | done (outcome : Except AnalysisError (List Finding))

namespace Job

/-- Whether a worker is at the document. -/
def isRunning : Job → Bool
  | running => true
  | _ => false

/-- The number of steps that a submitted document has taken. -/
def stage : Job → Nat
  | waiting => 0
  | running => 1
  | done _ => 2

theorem stage_le (j : Job) : j.stage ≤ 2 := by
  cases j <;> simp [stage]

end Job

/-- A pool: the documents submitted so far, in order, and the findings collected so far. -/
structure Pool where
  jobs : List Job
  collected : List (List Finding)

namespace Pool

/-- The pool before the first document is submitted. -/
def empty : Pool := ⟨[], []⟩

/-- The number of documents that workers are at. -/
def running (p : Pool) : Nat := p.jobs.countP Job.isRunning

/-- The findings that are collected for a document that is done. -/
def collect (d : Document) : Except AnalysisError (List Finding) → List Finding
  | .ok findings => findings
  | .error e => [analysisErrorFinding d.nameOrEmpty e.message]

/-- One step of a batch of documents with a number of workers. -/
inductive Step (documents : List Document) (set : RuleSet) (workers : Nat) : Pool → Pool → Prop
  | submit {p : Pool} (left : p.jobs.length < documents.length) :
    Step documents set workers p { p with jobs := p.jobs ++ [.waiting] }
  | start {p : Pool} {i : Nat} (waits : p.jobs[i]? = some .waiting) (free : p.running < workers) :
    Step documents set workers p { p with jobs := p.jobs.set i .running }
  | finish {p : Pool} {i : Nat} {d : Document} (runs : p.jobs[i]? = some .running)
    (isAt : documents[i]? = some d) :
    Step documents set workers p { p with jobs := p.jobs.set i (.done (d.analyze set)) }
  | collect {p : Pool} {d : Document} {outcome : Except AnalysisError (List Finding)}
    (allSubmitted : p.jobs.length = documents.length)
    (isDone : p.jobs[p.collected.length]? = some (.done outcome))
    (isAt : documents[p.collected.length]? = some d) :
    Step documents set workers p { p with collected := p.collected ++ [collect d outcome] }

/-- A pool that is reached from the empty pool in a number of steps. -/
inductive Runs (documents : List Document) (set : RuleSet) (workers : Nat) : Nat → Pool → Prop
  | start : Runs documents set workers 0 empty
  | step {k : Nat} {p q : Pool} (run : Runs documents set workers k p)
    (next : Step documents set workers p q) : Runs documents set workers (k + 1) q

variable {documents : List Document} {set : RuleSet} {workers k : Nat} {p q : Pool}

/-! ## What every step keeps -/

/-- What is done and what is collected belongs to the documents of the same numbers. -/
structure Sound (documents : List Document) (set : RuleSet) (workers : Nat) (p : Pool) : Prop where
  submitted : p.jobs.length ≤ documents.length
  bounded : p.running ≤ workers
  done : ∀ (i : Nat) (outcome : Except AnalysisError (List Finding)),
    p.jobs[i]? = some (.done outcome) →
      ∃ d : Document, documents[i]? = some d ∧ outcome = d.analyze set
  collected : p.collected =
    (documents.take p.collected.length).map (Document.findingsInBatch set)

/-- What is collected for a document is what a batch reports for it. -/
theorem collect_analyze (d : Document) : collect d (d.analyze set) = d.findingsInBatch set := by
  unfold Document.findingsInBatch
  cases d.analyze set <;> rfl

theorem sound_empty : empty.Sound documents set workers where
  submitted := Nat.zero_le _
  bounded := Nat.zero_le _
  done := fun _ _ isDone => nomatch isDone
  collected := rfl

/-- A new document waits, and the others are where they were. -/
theorem getElem?_submitted {jobs : List Job} {i : Nat}
    {outcome : Except AnalysisError (List Finding)}
    (isDone : (jobs ++ [.waiting])[i]? = some (.done outcome)) :
    jobs[i]? = some (.done outcome) := by
  rw [List.getElem?_append] at isDone
  split at isDone
  · exact isDone
  · rw [List.getElem?_singleton] at isDone
    split at isDone <;> cases isDone

/-- A step keeps what is done and what is collected in accord with the documents. -/
theorem Step.sound (step : Step documents set workers p q) (sound : p.Sound documents set workers) :
    q.Sound documents set workers := by
  cases step with
  | submit left =>
      refine ⟨?_, ?_, ?_, sound.collected⟩
      · rw [List.length_append, List.length_singleton]
        exact left
      · simpa [running, List.countP_append, List.countP_cons, Job.isRunning] using sound.bounded
      · exact fun i outcome isDone => sound.done i outcome (getElem?_submitted isDone)
  | @start i waits free =>
      obtain ⟨inside, isWaiting⟩ := List.getElem?_eq_some_iff.mp waits
      refine ⟨by simpa using sound.submitted, ?_, ?_, sound.collected⟩
      · have more : running { p with jobs := p.jobs.set i .running } = p.running + 1 := by
          simp [running, List.countP_set inside, isWaiting, Job.isRunning]
        rw [more]
        exact free
      · intro j outcome isDone
        rw [List.getElem?_set] at isDone
        split at isDone
        · cases isDone
        · exact sound.done j outcome isDone
  | @finish i d runs isAt =>
      obtain ⟨inside, isRunning⟩ := List.getElem?_eq_some_iff.mp runs
      refine ⟨by simpa using sound.submitted, ?_, ?_, sound.collected⟩
      · have less : running { p with jobs := p.jobs.set i (.done (d.analyze set)) } =
            p.running - 1 := by
          simp [running, List.countP_set inside, isRunning, Job.isRunning]
        rw [less]
        exact Nat.le_trans (Nat.sub_le _ _) sound.bounded
      · intro j outcome isDone
        rw [List.getElem?_set] at isDone
        split at isDone
        · next same =>
          subst same
          cases isDone
          exact ⟨d, isAt, rfl⟩
        · exact sound.done j outcome isDone
  | @collect d outcome allSubmitted isDone isAt =>
      refine ⟨sound.submitted, sound.bounded, sound.done, ?_⟩
      obtain ⟨d', isAt', rfl⟩ := sound.done _ _ isDone
      obtain rfl : d = d' := Option.some.inj (isAt.symm.trans isAt')
      rw [collect_analyze, List.length_append, List.length_singleton, List.take_add_one, isAt,
        List.map_append, ← sound.collected]
      rfl

theorem Runs.sound (run : Runs documents set workers k p) : p.Sound documents set workers := by
  induction run with
  | start => exact sound_empty
  | step _ next ih => exact next.sound ih

/-! ## How long a run is -/

/-- The number of steps that the jobs of a pool have taken after they were submitted. -/
def stages : List Job → Nat
  | [] => 0
  | j :: rest => j.stage + stages rest

/-- The number of steps that lead to a pool. -/
def steps (p : Pool) : Nat := p.jobs.length + stages p.jobs + p.collected.length

theorem stages_append (jobs : List Job) (j : Job) :
    stages (jobs ++ [j]) = stages jobs + j.stage := by
  induction jobs with
  | nil => exact Nat.add_comm _ _
  | cons first rest ih => rw [List.cons_append, stages, stages, ih, Nat.add_assoc]

/-- Another job at one place changes the sum of the stages by that job alone. -/
theorem stages_set {jobs : List Job} {i : Nat} {old : Job} (isAt : jobs[i]? = some old)
    (new : Job) :
    stages (jobs.set i new) + old.stage = stages jobs + new.stage := by
  induction jobs generalizing i with
  | nil => cases isAt
  | cons j rest ih =>
      cases i with
      | zero =>
          cases isAt
          simp only [List.set_cons_zero, stages]
          omega
      | succ i =>
          have restSum := ih (i := i) isAt
          simp only [List.set_cons_succ, stages]
          omega

theorem stages_le (jobs : List Job) : stages jobs ≤ 2 * jobs.length := by
  induction jobs with
  | nil => exact Nat.le_refl 0
  | cons j rest ih =>
      have first := j.stage_le
      rw [stages, List.length_cons]
      omega

/-- Jobs that are all done have taken two steps each. -/
theorem stages_of_done {jobs : List Job} (allDone : ∀ j ∈ jobs, ∃ outcome, j = .done outcome) :
    stages jobs = 2 * jobs.length := by
  induction jobs with
  | nil => rfl
  | cons j rest ih =>
      rw [List.forall_mem_cons] at allDone
      obtain ⟨⟨outcome, rfl⟩, restDone⟩ := allDone
      have restSum := ih restDone
      rw [stages, Job.stage, List.length_cons]
      omega

/-- Every step counts as one. -/
theorem Step.steps (step : Step documents set workers p q) : q.steps = p.steps + 1 := by
  cases step with
  | submit left =>
      simp only [Pool.steps, stages_append, Job.stage, List.length_append, List.length_singleton]
      omega
  | start waits free =>
      have sum := stages_set waits .running
      simp only [Pool.steps, Job.stage, List.length_set] at sum ⊢
      omega
  | @finish i d runs isAt =>
      have sum := stages_set runs (.done (d.analyze set))
      simp only [Pool.steps, Job.stage, List.length_set] at sum ⊢
      omega
  | collect allSubmitted isDone isAt =>
      simp only [Pool.steps, List.length_append, List.length_singleton]
      omega

theorem Runs.steps (run : Runs documents set workers k p) : p.steps = k := by
  induction run with
  | start => rfl
  | step _ next ih => rw [next.steps, ih]

theorem Sound.collected_le (sound : p.Sound documents set workers) :
    p.collected.length ≤ documents.length := by
  have sameLength := congrArg List.length sound.collected
  rw [List.length_map, List.length_take] at sameLength
  omega

theorem Sound.steps_le (sound : p.Sound documents set workers) :
    p.steps ≤ 4 * documents.length := by
  have submitted := sound.submitted
  have collected := sound.collected_le
  have stages := stages_le p.jobs
  unfold Pool.steps
  omega

/-- A pool that has taken all its steps has collected the findings of all documents. -/
theorem Sound.collected_of_steps (sound : p.Sound documents set workers)
    (allSteps : p.steps = 4 * documents.length) :
    p.collected = documents.map (Document.findingsInBatch set) := by
  have submitted := sound.submitted
  have collected := sound.collected_le
  have stages := stages_le p.jobs
  unfold Pool.steps at allSteps
  have allCollected : p.collected.length = documents.length := by omega
  rw [sound.collected, allCollected, List.take_length]

/-- With a worker, a pool can take a step until it has taken all its steps. -/
theorem Sound.step_or_steps (sound : p.Sound documents set workers) (someWorker : 0 < workers) :
    (∃ q, Step documents set workers p q) ∨ p.steps = 4 * documents.length := by
  by_cases allSubmitted : p.jobs.length = documents.length
  case neg => exact .inl ⟨_, .submit (Nat.lt_of_le_of_ne sound.submitted allSubmitted)⟩
  by_cases someRunning : ∃ i : Nat, p.jobs[i]? = some .running
  case pos =>
    obtain ⟨i, runs⟩ := someRunning
    obtain ⟨inside, -⟩ := List.getElem?_eq_some_iff.mp runs
    rw [allSubmitted] at inside
    exact .inl ⟨_, .finish runs (List.getElem?_eq_getElem inside)⟩
  by_cases someWaiting : ∃ i : Nat, p.jobs[i]? = some .waiting
  case pos =>
    obtain ⟨i, waits⟩ := someWaiting
    -- Nothing is worked on, so that every worker is free.
    have noneRunning : p.running = 0 := by
      refine List.countP_eq_zero.mpr fun j member => ?_
      cases j with
      | running => exact absurd (List.getElem?_of_mem member) someRunning
      | waiting | done => exact Bool.false_ne_true
    exact .inl ⟨_, .start waits (by rw [noneRunning]; exact someWorker)⟩
  have allDone : ∀ j ∈ p.jobs, ∃ outcome, j = .done outcome := by
    intro j member
    cases j with
    | waiting => exact absurd (List.getElem?_of_mem member) someWaiting
    | running => exact absurd (List.getElem?_of_mem member) someRunning
    | done outcome => exact ⟨outcome, rfl⟩
  by_cases allCollected : p.collected.length = documents.length
  case pos =>
    refine .inr ?_
    rw [Pool.steps, stages_of_done allDone, allSubmitted, allCollected]
    omega
  have next : p.collected.length < documents.length :=
    Nat.lt_of_le_of_ne sound.collected_le allCollected
  have inJobs : p.collected.length < p.jobs.length := by
    rw [allSubmitted]
    exact next
  obtain ⟨outcome, isDone⟩ := allDone _ (List.getElem_mem inJobs)
  exact .inl ⟨_, .collect allSubmitted (List.getElem?_eq_some_iff.mpr ⟨inJobs, isDone⟩)
    (List.getElem?_eq_getElem next)⟩

/-- With a worker, a run goes on until it has four steps for each document, and then ends and has
collected the findings of the documents in their order. -/
theorem Runs.goes_on_or_ends (run : Runs documents set workers k p)
    (someWorker : 0 < documents.length → 0 < workers) :
    (k < 4 * documents.length ∧ ∃ q, Step documents set workers p q) ∨
      (k = 4 * documents.length ∧ (∀ q, ¬ Step documents set workers p q) ∧
        p.collected = documents.map (Document.findingsInBatch set)) := by
  have sound := run.sound
  by_cases ended : k = 4 * documents.length
  · have allSteps : p.steps = 4 * documents.length := run.steps.trans ended
    refine .inr ⟨ended, ?_, sound.collected_of_steps allSteps⟩
    intro q step
    have atMost := (step.sound sound).steps_le
    rw [step.steps] at atMost
    omega
  · have atMost := sound.steps_le
    rw [run.steps] at atMost
    rcases sound.step_or_steps (someWorker (by omega)) with goesOn | allSteps
    · exact .inl ⟨by omega, goesOn⟩
    · exact absurd (run.steps.symm.trans allSteps) ended

/-- Every run of a batch can go on until it has four steps for each document, and then ends and has
collected a report. -/
def EndsIn (documents : List Document) (set : RuleSet) (workers : Nat) (report : Report) : Prop :=
  ∀ k p, Runs documents set workers k p →
    (k < 4 * documents.length ∧ ∃ q, Step documents set workers p q) ∨
      (k = 4 * documents.length ∧ (∀ q, ¬ Step documents set workers p q) ∧
        report = ⟨p.collected.flatten, documents.length⟩)

/-- With a worker, every run ends in the report of the documents analyzed one after another. -/
theorem endsIn (documents : List Document) (set : RuleSet)
    (someWorker : 0 < documents.length → 0 < workers) :
    EndsIn documents set workers
      ⟨documents.flatMap (Document.findingsInBatch set), documents.length⟩ := by
  intro k p run
  rcases run.goes_on_or_ends someWorker with goesOn | ⟨ended, stops, collected⟩
  · exact .inl goesOn
  · exact .inr ⟨ended, stops, by rw [collected, List.flatMap_def]⟩

end Pool

end NotebookAudit

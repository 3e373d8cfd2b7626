import NotebookAudit.Proofs.Batch.Files
import NotebookAudit.Proofs.Workspace.Snapshots

/-!
Files of a workspace, analyzed one by one and together.

The report of paths has the findings of each file with a supported name, as the analysis of the file by
itself gives them, in the order of the paths: `Workspace.analyzePaths_report`. A service that opens a
store for itself does so at the first file that can be read, and answers with the same rules from then on
(`Workspace.run_rulesOr_again`), so that the files may be analyzed one after another or together.
-/

namespace NotebookAudit

namespace Workspace

variable {w after : Workspace} {rules : Option (List Rule)} {answer : List Rule} {set : RuleSet}
  {path : FilePath} {paths : List FilePath}

/-! ## Single operations -/

/-- An operation that does not change the workspace gives its results item by item. -/
theorem run_mapM_of_same {α β : Type} {f : α → WorkspaceM β} {g : α → β} {items : List α}
    (each : ∀ a ∈ items, w.run (f a) = (.ok (g a), w)) :
    w.run (items.mapM f) = (.ok (items.map g), w) := by
  induction items with
  | nil => rfl
  | cons a rest ih =>
      rw [List.forall_mem_cons] at each
      rw [List.mapM_cons, run_bind, each.1]
      dsimp only
      rw [run_bind, ih each.2]
      rfl

/-- A path that the system takes is read or has an error of the system. -/
theorem run_readFile (taken : ∀ fault, w.files.read path ≠ .error (.refused fault)) :
    w.run (readFile path) = (.ok (w.files.read path), w) := by
  rw [readFile, run_bind, run_get]
  dsimp only
  cases read : w.files.read path with
  | ok bytes => rfl
  | error e =>
      cases e with
      | failed fault place => rfl
      | refused fault => exact absurd read (taken fault)

/-- A service that answers is bound to the answer, or has it in a store that is there by then. -/
theorem servesRules_or_servesStore (answered : w.run snapshot = (.ok answer, after)) :
    after.ServesRules answer ∨
      ∃ index s, s.rules = answer ∧ after.ServesStore index ∧ after.stores[index]? = some s := by
  cases served : w.service with
  | none =>
      rw [run_snapshot_of_none served] at answered
      cases answered
  | some service =>
      cases free : service.rules with
      | some fixed =>
          rw [run_snapshot_of_rules served free] at answered
          cases answered
          exact .inl ⟨service, served, free⟩
      | none =>
          cases bound : service.store with
          | some index =>
              cases there : w.stores[index]? with
              | none =>
                  rw [run_snapshot_of_missing served free bound there] at answered
                  cases answered
              | some s =>
                  rw [run_snapshot_of_store served free bound there] at answered
                  cases answered
                  have inRange := (List.getElem?_eq_some_iff.mp there).1
                  exact .inr ⟨index, s, rfl, ⟨service, served, free, bound, inRange⟩, there⟩
          | none =>
              rw [run_snapshot_of_unbound served free bound] at answered
              dsimp only at answered
              split at answered
              · cases answered
              · cases answered
                refine .inr ⟨w.stores.length, _, rfl, ⟨_, rfl, free, rfl, ?_⟩,
                  List.getElem?_concat_length⟩
                rw [List.length_append]
                exact Nat.lt_succ_self _

/-- Rules that were answered are answered again, in the workspace that the first answer leaves. -/
theorem run_rulesOr_again (answered : w.run (rulesOr rules) = (.ok answer, after)) :
    after.run (rulesOr rules) = (.ok answer, after) := by
  cases rules with
  | some given =>
      cases answered
      rfl
  | none =>
      rcases servesRules_or_servesStore answered with bound | ⟨index, s, rfl, onStore, there⟩
      · exact run_snapshot_of_servesRules bound
      · exact run_snapshot_of_servesStore onStore there

/-- A document is analyzed with the rules that are answered, in the workspace that this leaves. -/
theorem run_analyze_of_rulesOr (served : w.service.isSome = true)
    (answered : w.run (rulesOr rules) = (.ok answer, after))
    (compiled : RuleSet.compile answer = .ok set) (d : Document) :
    w.run (analyze d rules false) = ((d.analyze set).mapError .analysis, after) := by
  obtain ⟨service, served⟩ := Option.isSome_iff_exists.mp served
  simp only [analyze, ruleSet, compileRules, theService, run_bind, run_get, served, require, run_pure,
    answered, run_lift, compiled, Except.mapError]

/-! ## One file -/

/-- The file of a path, with its bytes or why they cannot be read. -/
def fileAt (w : Workspace) (path : FilePath) : NamedFile := ⟨path.name, w.files.read path⟩

theorem run_analyzeFile_unreadable (served : w.service.isSome = true)
    (taken : ∀ fault, w.files.read path ≠ .error (.refused fault))
    (unreadable : (w.fileAt path).isReadable = false) (set : RuleSet) :
    w.run (analyzeFile path [] rules false) = (.ok ((w.fileAt path).findings set), w) := by
  obtain ⟨service, served⟩ := Option.isSome_iff_exists.mp served
  simp only [analyzeFile, theService, run_bind, run_get, served, require, run_pure, if_true,
    run_readFile taken]
  rw [fileAt] at unreadable ⊢
  cases read : w.files.read path with
  | error e => rfl
  | ok bytes =>
      rw [read] at unreadable
      cases unreadable

theorem run_analyzeFile_readable (served : w.service.isSome = true)
    (readable : (w.fileAt path).isReadable = true)
    (answered : w.run (rulesOr rules) = (.ok answer, after))
    (compiled : RuleSet.compile answer = .ok set) :
    w.run (analyzeFile path [] rules false) = (.ok ((w.fileAt path).findings set), after) := by
  cases read : w.files.read path with
  | error e =>
      rw [fileAt, read] at readable
      cases readable
  | ok bytes =>
      have taken : ∀ fault, w.files.read path ≠ .error (.refused fault) := by
        intro fault refused
        rw [read] at refused
        cases refused
      have analyzed := run_analyze_of_rulesOr served answered compiled ⟨some path.name, .bytes bytes⟩
      rw [Document.analyze_bytes] at analyzed
      obtain ⟨service, served⟩ := Option.isSome_iff_exists.mp served
      simp only [analyzeFile, theService, run_bind, run_get, served, require, run_pure, if_true,
        run_readFile taken, read, analyzed]
      rw [fileAt, read]
      rfl

/-! ## Files one after another -/

/-- There is a service, the system takes the paths, and in case some file can be read, there are rules
that are compiled. -/
structure Serves (w : Workspace) (rules : Option (List Rule)) (paths : List FilePath)
    (set : RuleSet) : Prop where
  served : w.service.isSome = true
  taken : ∀ p ∈ paths, ∀ fault, w.files.read p ≠ .error (.refused fault)
  compiled : (∃ p ∈ paths, ∃ bytes, w.files.read p = .ok bytes) →
    ∃ answer after, w.run (rulesOr rules) = (.ok answer, after) ∧
      RuleSet.compile answer = .ok set

/-- The workspace after files are analyzed: if some file can be read, the rules were looked for. -/
def afterFiles (w : Workspace) (rules : Option (List Rule)) (paths : List FilePath) : Workspace :=
  if (paths.map w.fileAt).any NamedFile.isReadable then (w.run (rulesOr rules)).2 else w

theorem isReadable_fileAt_iff :
    (w.fileAt path).isReadable = true ↔ ∃ bytes, w.files.read path = .ok bytes := by
  rw [fileAt, NamedFile.isReadable]
  cases w.files.read path with
  | ok bytes => simp
  | error e => simp

theorem any_isReadable_iff :
    (paths.map w.fileAt).any NamedFile.isReadable = true ↔
      ∃ p ∈ paths, ∃ bytes, w.files.read p = .ok bytes := by
  simp only [List.any_eq_true, List.mem_map, exists_exists_and_eq_and, isReadable_fileAt_iff]

/-- What serves paths serves some of them. -/
theorem Serves.mono {fewer : List FilePath} (serves : w.Serves rules paths set)
    (subset : fewer ⊆ paths) : w.Serves rules fewer set where
  served := serves.served
  taken p member := serves.taken p (subset member)
  compiled := by
    intro readable
    obtain ⟨p, member, bytes, read⟩ := readable
    exact serves.compiled ⟨p, subset member, bytes, read⟩

/-- The answer of the rules leaves the files as they are, and goes on serving. -/
theorem Serves.again (serves : w.Serves rules paths set)
    (answered : w.run (rulesOr rules) = (.ok answer, after))
    (compiled : RuleSet.compile answer = .ok set) :
    after.files = w.files ∧ after.Serves rules paths set := by
  have opens := rulesOr_leads snapshot_opens rules w
  have goesOn := rulesOr_leads snapshot_goesOn rules w
  rw [answered] at opens goesOn
  have sameFiles : after.files = w.files := opens.files
  refine ⟨sameFiles, goesOn.hasService serves.served, ?_, fun _ => ?_⟩
  · rw [sameFiles]
    exact serves.taken
  · exact ⟨answer, after, run_rulesOr_again answered, compiled⟩

/-- A file by itself has the findings of its bytes, or the one that says why there are none. -/
theorem run_analyzeFile (serves : w.Serves rules paths set) (member : path ∈ paths) :
    (w.run (analyzeFile path [] rules false)).1 = .ok ((w.fileAt path).findings set) := by
  cases readable : (w.fileAt path).isReadable with
  | true =>
      obtain ⟨answer, after, answered, compiled⟩ :=
        serves.compiled ⟨path, member, isReadable_fileAt_iff.mp readable⟩
      rw [run_analyzeFile_readable serves.served readable answered compiled]
  | false => rw [run_analyzeFile_unreadable serves.served (serves.taken path member) readable set]

theorem afterFiles_eq_self (answered : w.run (rulesOr rules) = (.ok answer, w)) :
    w.afterFiles rules paths = w := by
  rw [afterFiles, answered, ite_self]

/-- Files that are analyzed one after another have each the findings that they have by themselves. -/
theorem run_mapM_analyzeFile (serves : w.Serves rules paths set) :
    w.run (paths.mapM fun p => analyzeFile p [] rules false) =
      (.ok (paths.map fun p => (w.fileAt p).findings set), w.afterFiles rules paths) := by
  induction paths generalizing w with
  | nil => rfl
  | cons p rest ih =>
      have restServes := serves.mono (List.subset_cons_self p rest)
      rw [List.mapM_cons, run_bind]
      cases readable : (w.fileAt p).isReadable with
      | true =>
          obtain ⟨answer, after, answered, compiled⟩ :=
            serves.compiled ⟨p, List.mem_cons_self, isReadable_fileAt_iff.mp readable⟩
          obtain ⟨sameFiles, servesAgain⟩ := restServes.again answered compiled
          have ends : w.afterFiles rules (p :: rest) = after := by
            rw [afterFiles, List.map_cons, List.any_cons, readable, Bool.true_or, if_pos rfl, answered]
          have sameFile : after.fileAt = w.fileAt := by
            funext q
            rw [fileAt, fileAt, sameFiles]
          rw [run_analyzeFile_readable serves.served readable answered compiled]
          dsimp only
          rw [run_bind, ih servesAgain, ends, afterFiles_eq_self (run_rulesOr_again answered), sameFile]
          rfl
      | false =>
          have ends : w.afterFiles rules (p :: rest) = w.afterFiles rules rest := by
            rw [afterFiles, List.map_cons, List.any_cons, readable, Bool.false_or, afterFiles]
          rw [run_analyzeFile_unreadable serves.served (serves.taken p List.mem_cons_self) readable set]
          dsimp only
          rw [run_bind, ih restServes, ends]
          rfl

/-! ## Files together -/

/-- The paths whose names are supported. -/
def supportedPaths (paths : List FilePath) : List FilePath :=
  paths.filter fun p => FileName.isSupported p.name

/-- The report of paths has the findings of the supported files one by one, and the workspace after it
is that which their analysis one after another leaves. -/
theorem run_analyzePaths {service : Service} (served : w.service = some service)
    (notNegative : ∀ count ∈ service.workers, 0 ≤ count)
    (serves : w.Serves rules (supportedPaths paths) set) :
    w.run (analyzePaths paths rules) =
      (.ok ⟨(supportedPaths paths).flatMap fun p => (w.fileAt p).findings set,
        (supportedPaths paths).length⟩, w.afterFiles rules (supportedPaths paths)) := by
  have read : w.run
      ((supportedPaths paths).mapM fun p => do return NamedFile.mk p.name (← readFile p)) =
        (.ok ((supportedPaths paths).map w.fileAt), w) := by
    refine run_mapM_of_same fun p member => ?_
    rw [run_bind, run_readFile (serves.taken p member)]
    rfl
  simp only [analyzePaths, theService, run_bind, run_get, served, require, run_pure]
  rw [← supportedPaths]
  generalize supportedPaths paths = supported at serves read ⊢
  have count : supported.length = (supported.map w.fileAt).length := (List.length_map _).symm
  have found : (supported.flatMap fun p => (w.fileAt p).findings set) =
      (supported.map w.fileAt).flatMap (NamedFile.findings set) := by rw [List.flatMap_map]
  rw [read, count, found, afterFiles]
  dsimp only
  cases readable : (supported.map w.fileAt).any NamedFile.isReadable with
  | true =>
      obtain ⟨answer, after, answered, compiled⟩ := serves.compiled (any_isReadable_iff.mp readable)
      rw [if_pos rfl, if_pos rfl, run_bind, answered]
      dsimp only
      rw [run_lift, analyzeFiles_eq_ok (fun _ => compiled) notNegative]
      rfl
  | false =>
      have noRules : (supported.map w.fileAt).any NamedFile.isReadable = true →
          RuleSet.compile [] = .ok set := fun isReadable => by
        rw [readable] at isReadable
        cases isReadable
      rw [if_neg Bool.false_ne_true, if_neg Bool.false_ne_true, run_bind, run_pure]
      dsimp only
      rw [run_lift, analyzeFiles_eq_ok noRules notNegative]
      rfl

/-- The report of paths has the findings of each file with a supported name, as the file by itself has
them, in the order of the paths; it counts all these files, and a file that cannot be read has its one
finding at its place. Every run of the workers on the readable files ends with a stream of results that
is handed out exactly. If no file can be read, rules are neither needed nor looked for. -/
theorem analyzePaths_report {service : Service} (served : w.service = some service)
    (notNegative : ∀ count ∈ service.workers, 0 ≤ count)
    (serves : w.Serves rules (supportedPaths paths) set) :
    ∃ report after, w.run (analyzePaths paths rules) = (.ok report, after) ∧
      report.documents = (supportedPaths paths).length ∧
      (∃ own : FilePath → List Finding, report.findings = (supportedPaths paths).flatMap own ∧
        (∀ p ∈ supportedPaths paths, (w.run (analyzeFile p [] rules false)).1 = .ok (own p)) ∧
        w.run ((supportedPaths paths).mapM fun p => analyzeFile p [] rules false) =
          (.ok ((supportedPaths paths).map own), after) ∧
        ∀ p ∈ supportedPaths paths, ∀ e, w.files.read p = .error e →
          own p = [readErrorFinding p.name e.message]) ∧
      (∀ processors, HandsOut ((supportedPaths paths).map w.fileAt) set
        (poolSize processors service.workers
          (readableDocuments ((supportedPaths paths).map w.fileAt)).length) report.findings) ∧
      ((∀ p ∈ supportedPaths paths, ∀ bytes, w.files.read p ≠ .ok bytes) → after = w) := by
  refine ⟨_, _, run_analyzePaths served notNegative serves, rfl,
    ⟨fun p => (w.fileAt p).findings set, rfl, fun p => run_analyzeFile serves,
      run_mapM_analyzeFile serves, ?_⟩, ?_, ?_⟩
  · intro p member e unreadable
    dsimp only [fileAt]
    rw [unreadable]
    rfl
  · intro processors
    have handed := handsOut ((supportedPaths paths).map w.fileAt) set
      fun someDocument => poolSize_pos processors notNegative someDocument
    rw [List.flatMap_map] at handed
    exact handed
  · intro noneReadable
    refine if_neg fun someReadable => ?_
    obtain ⟨p, member, bytes, read⟩ := any_isReadable_iff.mp someReadable
    exact noneReadable p member bytes read

/-- A script beside a file that is missing, in a workspace with a service without rules. -/
def scriptOnly : Workspace :=
  { empty with
    files := ⟨[(["a.py"], .file [0x78])]⟩
    service := some ⟨some [], none, some 2⟩ }

/-- The missing file keeps its place in front of the script, and the text file is left out. -/
theorem analyzePaths_report_scriptOnly :
    scriptOnly.service = some ⟨some [], none, some 2⟩ ∧
      (∀ count ∈ (some 2 : Option Int), 0 ≤ count) ∧
      scriptOnly.Serves none (supportedPaths [.ofText "b.ipynb", .ofText "c.txt", .ofText "a.py"])
        ⟨[], []⟩ ∧
      ∃ report after,
        scriptOnly.run (analyzePaths [.ofText "b.ipynb", .ofText "c.txt", .ofText "a.py"] none) =
          (.ok report, after) ∧ report.documents = 2 ∧
        report.findings.map (·.document) = ["b.ipynb", "a.py", "a.py"] := by
  have served : scriptOnly.service = some ⟨some [], none, some 2⟩ := rfl
  have notNegative : ∀ count ∈ (some 2 : Option Int), 0 ≤ count := by decide
  have supported : supportedPaths [.ofText "b.ipynb", .ofText "c.txt", .ofText "a.py"] =
      [.ofText "b.ipynb", .ofText "a.py"] := by decide +kernel
  have missing : scriptOnly.files.read (.ofText "b.ipynb") =
      .error (.failed .missing (.ofText "b.ipynb")) := by decide +kernel
  have there : scriptOnly.files.read (.ofText "a.py") = .ok [0x78] := by decide +kernel
  have serves : scriptOnly.Serves none
      (supportedPaths [.ofText "b.ipynb", .ofText "c.txt", .ofText "a.py"]) ⟨[], []⟩ := by
    refine ⟨rfl, ?_, fun _ => ⟨[], scriptOnly, rfl, rfl⟩⟩
    rw [supported]
    intro p member fault refused
    simp only [List.mem_cons, List.not_mem_nil, or_false] at member
    rcases member with rfl | rfl
    · rw [missing] at refused
      cases refused
    · rw [there] at refused
      cases refused
  obtain ⟨report, after, ran, count, ⟨own, findings, each, -, single⟩, -, -⟩ :=
    analyzePaths_report served notNegative serves
  rw [supported] at findings each single count
  have script : ((scriptOnly.run (analyzeFile (.ofText "a.py") [] none false)).1.toOption.getD []).map
      (·.document) = ["a.py", "a.py"] := by decide +kernel
  rw [each _ (by simp)] at script
  refine ⟨served, notNegative, serves, report, after, ran, count, ?_⟩
  rw [findings, List.flatMap_cons, single _ (by simp) _ missing, List.flatMap_cons, List.flatMap_nil,
    List.append_nil, List.map_append]
  exact congrArg (_ :: ·) script

end Workspace

end NotebookAudit

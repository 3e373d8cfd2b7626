import Mathlib.Data.List.Permutation
import NotebookAudit.Proofs.Workspace.Configuration

/-!
Numbers of workers.

The environment decides on the number of workers if it tells anything, and otherwise the settings do
(`Settings.GivesWorkers`). The value that decides counts as an integer or as none (`Json.CountsAs`),
and one that is no positive integer is passed over with a remark. Only an infinite double is not
passed over: `Workspace.workers_counted`.
-/

namespace NotebookAudit

/-! ## What a value tells -/

namespace Json

/-- The integer that a value counts as: zero or one for a truth value, a double without its
fraction, and the integer that a text spells in decimal. -/
inductive CountsAs : Json → Int → Prop
  | no : CountsAs (.bool false) 0
  | yes : CountsAs (.bool true) 1
  | int (i : Int) : CountsAs (.int i) i
  | double {d : Double} {i : Int} (cut : d.truncate? = some i) : CountsAs (.float d) i
  | text {t : Text} {i : Int} (spells : Numeral.readInt 10 t = .ok i) : CountsAs (.text t) i

/-- The value is null, or a text without characters. -/
def TellsNothing (v : Json) : Prop := v = .null ∨ v = .text []

/-- The value is an infinite double. -/
def IsInfinite (v : Json) : Prop := ∃ negative, v = .float (.infinity negative)

variable {v : Json} {i j : Int}

theorem CountsAs.unique (one : CountsAs v i) (other : CountsAs v j) : i = j := by
  cases one with
  | no => cases other; rfl
  | yes => cases other; rfl
  | int i => cases other; rfl
  | double cut =>
      cases other with
      | double cut' => exact Option.some.inj (cut.symm.trans cut')
  | text spells =>
      cases other with
      | text spells' => exact Except.ok.inj (spells.symm.trans spells')

/-- No digits spell no integer. -/
theorem CountsAs.not_tellsNothing (counts : CountsAs v i) : ¬ v.TellsNothing := by
  rintro (rfl | rfl)
  · cases counts
  · cases counts with
    | text spells => cases spells

end Json

namespace Settings.Workers

variable {v : Json} {found : Workers} {i : Int}

/-- What a value tells about the number of workers. -/
inductive Tells (v : Json) : Workers → Prop
  | nothing (isEmpty : v.TellsNothing) : Tells v unset
  | number {i : Int} (counts : v.CountsAs i) (positive : 1 ≤ i) : Tells v (count i)
  | tooFew {i : Int} (counts : v.CountsAs i) (few : i < 1) : Tells v (nonPositive i)
  | noNumber (given : ¬ v.TellsNothing) (finite : ¬ v.IsInfinite) (none : ∀ i, ¬ v.CountsAs i) :
    Tells v invalid

theorem tells_ofInt (counts : v.CountsAs i) : Tells v (ofInt i) := by
  unfold ofInt
  split
  · next few => exact .tooFew counts few
  · next positive => exact .number counts (Int.not_lt.mp positive)

/-- A value of which every form is refused tells no number. -/
theorem tells_invalid (given : v ≠ .null ∧ v ≠ .text []) (finite : ∀ s, v ≠ .float (.infinity s))
    (none : ∀ i, ¬ v.CountsAs i) : Tells v invalid :=
  .noNumber (not_or.mpr given) (not_exists.mpr finite) none

/-- A number is found in every value but an infinite one. -/
theorem exists_tells (finite : ¬ v.IsInfinite) : ∃ found, ofJson v = .ok found ∧ Tells v found := by
  cases v with
  | null => exact ⟨_, rfl, .nothing (.inl rfl)⟩
  | bool b =>
      cases b with
      | false => exact ⟨_, rfl, tells_ofInt .no⟩
      | true => exact ⟨_, rfl, tells_ofInt .yes⟩
  | int i => exact ⟨_, rfl, tells_ofInt (.int i)⟩
  | float d =>
      cases d with
      | infinity negative => exact absurd ⟨negative, rfl⟩ finite
      | nan =>
          refine ⟨_, rfl, tells_invalid (by simp) (by simp) fun i counts => ?_⟩
          cases counts with
          | double cut => cases cut
      | finite negative m e => exact ⟨_, rfl, tells_ofInt (.double rfl)⟩
  | text t =>
      cases t with
      | nil => exact ⟨_, rfl, .nothing (.inr rfl)⟩
      | cons c t =>
          refine ⟨_, rfl, ?_⟩
          unfold ofText
          cases spelled : Numeral.readInt 10 (c :: t) with
          | ok i => exact tells_ofInt (.text spelled)
          | error fault =>
              refine tells_invalid (by simp) (by simp) fun i counts => ?_
              cases counts with
              | text spells => cases spelled.symm.trans spells
  | array | object =>
      exact ⟨_, rfl, tells_invalid (by simp) (by simp) fun i counts => nomatch counts⟩

/-- There is no number in an infinite value. -/
theorem ofJson_of_isInfinite (infinite : v.IsInfinite) : ofJson v = .error .infiniteWorkers := by
  obtain ⟨negative, rfl⟩ := infinite
  rfl

/-- The number that is found is the positive integer that the value counts as. -/
theorem Tells.count?_eq_some_iff (tells : Tells v found) :
    found.count? = some i ↔ v.CountsAs i ∧ 1 ≤ i := by
  cases tells with
  | nothing isEmpty =>
      exact ⟨fun same => (nomatch same), fun both => absurd isEmpty both.1.not_tellsNothing⟩
  | number counts positive =>
      constructor
      · intro same
        cases same
        exact ⟨counts, positive⟩
      · intro both
        rw [both.1.unique counts]
        rfl
  | tooFew counts few =>
      refine ⟨fun same => (nomatch same), fun both => ?_⟩
      rw [both.1.unique counts] at both
      exact absurd few (Int.not_lt.mpr both.2)
  | noNumber _ _ none => exact ⟨fun same => (nomatch same), fun both => absurd both.1 (none i)⟩

/-- What is passed over is remarked, unless it tells nothing. -/
theorem Tells.remarks_eq_nil_iff (tells : Tells v found) :
    found.remarks = [] ↔ found.count?.isSome = true ∨ v.TellsNothing := by
  cases tells with
  | nothing isEmpty => exact ⟨fun _ => .inr isEmpty, fun _ => rfl⟩
  | number counts positive => exact ⟨fun _ => .inl rfl, fun _ => rfl⟩
  | tooFew counts few =>
      refine ⟨fun same => (nomatch same), fun either => ?_⟩
      exact either.elim (nomatch ·) (absurd · counts.not_tellsNothing)
  | noNumber given _ _ =>
      exact ⟨fun same => (nomatch same), fun either => either.elim (nomatch ·) (absurd · given)⟩

end Settings.Workers

/-! ## The value that decides -/

namespace Settings

variable {members : List (Text × Json)} {env : Environment} {v : Json}

/-- The value that decides on the number of workers: that of the environment if it has characters,
and otherwise the one among the settings of the analysis, or null if there is none. -/
inductive GivesWorkers (members : List (Text × Json)) (env : Environment) : Json → Prop
  | environment {t : Text} (set : Environment.given env.workers = some t) :
    GivesWorkers members env (.text t)
  | settings {analysis : List (Text × Json)} {v : Json}
    (unset : Environment.given env.workers = none)
    (group : Json.member? "analysis" members = some (.object analysis))
    (member : Json.member? "max_workers" analysis = some v) : GivesWorkers members env v
  | noMember {analysis : List (Text × Json)} (unset : Environment.given env.workers = none)
    (group : Json.member? "analysis" members = some (.object analysis))
    (absent : Json.member? "max_workers" analysis = none) : GivesWorkers members env .null
  | noGroup (unset : Environment.given env.workers = none)
    (absent : Json.member? "analysis" members = none) : GivesWorkers members env .null

theorem given_ne_nil {t : Text} {value : Option Text} (set : Environment.given value = some t) :
    t ≠ [] := by
  simpa using (Option.filter_eq_some_iff.mp set).2

/-- What the environment says decides. -/
theorem GivesWorkers.of_environment (gives : GivesWorkers members env v) {t : Text}
    (set : env.workers = some t) (nonempty : t ≠ []) : v = .text t := by
  have given : Environment.given env.workers = some t := by
    rw [set]
    exact Option.filter_eq_some_iff.mpr ⟨rfl, by simpa using nonempty⟩
  cases gives with
  | environment set' => rw [Option.some.inj (set'.symm.trans given)]
  | settings unset | noMember unset | noGroup unset => cases unset.symm.trans given

/-- Some value decides if the settings of the analysis are settings. -/
theorem exists_givesWorkers
    (analysis : ∀ v, Json.member? "analysis" members = some v → ∃ inner, v = .object inner)
    (env : Environment) : ∃ v, GivesWorkers members env v := by
  cases set : Environment.given env.workers with
  | some t => exact ⟨_, .environment set⟩
  | none =>
      cases group : Json.member? "analysis" members with
      | none => exact ⟨_, .noGroup set group⟩
      | some given =>
          obtain ⟨inner, rfl⟩ := analysis given group
          cases member : Json.member? "max_workers" inner with
          | none => exact ⟨_, .noMember set group member⟩
          | some v => exact ⟨v, .settings set group member⟩

/-- The number of workers is looked for in the value that decides. -/
theorem workers_of_gives (gives : GivesWorkers members env v) :
    workers (.object members) env = Workers.ofJson v := by
  cases gives with
  | @environment t set =>
      rw [workers, set]
      cases t with
      | nil => exact absurd rfl (given_ne_nil set)
      | cons c t => rfl
  | settings unset found member =>
      rw [workers, unset, group, found]
      simp only [bind, Except.bind, member, Option.getD_some]
  | noMember unset found absent =>
      rw [workers, unset, group, found]
      simp only [bind, Except.bind, absent, Option.getD_none]
  | noGroup unset absent =>
      rw [workers, unset, group, absent]
      rfl

end Settings

/-! ## Configurations -/

namespace Workspace

variable {w : Workspace} {index : Nat} {c : Config} {path : FilePath} {bytes : Bytes}
  {members : List (Text × Json)} {v : Json}

/-- An infinite value fails, and leaves the workspace as it is. -/
theorem run_workers_of_isInfinite (has : w.HasConfig index c)
    (isObject : c.settings = .object members)
    (gives : Settings.GivesWorkers members w.environment v) (infinite : v.IsInfinite) :
    w.run workers = (.error (.config .infiniteWorkers), w) := by
  simp only [workers, workersOf, run_bind, run_theConfig has, run_get, run_lift, isObject,
    Settings.workers_of_gives gives, Settings.Workers.ofJson_of_isInfinite infinite,
    Except.mapError]

/-- Every other value gives its number or none, and is remarked if it is passed over. -/
theorem exists_run_workers (has : w.HasConfig index c) (isObject : c.settings = .object members)
    (gives : Settings.GivesWorkers members w.environment v) (finite : ¬ v.IsInfinite) :
    ∃ found, Settings.Workers.Tells v found ∧ w.run workers =
      (.ok found.count?, { w with log := w.log ++ found.remarks.map ConfigRemark.line }) := by
  obtain ⟨found, read, tells⟩ := Settings.Workers.exists_tells finite
  refine ⟨found, tells, ?_⟩
  simp only [workers, workersOf, run_bind, run_theConfig has, run_get, run_lift, isObject,
    Settings.workers_of_gives gives, read, Except.mapError, addLog, run_modify, run_pure]

/-- A file that is read is there. -/
theorem exists_node_of_read {tree : FileTree} (read : tree.read path = .ok bytes) :
    ∃ node, tree.find? path = .ok (some node) := by
  rw [FileTree.read] at read
  obtain ⟨node, found, -⟩ := bind_eq_ok_iff.mp read
  exact ⟨node, by rw [FileTree.find?, found]⟩

/-- A configuration that is opened on a file has the settings that the file holds. -/
theorem exists_run_openSettings {s : Settings} (read : w.files.read path = .ok bytes)
    (holds : Settings.ofBytes bytes = .ok s) :
    ∃ opened number, w.run (openConfig path) = (.ok (), opened) ∧
      opened.HasConfig number ⟨path, s⟩ ∧ opened.environment = w.environment := by
  obtain ⟨node, found⟩ := exists_node_of_read read
  have inFile : Settings.ofFile w.files path = .ok s := by
    rw [Settings.ofFile, read]
    exact holds
  exact exists_run_openConfig (Settings.load_of_holds found inFile)

/-- A configuration is opened on a file that holds a JSON object in which the settings of the
analysis, if there are any, are settings. Under every environment some value decides on its number
of workers, which is the one of the environment if that has characters. Unless this value is
infinite, the number of workers is looked up and is none, or the positive integer that the value
counts as, and every other value that is given is remarked. An infinite value, which only the file
can give, fails. -/
theorem workers_counted (read : w.files.read path = .ok bytes)
    (holds : Settings.ofBytes bytes = .ok (.object members))
    (analysis : ∀ v, Json.member? "analysis" members = some v → ∃ inner, v = .object inner) :
    ∃ opened, w.run (openConfig path) = (.ok (), opened) ∧ ∀ env : Environment,
      ∃ v, Settings.GivesWorkers members env v ∧
        (∀ t, env.workers = some t → t ≠ [] → v = .text t) ∧
        (¬ v.IsInfinite → ∃ (found : Option Int) (lines : List LogLine),
          run { opened with environment := env } workers =
            (.ok found, { opened with environment := env, log := opened.log ++ lines }) ∧
          (∀ n, found = some n ↔ v.CountsAs n ∧ 1 ≤ n) ∧
          (lines = [] ↔ found.isSome = true ∨ v.TellsNothing)) ∧
        (v.IsInfinite → run { opened with environment := env } workers =
          (.error (.config .infiniteWorkers), { opened with environment := env })) := by
  obtain ⟨opened, number, ran, has, -⟩ := exists_run_openSettings read holds
  refine ⟨opened, ran, fun env => ?_⟩
  obtain ⟨v, gives⟩ := Settings.exists_givesWorkers analysis env
  have hasUnder : HasConfig { opened with environment := env } number ⟨path, .object members⟩ :=
    ⟨has.isCurrent, has.there⟩
  refine ⟨v, gives, fun t => gives.of_environment, fun finite => ?_, fun infinite => ?_⟩
  · obtain ⟨found, tells, ran⟩ := exists_run_workers hasUnder rfl gives finite
    refine ⟨_, _, ran, fun n => tells.count?_eq_some_iff, ?_⟩
    rw [List.map_eq_nil_iff]
    exact tells.remarks_eq_nil_iff
  · exact run_workers_of_isInfinite hasUnder rfl gives infinite

/-- A workspace with one file, which holds a text. -/
def oneFileWorkspace (text : Text) : Workspace :=
  { empty with files := ⟨[(["c.json"], .file (Utf8.encode text))]⟩ }

theorem read_oneFile (text : Text) :
    (oneFileWorkspace text).files.read (.ofText "c.json") = .ok (Utf8.encode text) := rfl

/-- A number of workers may be spelled in a text. The environment goes before it, and may use the
digits of another script. -/
theorem workers_counted_arabicDigit :
    ∃ text members, (oneFileWorkspace text).files.read (.ofText "c.json") =
        .ok (Utf8.encode text) ∧
      Settings.ofBytes (Utf8.encode text) = .ok (.object members) ∧
      (∀ v, Json.member? "analysis" members = some v → ∃ inner, v = .object inner) ∧
      ∃ opened, (oneFileWorkspace text).run (openConfig (.ofText "c.json")) = (.ok (), opened) ∧
        (run { opened with environment := .empty } workers).1 = .ok (some 10) ∧
        (run { opened with environment := ⟨none, some [0x663]⟩ } workers).1 = .ok (some 3) := by
  have holds : Settings.ofBytes (Utf8.encode
      "\x7b\"analysis\": \x7b\"max_workers\": \" 1_0\"\x7d\x7d") =
      .ok (.object [("analysis", .object [("max_workers", .text " 1_0")])]) := by
    cbv
  have analysis : ∀ v, Json.member? "analysis" [(Text.ofString "analysis",
      Json.object [("max_workers", .text " 1_0")])] = some v →
      ∃ inner, v = .object inner := by
    rintro v ⟨⟩
    exact ⟨_, rfl⟩
  obtain ⟨opened, ran, under⟩ := workers_counted (read_oneFile _) holds analysis
  refine ⟨_, _, read_oneFile _, holds, analysis, opened, ran, ?_, ?_⟩
  · obtain ⟨v, gives, -, counted, -⟩ := under .empty
    have same : v = .text " 1_0" := by
      cases gives with
      | environment set => cases set
      | settings _ group member =>
          cases group
          cases member
          rfl
      | noMember _ group absent =>
          cases group
          cases absent
      | noGroup _ absent => cases absent
    subst same
    obtain ⟨found, lines, ran, number, -⟩ := counted (by rintro ⟨negative, ⟨⟩⟩)
    rw [ran, (number 10).mpr ⟨.text rfl, by decide⟩]
  · obtain ⟨v, -, fromEnvironment, counted, -⟩ := under ⟨none, some [0x663]⟩
    have same : v = .text [0x663] := fromEnvironment _ rfl (by decide)
    subst same
    obtain ⟨found, lines, ran, number, -⟩ := counted (by rintro ⟨negative, ⟨⟩⟩)
    rw [ran, (number 3).mpr ⟨.text rfl, by decide⟩]

/-- An infinite number of workers fails, although the settings of the analysis are settings. -/
theorem workers_infinite :
    Settings.ofBytes (Utf8.encode "\x7b\"analysis\": \x7b\"max_workers\": Infinity\x7d\x7d") =
      .ok (.object [("analysis", .object [("max_workers", .float (.infinity false))])]) ∧
    ∃ opened, (oneFileWorkspace "\x7b\"analysis\": \x7b\"max_workers\": Infinity\x7d\x7d").run
        (openConfig (.ofText "c.json")) = (.ok (), opened) ∧
      opened.environment.workers = none ∧
      opened.run workers = (.error (.config .infiniteWorkers), opened) := by
  have holds : Settings.ofBytes (Utf8.encode
      "\x7b\"analysis\": \x7b\"max_workers\": Infinity\x7d\x7d") =
      .ok (.object [("analysis", .object [("max_workers", .float (.infinity false))])]) := by
    cbv
  obtain ⟨opened, number, ran, has, environment⟩ := exists_run_openSettings (read_oneFile _) holds
  have unset : opened.environment.workers = none := by rw [environment]; rfl
  refine ⟨holds, opened, ran, unset, run_workers_of_isInfinite has rfl ?_ ⟨false, rfl⟩⟩
  exact .settings (by rw [unset]; rfl) rfl rfl

end Workspace

end NotebookAudit

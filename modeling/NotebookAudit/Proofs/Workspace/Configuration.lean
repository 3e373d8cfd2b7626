import NotebookAudit.Proofs.Settings.RulesDirectory
import NotebookAudit.Proofs.Workspace.Run

/-!
Configurations that are saved and opened again.

To set the directory of the rules either fails and leaves everything as it was, or changes one member of
the settings and saves them; a configuration that is opened on the same file then has the new settings:
`Workspace.setRulesDirectory_reads_back`.
-/

namespace NotebookAudit

namespace Workspace

variable {w : Workspace} {index : Nat} {c : Config} {v : Json} {new : Settings}

/-- The configuration is the one opened last, and has the number. -/
structure HasConfig (w : Workspace) (index : Nat) (c : Config) : Prop where
  isCurrent : w.config = some index
  there : w.configs[index]? = some c

theorem run_theConfig (has : w.HasConfig index c) : w.run theConfig = (.ok (index, c), w) := by
  simp only [theConfig, run_bind, run_get, has.isCurrent, has.there, require, run_pure]

/-- Settings that are loaded without a remark leave the workspace as it is. -/
theorem run_loadSettings {path : FilePath} {s : Settings}
    (loads : Settings.load w.files path = .ok (s, [])) : w.run (loadSettings path) = (.ok s, w) := by
  simp only [loadSettings, run_bind, run_get, run_lift, loads, Except.mapError, addLog, run_modify,
    List.map_nil, List.append_nil, run_pure]

theorem run_loadConfig {s : Settings} (has : w.HasConfig index c)
    (loads : Settings.load w.files c.path = .ok (s, [])) : w.run loadConfig = (.ok s, w) := by
  simp only [loadConfig, run_bind, run_theConfig has, run_loadSettings loads]

/-- A configuration that is opened without a remark has the settings of its file. -/
theorem exists_run_openConfig {path : FilePath} {s : Settings}
    (loads : Settings.load w.files path = .ok (s, [])) :
    ∃ opened number, w.run (openConfig path) = (.ok (), opened) ∧ opened.HasConfig number ⟨path, s⟩ ∧
      opened.environment = w.environment := by
  refine ⟨{ w with configs := w.configs ++ [⟨path, s⟩], config := some w.configs.length },
    w.configs.length, ?_, ⟨rfl, List.getElem?_concat_length⟩, rfl⟩
  simp only [openConfig, run_bind, run_loadSettings loads, run_modify]

/-- A configuration that was opened has settings that are read from a text, whatever its file holds. -/
theorem HasConfig.isDecoded_of_openConfig {before : Workspace} {path : FilePath}
    (has : w.HasConfig index c) (opened : before.run (openConfig path) = (.ok (), w)) :
    Json.IsDecoded c.settings := by
  cases loads : Settings.load before.files path with
  | error e =>
      simp only [openConfig, loadSettings, run_bind, run_get, run_lift, loads, Except.mapError] at opened
      cases opened
  | ok loaded =>
      obtain ⟨s, remarks⟩ := loaded
      simp only [openConfig, loadSettings, run_bind, run_get, run_lift, loads, Except.mapError, addLog,
        run_modify, run_pure] at opened
      cases opened
      obtain ⟨isCurrent, there⟩ := has
      cases isCurrent
      rw [List.getElem?_concat_length] at there
      cases there
      exact Settings.isDecoded_of_load loads

theorem run_rulesDirectory (has : w.HasConfig index c)
    (found : c.settings.rulesDirectory w.environment = .ok v) :
    w.run rulesDirectory = (.ok v, w) := by
  simp only [rulesDirectory, run_bind, run_theConfig has, run_get, run_lift, found, Except.mapError]

/-- Settings that refuse the directory of the rules leave the workspace as it is. -/
theorem run_setRulesDirectory_of_refuses (has : w.HasConfig index c) (refuses : c.settings.Refuses)
    (v : Json) : w.run (setRulesDirectory v) = (.error (.config .notAssignable), w) := by
  simp only [setRulesDirectory, run_bind, run_theConfig has,
    Settings.setRulesDirectory_of_refuses refuses, run_lift, Except.mapError]

/-- The workspace after settings are given to a configuration and saved. -/
def afterSaving (w : Workspace) (index : Nat) (c : Config) (new : Settings) : Workspace :=
  { w with
    configs := w.configs.set index { c with settings := new }
    files := (Settings.save w.files c.path new).1
    log := w.log ++ [(Settings.save w.files c.path new).2.line] }

theorem afterSaving_hasConfig (has : w.HasConfig index c) (new : Settings) :
    (w.afterSaving index c new).HasConfig index { c with settings := new } where
  isCurrent := has.isCurrent
  there := List.getElem?_set_self (List.getElem?_eq_some_iff.mp has.there).1

/-- New settings are given to the configuration and saved; that they cannot be saved is no failure. -/
theorem run_setRulesDirectory (has : w.HasConfig index c)
    (set : c.settings.setRulesDirectory v = .ok new) :
    w.run (setRulesDirectory v) = (.ok (), w.afterSaving index c new) := by
  have given : HasConfig { w with configs := w.configs.set index { c with settings := new } } index
      { c with settings := new } := ⟨has.isCurrent, (afterSaving_hasConfig has new).there⟩
  simp only [setRulesDirectory, run_bind, run_theConfig has, set, run_lift, Except.mapError,
    run_modify, saveConfig, run_theConfig given, run_get, addLog]
  rfl

/-- To set the directory of the rules fails exactly if the settings are no object or their paths are
given and are no object, and then nothing is changed. Otherwise the directory is set, and every other
member is kept in its order. If the file can be written, the settings are those of a file, and the
directory is a value that is read from a text, then the configuration's file holds the new settings: to
load it gives them, and so does a configuration that is opened on it, which says the directory that was
set, unless the environment says another or the value counts as not given. The settings are those of a
file if the configuration has just been opened, and the new settings are again. -/
theorem setRulesDirectory_reads_back (has : w.HasConfig index c) (v : Json) :
    (c.settings.Refuses → w.run (setRulesDirectory v) = (.error (.config .notAssignable), w)) ∧
    (¬ c.settings.Refuses → ∃ new after, w.run (setRulesDirectory v) = (.ok (), after) ∧
      c.settings.SetsRulesDirectory v new ∧ after.HasConfig index { c with settings := new } ∧
      (w.files.IsWritable c.path → Json.IsDecoded c.settings → Json.KeepsDoubles c.settings →
        Json.IsDecoded v → Json.KeepsDoubles v → Json.nesting v + 2 ≤ Json.depthLimit →
        Json.IsDecoded new ∧ after.run loadConfig = (.ok new, after) ∧
        ∃ opened number, after.run (openConfig c.path) = (.ok (), opened) ∧
          opened.HasConfig number ⟨c.path, new⟩ ∧
          (Environment.given w.environment.rulesDirectory = none → v.isTruthy = true →
            opened.run rulesDirectory = (.ok v, opened)))) ∧
    ∀ (before : Workspace) path, before.run (openConfig path) = (.ok (), w) → Json.IsDecoded c.settings := by
  refine ⟨fun refuses => run_setRulesDirectory_of_refuses has refuses v, fun takes => ?_,
    fun before path opened => has.isDecoded_of_openConfig opened⟩
  obtain ⟨new, set, sets⟩ := Settings.exists_setRulesDirectory takes v
  have hasNew := afterSaving_hasConfig has new
  refine ⟨new, _, run_setRulesDirectory has set, sets, hasNew, ?_⟩
  intro canWrite decoded keeps value valueKeeps shallow
  have writable := Settings.writable_setRulesDirectory set decoded keeps value valueKeeps shallow
  obtain ⟨files, saved, loaded⟩ := Settings.load_saved writable canWrite
  have loads : Settings.load (w.afterSaving index c new).files c.path = .ok (new, []) := by
    show Settings.load (Settings.save w.files c.path new).1 c.path = _
    rw [saved, loaded]
  obtain ⟨opened, number, ran, hasOpened, environment⟩ := exists_run_openConfig loads
  refine ⟨writable.isDecoded, run_loadConfig hasNew loads, opened, number, ran, hasOpened, ?_⟩
  intro unset given
  refine run_rulesDirectory hasOpened (sets.rulesDirectory ?_ given)
  rw [environment]
  exact unset

/-- Settings with one half among the paths, and with half of a surrogate pair. -/
def halfSettings : Settings :=
  .object [("paths", .object [("old", .float (.finite false 4503599627370496 (-53)))]),
    ("name", .text [0xd800])]

/-- A workspace in which a configuration has these settings. -/
def halfWorkspace : Workspace :=
  { empty with
    files := ⟨[(["c.json"], .file halfSettings.toBytes)]⟩
    configs := [⟨.ofText "c.json", halfSettings⟩]
    config := some 0 }

/-- The double in the settings is read back. -/
theorem halfSettings_keepsDoubles : Json.KeepsDoubles halfSettings := by
  intro d occurs
  cases occurs with
  | member member inside =>
      rcases List.mem_cons.mp member with rfl | member
      · cases inside with
        | member member inside =>
            cases List.mem_singleton.mp member
            cases inside
            rfl
      · cases List.mem_singleton.mp member
        cases inside

theorem halfSettings_isDecoded : Json.IsDecoded halfSettings := by
  have name (word : Text) (scalar : Utf8.IsEncodable word) : Json.WritableText true word :=
    .of_isEncodable scalar
  have half : Json.WritableText true [0xd800] :=
    ⟨by decide, (fun raw => nomatch raw), List.isChain_singleton _⟩
  have double : Json.Writable true 988 (.float (.finite false 4503599627370496 (-53))) :=
    .float (Json.spells_writeFloat rfl)
  have paths : Json.Writable true 989
      (.object [("old", .float (.finite false 4503599627370496 (-53)))]) :=
    .object (by decide) (List.forall_mem_singleton.mpr (name "old" (by decide)))
      (List.forall_mem_singleton.mpr double)
  have whole : Json.Writable true Json.depthLimit halfSettings :=
    .object (by decide)
      (List.forall_mem_cons.mpr
        ⟨name "paths" (by decide), List.forall_mem_singleton.mpr (name "name" (by decide))⟩)
      (List.forall_mem_cons.mpr ⟨paths, List.forall_mem_singleton.mpr (.text half)⟩)
  exact whole.isDecoded

/-- The directory of the rules is set beside the double, and a configuration that is opened anew says
it. -/
theorem setRulesDirectory_reads_back_halfWorkspace :
    halfWorkspace.HasConfig 0 ⟨.ofText "c.json", halfSettings⟩ ∧ ¬ halfSettings.Refuses ∧
      halfWorkspace.files.IsWritable (.ofText "c.json") ∧ Json.IsDecoded halfSettings ∧
      Json.KeepsDoubles halfSettings ∧ Json.IsDecoded (.text "reglas/ñ") ∧
      Json.KeepsDoubles (.text "reglas/ñ") ∧
      ∃ after opened, halfWorkspace.run (setRulesDirectory (.text "reglas/ñ")) = (.ok (), after) ∧
        after.run (openConfig (.ofText "c.json")) = (.ok (), opened) ∧
        opened.run rulesDirectory = (.ok (.text "reglas/ñ"), opened) := by
  have has : halfWorkspace.HasConfig 0 ⟨.ofText "c.json", halfSettings⟩ := ⟨rfl, rfl⟩
  have takes : ¬ halfSettings.Refuses := by
    rintro (noObject | ⟨members, given, same, found, noPaths⟩)
    · exact noObject _ rfl
    · cases same
      exact noPaths _ (Option.some.inj found).symm
  have canWrite : halfWorkspace.files.IsWritable (.ofText "c.json") :=
    ⟨["c.json"], by decide +kernel, by decide +kernel⟩
  have value : Json.IsDecoded (.text "reglas/ñ") :=
    ⟨"\"reglas/ñ\"", by decide +kernel, by cbv⟩
  have valueKeeps : Json.KeepsDoubles (.text "reglas/ñ") := by
    intro d occurs
    cases occurs
  obtain ⟨new, after, ran, -, -, readsBack⟩ :=
    (setRulesDirectory_reads_back has (.text "reglas/ñ")).2.1 takes
  obtain ⟨-, -, opened, number, isOpened, -, directory⟩ := readsBack canWrite halfSettings_isDecoded
    halfSettings_keepsDoubles value valueKeeps (by decide)
  exact ⟨has, takes, canWrite, halfSettings_isDecoded, halfSettings_keepsDoubles, value, valueKeeps,
    after, opened, ran, isOpened, directory rfl (by decide)⟩

end Workspace

end NotebookAudit

import NotebookAudit.Proofs.Workspace.Run

/-!
Operations on a workspace, from their parts.

For a preorder of workspaces, what every run of an operation leads to follows from the changes that
the operation makes itself. An operation that only reads needs nothing; one that logs needs that the
relation does not look at the log; and one that needs rules, what a snapshot leads to.
-/

namespace NotebookAudit

/-- The relation does not look at the log. -/
def IgnoresLog (R : Workspace → Workspace → Prop) : Prop :=
  ∀ (w : Workspace) (log : List LogLine), R w { w with log }

namespace Workspace

variable {R : Workspace → Workspace → Prop} [IsPreorder Workspace R]

/-! ## Operations that only read -/

theorem readText_leads (path : FilePath) : Leads R (readText path) :=
  .bind .get fun _ => .bind (.lift _ _) fun _ => .bind (.lift _ _) fun _ => .pure _

theorem theConfig_leads : Leads R theConfig :=
  .bind .get fun _ => .bind (.require _) fun _ => .bind (.require _) fun _ => .pure _

theorem rulesDirectory_leads : Leads R rulesDirectory :=
  .bind theConfig_leads fun _ => .bind .get fun _ => .lift _ _

theorem theService_leads : Leads R theService := .bind .get fun _ => .require _

theorem readFile_leads (path : FilePath) : Leads R (readFile path) := by
  refine .bind .get fun w => ?_
  split
  · exact .throw _
  · exact .pure _

/-! ## Operations that log -/

omit [IsPreorder Workspace R] in
theorem addLog_leads (log : IgnoresLog R) (lines : List LogLine) : Leads R (addLog lines) :=
  .modify fun w => log w _

theorem loadSettings_leads (log : IgnoresLog R) (path : FilePath) : Leads R (loadSettings path) :=
  .bind .get fun _ => .bind (.lift _ _) fun _ => .bind (addLog_leads log _) fun _ => .pure _

theorem loadConfig_leads (log : IgnoresLog R) : Leads R loadConfig :=
  .bind theConfig_leads fun _ => loadSettings_leads log _

theorem workersOf_leads (log : IgnoresLog R) (settings : Settings) :
    Leads R (workersOf settings) :=
  .bind .get fun _ => .bind (.lift _ _) fun _ => .bind (addLog_leads log _) fun _ => .pure _

theorem workers_leads (log : IgnoresLog R) : Leads R workers :=
  .bind theConfig_leads fun _ => workersOf_leads log _

/-! ## Operations that change the environment, configurations and files -/

theorem setEnvironment_leads (changes : ∀ (w : Workspace) environment, R w { w with environment })
    (name : Text) (value : Option Text) : Leads R (setEnvironment name value) := by
  rw [setEnvironment]
  cases value.bind Text.systemFault? with
  | some fault => exact .bind (.throw _) fun _ => .modify fun w => changes w _
  | none => exact .modify fun w => changes w _

theorem openConfig_leads (log : IgnoresLog R)
    (changes : ∀ (w : Workspace) configs config, R w { w with configs, config }) (path : FilePath) :
    Leads R (openConfig path) :=
  .bind (loadSettings_leads log path) fun _ => .modify fun w => changes w _ _

theorem changeFiles_leads {change : FileTree → Except FileError FileTree}
    (changes : ∀ (w : Workspace) files, change w.files = .ok files → R w { w with files }) :
    Leads R (changeFiles change) := by
  refine .get_bind fun w => ?_
  cases changed : change w.files with
  | error e => exact refl_of R w
  | ok after => exact changes w after changed

theorem saveConfig_leads (log : IgnoresLog R)
    (saves : ∀ (w : Workspace) path settings,
      R w { w with files := (Settings.save w.files path settings).1 }) : Leads R saveConfig := by
  refine .bind theConfig_leads fun found => .get_bind fun w => ?_
  exact trans_of R (saves w found.2.path found.2.settings) (log _ _)

theorem setRulesDirectory_leads (log : IgnoresLog R)
    (saves : ∀ (w : Workspace) path settings,
      R w { w with files := (Settings.save w.files path settings).1 })
    (changes : ∀ (w : Workspace) configs, R w { w with configs }) (value : Json) :
    Leads R (setRulesDirectory value) :=
  .bind theConfig_leads fun _ => .bind (.lift _ _) fun _ => .bind (.modify fun w => changes w _)
    fun _ => saveConfig_leads log saves

theorem openService_leads (log : IgnoresLog R)
    (changes : ∀ (w : Workspace) service, R w { w with service }) (rules : Option (List Rule))
    (useStore : Bool) (count : Option Int) : Leads R (openService rules useStore count) := by
  cases count with
  | some n => exact .bind (.pure _) fun _ => .modify fun w => changes w _
  | none => exact .bind (workersOf_leads log _) fun _ => .modify fun w => changes w _

/-! ## Operations that need rules -/

theorem rulesOr_leads (snapshot : Leads R snapshot) (rules : Option (List Rule)) :
    Leads R (rulesOr rules) := by
  cases rules with
  | some rules => exact .pure _
  | none => exact snapshot

theorem compileRules_leads (snapshot : Leads R snapshot) (rules : Option (List Rule)) :
    Leads R (compileRules rules) :=
  .bind theService_leads fun _ => .bind (rulesOr_leads snapshot _) fun _ => .lift _ _

theorem compile_leads (snapshot : Leads R snapshot)
    (keeps : ∀ (w : Workspace) compiled, R w { w with compiled }) (rules : Option (List Rule)) :
    Leads R (compile rules) :=
  .bind (compileRules_leads snapshot _) fun _ => .bind (.modify fun w => keeps w _) fun _ => .pure _

theorem ruleSet_leads (snapshot : Leads R snapshot) (rules : Option (List Rule))
    (useCompiled : Bool) : Leads R (ruleSet rules useCompiled) := by
  refine .bind theService_leads fun _ => .bind .get fun w => ?_
  split
  · exact .pure _
  · exact compileRules_leads snapshot none
  · exact compileRules_leads snapshot rules

theorem analyze_leads (snapshot : Leads R snapshot) (d : Document) (rules : Option (List Rule))
    (useCompiled : Bool) : Leads R (analyze d rules useCompiled) :=
  .bind (ruleSet_leads snapshot _ _) fun _ => .lift _ _

theorem analyzeFile_leads (snapshot : Leads R snapshot) (path : FilePath) (name : Text)
    (rules : Option (List Rule)) (useCompiled : Bool) :
    Leads R (analyzeFile path name rules useCompiled) := by
  refine .bind theService_leads fun _ => .bind (readFile_leads path) fun content => ?_
  split
  · exact .pure _
  · exact analyze_leads snapshot _ _ _

theorem analyzeDocuments_leads (snapshot : Leads R snapshot) (documents : List Document)
    (rules : Option (List Rule)) : Leads R (analyzeDocuments documents rules) := by
  refine .bind theService_leads fun service => ?_
  split
  · exact .bind (rulesOr_leads snapshot _) fun _ => .lift _ _
  · exact .pure _

theorem analyzePaths_leads (snapshot : Leads R snapshot) (paths : List FilePath)
    (rules : Option (List Rule)) : Leads R (analyzePaths paths rules) := by
  refine .bind theService_leads fun service => .bind (.mapM ?_ _) fun files => ?_
  · exact fun p => .bind (readFile_leads p) fun _ => .pure _
  split
  · exact .bind (rulesOr_leads snapshot _) fun _ => .lift _ _
  · exact .bind (.pure _) fun _ => .lift _ _

end Workspace

end NotebookAudit

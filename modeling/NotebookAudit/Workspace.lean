import NotebookAudit.Analysis
import NotebookAudit.Config

/-!
Workspaces: files and an environment, and what is opened there.

A configuration, a rule store and a service may be opened, and each may be opened again. A service
keeps to the store that it is given, also when another store is opened later, so stores are kept in
a row and known by their numbers; so are configurations. A store that a service opens for itself is
in the row too, but only the service knows its number. An operation that fails keeps what it has
done before it fails: its log lines, and the rules that a store has loaded so far.
-/

namespace NotebookAudit

/-- A service: the rules that it is bound to, or else the store that it takes them from, which it
opens when they are first needed; and its number of workers. -/
structure Service where
  rules : Option (List Rule)
  store : Option Nat
  workers : Option Int
  deriving Repr, DecidableEq

/-- A workspace. -/
structure Workspace where
  files : FileTree
  environment : Environment
  /-- All configurations that were opened. -/
  configs : List Config
  /-- The number of the configuration opened last. -/
  config : Option Nat
  /-- All stores that were opened, also those that services opened for themselves. -/
  stores : List RuleStore
  /-- The numbers of the stores that no service opened for itself, in the order of opening. -/
  opened : List Nat
  service : Option Service
  /-- The rules that were compiled last. -/
  compiled : Option RuleSet
  log : List LogLine

/-- Why an operation on a workspace fails. -/
inductive WorkspaceError where
  /-- What the operation works on is not there. -/
  | notOpen
  | file (e : FileError)
  /-- The system does not take a value of the environment. -/
  | environment (fault : SystemTextFault)
  /-- A text file that is not UTF-8. -/
  | encoding (fault : Utf8.Fault)
  | config (e : ConfigError)
  | store (fault : StoreFault)
  | pattern (e : Pattern.Error)
  | analysis (e : AnalysisError)
  | batch (e : BatchError)
  deriving Repr, DecidableEq

/-- An operation on a workspace. -/
abbrev WorkspaceM := ExceptT WorkspaceError (StateM Workspace)

namespace Workspace

/-- The workspace without files in which nothing is open. -/
def empty : Workspace where
  files := .empty
  environment := .empty
  configs := []
  config := none
  stores := []
  opened := []
  service := none
  compiled := none
  log := []

/-- The number of the store opened last, those of services apart. -/
def store (w : Workspace) : Option Nat := w.opened.getLast?

/-- The store of a number, if no service opened it for itself. -/
def openedStore? (w : Workspace) (index : Nat) : Option RuleStore :=
  if index ∈ w.opened then w.stores[index]? else none

/-- Adds lines to the log. -/
def addLog (lines : List LogLine) : WorkspaceM Unit :=
  modify fun w => { w with log := w.log ++ lines }

/-- The result of a part of an operation, or its failure under another name. -/
def lift {ε α : Type} (wrap : ε → WorkspaceError) : Except ε α → WorkspaceM α
  | .ok a => return a
  | .error e => throw (wrap e)

/-- What is there, or the failure that it is not. -/
def require {α : Type} : Option α → WorkspaceM α
  | some a => return a
  | none => throw .notOpen

/-! ## Files and environment -/

/-- Changes the files. -/
def changeFiles (change : FileTree → Except FileError FileTree) : WorkspaceM Unit := do
  let files ← lift .file (change (← get).files)
  modify fun w => { w with files }

/-- Writes a file, with the directories around it. -/
def writeFile (path : FilePath) (content : Bytes) : WorkspaceM Unit :=
  changeFiles fun files => files.addFile path content

/-- Makes a directory, with the directories around it. -/
def makeDirectory (path : FilePath) : WorkspaceM Unit :=
  changeFiles fun files => files.addDirectory path

/-- Deletes a file, or a directory with what is in it. -/
def delete (path : FilePath) : WorkspaceM Unit := changeFiles fun files => files.delete path

/-- The text of a file. -/
def readText (path : FilePath) : WorkspaceM Text := do
  let bytes ← lift .file ((← get).files.read path)
  return (← lift .encoding (Utf8.decode bytes)).unifyNewlines

/-- Sets a value of the environment or takes it away. -/
def setEnvironment (name : Text) (value : Option Text) : WorkspaceM Unit := do
  if let some fault := value.bind Text.systemFault? then throw (.environment fault)
  modify fun w => { w with environment := w.environment.set name value }

/-! ## Configurations -/

/-- The configuration opened last, and its number. -/
def theConfig : WorkspaceM (Nat × Config) := do
  let w ← get
  let index ← require w.config
  return (index, ← require w.configs[index]?)

/-- Loads the settings of a file. -/
def loadSettings (path : FilePath) : WorkspaceM Settings := do
  let (settings, remarks) ← lift .file (Settings.load (← get).files path)
  addLog (remarks.map ConfigRemark.line)
  return settings

/-- Opens a configuration. -/
def openConfig (path : FilePath) : WorkspaceM Unit := do
  let settings ← loadSettings path
  modify fun w =>
    { w with configs := w.configs ++ [⟨path, settings⟩], config := some w.configs.length }

/-- Loads the settings of the configuration's file once more, and leaves the configuration as it
is. -/
def loadConfig : WorkspaceM Settings := do loadSettings (← theConfig).2.path

/-- Saves the configuration. -/
def saveConfig : WorkspaceM Unit := do
  let (_, config) ← theConfig
  let (files, remark) := Settings.save (← get).files config.path config.settings
  modify fun w => { w with files }
  addLog [remark.line]

/-- Sets the directory of the rules in the configuration and saves it. -/
def setRulesDirectory (v : Json) : WorkspaceM Unit := do
  let (index, config) ← theConfig
  let settings ← lift .config (config.settings.setRulesDirectory v)
  modify fun w => { w with configs := w.configs.set index { config with settings } }
  saveConfig

/-- The directory of the rules that the configuration says. -/
def rulesDirectory : WorkspaceM Json := do
  lift .config ((← theConfig).2.settings.rulesDirectory (← get).environment)

/-- The number of workers that settings say. A number that is none is remarked. -/
def workersOf (settings : Settings) : WorkspaceM (Option Int) := do
  let workers ← lift .config (settings.workers (← get).environment)
  addLog (workers.remarks.map ConfigRemark.line)
  return workers.count?

/-- The number of workers that the configuration says. -/
def workers : WorkspaceM (Option Int) := do workersOf (← theConfig).2.settings

/-! ## Rule stores -/

/-- Logs a loading. -/
def logLoading (l : Loading) : WorkspaceM Unit := addLog (l.remarks.map StoreRemark.line)

/-- Fails if a loading does. -/
def checkLoading (l : Loading) : WorkspaceM Unit :=
  match l.fault with
  | some fault => throw (.store fault)
  | none => return

/-- Opens a store: its number. -/
def addStore (place : RulesPlace) : WorkspaceM Nat := do
  let loading := RuleStore.openAt (← get).files place
  logLoading loading
  checkLoading loading
  let index := (← get).stores.length
  modify fun w => { w with stores := w.stores ++ [⟨place, loading.rules⟩] }
  return index

/-- The store opened last, and its number. -/
def theStore : WorkspaceM (Nat × RuleStore) := do
  let w ← get
  let index ← require w.store
  return (index, ← require (w.openedStore? index))

/-- Opens a store in a directory, or where the environment says. -/
def openStore (directory : Option FilePath) : WorkspaceM Unit := do
  let place := (directory.map RulesPlace.directory).getD (← get).environment.rulesPlace
  let index ← addStore place
  modify fun w => { w with opened := w.opened ++ [index] }

/-- Loads the rules of a store once more. -/
def reloadStore (index : Nat) : WorkspaceM Unit := do
  let store ← require ((← get).openedStore? index)
  let loading := store.reload (← get).files
  logLoading loading
  modify fun w => { w with stores := w.stores.set index { store with rules := loading.rules } }
  checkLoading loading

/-! ## Services -/

/-- Opens a service. Without a number of workers it takes that of the environment. -/
def openService (rules : Option (List Rule)) (useStore : Bool) (workers : Option Int) :
    WorkspaceM Unit := do
  let workers ← match workers with
    | some n => pure (some n)
    | none => workersOf .default
  modify fun w =>
    { w with service := some ⟨rules, if useStore then w.store else none, workers⟩ }

/-- The service. -/
def theService : WorkspaceM Service := do require (← get).service

/-- The store of the service, which is opened if there is none yet. -/
def serviceStore (service : Service) : WorkspaceM Nat := do
  match service.store with
  | some index => return index
  | none =>
    let index ← addStore (← get).environment.rulesPlace
    modify fun w => { w with service := some { service with store := some index } }
    return index

/-- The rules of the service: those it is bound to, or those that its store has now. -/
def snapshot : WorkspaceM (List Rule) := do
  let service ← theService
  match service.rules with
  | some rules => return rules
  | none =>
    let index ← serviceStore service
    return (← require (← get).stores[index]?).rules

/-- The rules that are asked for, or those of the service. -/
def rulesOr (rules : Option (List Rule)) : WorkspaceM (List Rule) :=
  match rules with
  | some rules => return rules
  | none => snapshot

/-- Compiles rules with the service. -/
def compileRules (rules : Option (List Rule)) : WorkspaceM RuleSet := do
  let _ ← theService
  lift .pattern (RuleSet.compile (← rulesOr rules))

/-- Compiles rules and keeps them. -/
def compile (rules : Option (List Rule)) : WorkspaceM RuleSet := do
  let set ← compileRules rules
  modify fun w => { w with compiled := some set }
  return set

/-- The rules that are compiled already, or those of the service compiled now. -/
def ruleSet (rules : Option (List Rule)) (useCompiled : Bool) : WorkspaceM RuleSet := do
  let _ ← theService
  match useCompiled, (← get).compiled with
  | true, some set => return set
  | true, none => compileRules none
  | false, _ => compileRules rules

/-- The findings of a document. -/
def analyze (d : Document) (rules : Option (List Rule)) (useCompiled : Bool) :
    WorkspaceM (List Finding) := do
  let set ← ruleSet rules useCompiled
  lift .analysis (d.analyze set)

/-- The bytes of a file, or what the system says instead. A path that the system does not take is a
failure. -/
def readFile (path : FilePath) : WorkspaceM (Except FileError Bytes) := do
  match (← get).files.read path with
  | .error (.refused fault) => throw (.file (.refused fault))
  | r => return r

/-- The findings of a file, under a name of its own or a given one. -/
def analyzeFile (path : FilePath) (name : Text) (rules : Option (List Rule)) (useCompiled : Bool) :
    WorkspaceM (List Finding) := do
  let _ ← theService
  let name := if name = [] then path.name else name
  match ← readFile path with
  | .error e => return [readErrorFinding name e.message]
  | .ok bytes => analyze ⟨some name, .bytes bytes⟩ rules useCompiled

/-- The report of documents. Rules are needed only if a document is supported. -/
def analyzeDocuments (documents : List Document) (rules : Option (List Rule)) :
    WorkspaceM Report := do
  let service ← theService
  if documents.any Document.isSupported then
    lift .batch (analyzeBatch documents (← rulesOr rules) service.workers)
  else return .empty

/-- The report of the files of paths. A file whose name is not supported is left out. -/
def analyzePaths (paths : List FilePath) (rules : Option (List Rule)) : WorkspaceM Report := do
  let service ← theService
  let files ← (paths.filter fun p => FileName.isSupported p.name).mapM fun p => do
    return NamedFile.mk p.name (← readFile p)
  let rules ← if files.any NamedFile.isReadable then rulesOr rules else pure []
  lift .batch (analyzeFiles files rules service.workers)

end Workspace

end NotebookAudit

import NotebookAudit.Environment
import NotebookAudit.Json.Printer
import NotebookAudit.Json.Reader

/-!
The configuration: settings that are kept in a JSON file.

The environment goes before the file, and the file before the defaults. A file that cannot be read
counts as the default configuration, and a number of workers that is none counts as not set; both
are remarked.
-/

namespace NotebookAudit

/-- Why a configuration file is not read. -/
inductive ConfigFault where
  | file (e : FileError)
  | encoding (fault : Utf8.Fault)
  | json (text : Text) (fault : Json.Fault)
  deriving Repr, DecidableEq

/-- Why a configuration file is not read, in words. -/
def ConfigFault.message : ConfigFault → Text
  | file e => e.message
  | encoding fault => fault.message
  | json text fault => fault.message text

/-- What is to be remarked about a configuration. -/
inductive ConfigRemark where
  | notLoaded (fault : ConfigFault)
  | saved (path : FilePath)
  | notSaved (e : FileError)
  | invalidWorkers
  | nonPositiveWorkers (value : Int)
  deriving Repr, DecidableEq

/-- A remark in the log. Of a value that is no number of workers the line ends in front of the colon
after which the program shows the value. -/
def ConfigRemark.line : ConfigRemark → LogLine
  | notLoaded fault => .error ("Failed to load config: " ++ fault.message)
  | saved path => .info ("Configuration saved to " ++ path.text)
  | notSaved e => .error ("Failed to save config: " ++ e.message)
  | invalidWorkers => .warning "Ignoring invalid max_workers value"
  | nonPositiveWorkers value =>
    .warning ("Ignoring non-positive max_workers value: " ++ Text.ofInt value)

/-- Why a setting cannot be looked up or changed. -/
inductive ConfigError where
  /-- A value that should hold settings is no object and is looked into. -/
  | notObject
  /-- A value that should hold settings is no object and is to be changed. -/
  | notAssignable
  /-- The number of workers is infinite. -/
  | infiniteWorkers
  deriving Repr, DecidableEq

/-- Why a setting cannot be looked up or changed, in words, where there are any. -/
def ConfigError.message : ConfigError → Text
  | notObject | notAssignable => []
  | infiniteWorkers => "cannot convert float infinity to integer"

/-- The settings of a configuration: any JSON value, as the file may hold any. -/
abbrev Settings := Json

namespace Settings

/-- The settings without a file. -/
def default : Settings := .object [("paths", .object []), ("analysis", .object [])]

/-- The members of a group of settings. A group that is missing has none. -/
def group (name : Text) : Settings → Except ConfigError (List (Text × Json))
  | .object members =>
    match Json.member? name members with
    | none => .ok []
    | some (.object inner) => .ok inner
    | some _ => .error .notObject
  | _ => .error .notObject

/-! ## The directory of the rules -/

/-- The directory of the rules: that of the environment, that of the settings, or the default. -/
def rulesDirectory (s : Settings) (env : Environment) : Except ConfigError Json :=
  match Environment.given env.rulesDirectory with
  | some directory => .ok (.text directory)
  | none => do
    match Json.member? "rules_dir" (← group "paths" s) with
    | some v => return if v.isTruthy then v else .text RulesPlace.default.text
    | none => return .text RulesPlace.default.text

/-- The settings with another directory of the rules. -/
def setRulesDirectory (s : Settings) (v : Json) : Except ConfigError Settings :=
  match s with
  | .object members =>
    match (Json.member? "paths" members).getD (.object []) with
    | .object paths =>
      .ok (.object (Json.setMember "paths" (.object (Json.setMember "rules_dir" v paths)) members))
    | _ => .error .notAssignable
  | _ => .error .notAssignable

/-! ## The number of workers -/

/-- What a value says about the number of workers. -/
inductive Workers where
  | unset
  | count (n : Int)
  | invalid
  | nonPositive (value : Int)
  deriving Repr, DecidableEq

namespace Workers

/-- The number of workers of an integer. -/
def ofInt (i : Int) : Workers := if i < 1 then nonPositive i else count i

/-- The number of workers of a text. -/
def ofText (t : Text) : Workers :=
  match Numeral.readInt 10 t with
  | .ok i => ofInt i
  | .error _ => invalid

/-- The number of workers of a setting. The fraction of a double is cut off. -/
def ofJson : Json → Except ConfigError Workers
  | .null | .text [] => .ok unset
  | .bool b => .ok (ofInt (if b then 1 else 0))
  | .int i => .ok (ofInt i)
  | .float (.infinity _) => .error .infiniteWorkers
  | .float d =>
    match d.truncate? with
    | some i => .ok (ofInt i)
    | none => .ok invalid
  | .text t => .ok (ofText t)
  | .array _ | .object _ => .ok invalid

/-- The number, if there is one. -/
def count? : Workers → Option Int
  | count n => some n
  | _ => none

/-- The remarks about a number that is none. -/
def remarks : Workers → List ConfigRemark
  | invalid => [.invalidWorkers]
  | nonPositive value => [.nonPositiveWorkers value]
  | _ => []

end Workers

/-- The number of workers: that of the environment or that of the settings. -/
def workers (s : Settings) (env : Environment) : Except ConfigError Workers :=
  match Environment.given env.workers with
  | some t => .ok (.ofText t)
  | none => do Workers.ofJson ((Json.member? "max_workers" (← group "analysis" s)).getD .null)

/-! ## Files -/

/-- The settings that the bytes of a file hold. -/
def ofBytes (bytes : Bytes) : Except ConfigFault Settings := do
  let t := (← (Utf8.decode bytes).mapError .encoding).unifyNewlines
  (Json.read t).mapError (.json t)

/-- The settings that a file holds. -/
def ofFile (tree : FileTree) (path : FilePath) : Except ConfigFault Settings := do
  ofBytes (← (tree.read path).mapError .file)

/-- Loads the settings of a file; without a file they are the default. -/
def load (tree : FileTree) (path : FilePath) :
    Except FileError (Settings × List ConfigRemark) := do
  match ← tree.find? path with
  | none => return (default, [])
  | some _ =>
    match ofFile tree path with
    | .ok s => return (s, [])
    | .error fault => return (default, [.notLoaded fault])

/-- The bytes of a file of settings. -/
def toBytes (s : Settings) : Bytes := Utf8.encode (Json.write .file s)

/-- Saves settings to a file: the files afterwards, and what is to be remarked. -/
def save (tree : FileTree) (path : FilePath) (s : Settings) : FileTree × ConfigRemark :=
  match tree.write path s.toBytes with
  | .ok after => (after, .saved path)
  | .error e => (tree, .notSaved e)

end Settings

/-- A configuration: its file and its settings. -/
structure Config where
  path : FilePath
  settings : Settings
  deriving Repr

end NotebookAudit

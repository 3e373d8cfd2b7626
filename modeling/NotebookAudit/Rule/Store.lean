import NotebookAudit.FileTree.Basic
import NotebookAudit.Log
import NotebookAudit.Rule.Default
import NotebookAudit.Rule.File

/-!
The rule store: the rules of a directory.

The files of the directory are read in the order of their names, those that end in `.yaml` before
those that end in `.yml`. Of the rules with one identifier the first is kept. A file that is no YAML
or cannot be opened is remarked and left out; any other fault of a file ends the loading, and the
rules of the files before it stay.
-/

namespace NotebookAudit

/-- Where rules are kept: with the library, or in a directory. -/
inductive RulesPlace where
  | default
  | directory (path : FilePath)
  deriving Repr, DecidableEq

namespace RulesPlace

/-- A place in messages. -/
def text : RulesPlace → Text
  | default => "<default>"
  | directory path => path.text

/-- What is at a place, or nothing. -/
def find? (tree : FileTree) : RulesPlace → Except FileError (Option FileNode)
  | default => .ok (some .directory)
  | directory path => tree.find? path

/-- The names of the rule files among some names: those that end in `.yaml`, and then those that end
in `.yml`. -/
def ruleFileNames (names : List Text) : List Text :=
  (names.filter fun name => name.endsWith (Text.ofString ".yaml"))
    ++ names.filter fun name => name.endsWith (Text.ofString ".yml")

/-- The rule files of a place, with their bytes. -/
def files (tree : FileTree) : RulesPlace → List (Text × Except FileError Bytes)
  | default => [("default.yaml", .ok (Utf8.encode defaultRuleFile))]
  | directory path =>
    (ruleFileNames (tree.names path)).map fun name => (name, tree.read (path.child name))

end RulesPlace

/-! ## Remarks -/

/-- What is to be remarked about a file of a store. -/
inductive StoreFileRemark where
  | content (remark : RuleFileRemark)
  /-- The file is no YAML. -/
  | malformed
  | unreadable (e : FileError)
  /-- A rule has the identifier of an earlier one. -/
  | duplicate (id : Text)
  | loaded (count : Nat)
  deriving Repr, DecidableEq

/-- What is to be remarked about the loading of a store. -/
inductive StoreRemark where
  | reloading
  | missing (directory : Text)
  | noRulesApplied
  | noFiles (directory : Text)
  | loading (directory : Text)
  | file (name : Text) (remark : StoreFileRemark)
  | total (count enabled : Nat)
  deriving Repr, DecidableEq

/-- The wrong fields of an entry with the kinds of their problems. -/
def fieldErrorList : List FieldError → Text
  | [] => []
  | [e] => e.field ++ " " ++ e.problem.kind
  | e :: rest => e.field ++ " " ++ e.problem.kind ++ "; " ++ fieldErrorList rest

/-- A remark about the content of a file in the log. The lines of entries that are invalid name the
fields and the kinds of their problems; the rest of what the validation says is left out. -/
def RuleFileRemark.line (name : Text) : RuleFileRemark → LogLine
  | noRules => .warning ("No 'rules' key found in " ++ name)
  | notList => .warning ("'rules' in " ++ name ++ " must be a list")
  | unknownVersion version =>
    .warning ("Unknown rule schema version " ++ version ++ " in " ++ name ++ ", reading it as 1.0")
  | notMapping position =>
    .warning ("Rule #" ++ Text.ofNat position ++ " in " ++ name ++ " is not a mapping, skipped")
  | namedOddly position =>
    .warning ("Rule #" ++ Text.ofNat position ++ " in " ++ name ++ " is invalid, skipped")
  | invalid position errors =>
    .warning ("Rule #" ++ Text.ofNat position ++ " in " ++ name ++ " is invalid, skipped: "
      ++ fieldErrorList errors)

/-- A remark about a file in the log. The line of a malformed file ends in front of the colon after
which the program gives the error of its YAML. -/
def StoreFileRemark.line (name : Text) : StoreFileRemark → LogLine
  | content remark => remark.line name
  | malformed => .error ("Failed to parse " ++ name)
  | unreadable e => .error ("Error loading " ++ name ++ ": " ++ e.message)
  | duplicate id =>
    .warning ("Duplicate rule id '" ++ id ++ "' in " ++ name ++ ", keeping the first one")
  | loaded count => .info ("Loaded " ++ Text.ofNat count ++ " rule(s) from " ++ name)

/-- A remark in the log. What `StoreFileRemark.line` leaves out is left out here. -/
def StoreRemark.line : StoreRemark → LogLine
  | reloading => .info "Reloading YAML rules..."
  | missing directory => .warning ("Rules directory does not exist: " ++ directory)
  | noRulesApplied =>
    .warning "No pattern rules will be applied. Create the directory and add .yaml files."
  | noFiles directory => .warning ("No .yaml files found in " ++ directory)
  | loading directory => .info ("Loading YAML rules from " ++ directory)
  | file name remark => remark.line name
  | total count enabled =>
    .info ("Total YAML rules loaded: " ++ Text.ofNat count ++ " (" ++ Text.ofNat enabled
      ++ " enabled)")

/-! ## Loading -/

/-- Why the loading of a store ends before all files are read. -/
inductive StoreFault where
  /-- The place of the rules is no directory. -/
  | notDirectory (place : Text)
  /-- The place of the rules cannot be looked at. -/
  | place (e : FileError)
  | file (fault : RuleFileFault)
  deriving Repr, DecidableEq

/-- Why the loading of a store ends, in words. -/
def StoreFault.message : StoreFault → Text
  | notDirectory p => "Rules path is not a directory: " ++ p
  | place e => e.message
  | file fault => fault.message

/-- A loading: the rules that are loaded, the remarks, and the fault that ends it, if there is
one. -/
structure Loading where
  rules : List Rule
  remarks : List StoreRemark
  fault : Option StoreFault
  deriving Repr, DecidableEq

namespace Loading

/-- The loading with remarks in front. -/
def after (remarks : List StoreRemark) (l : Loading) : Loading :=
  { l with remarks := remarks ++ l.remarks }

end Loading

/-- Adds the rules of a file to those loaded, and remarks those whose identifier is taken. -/
def keepFirst (loaded : List Rule) : List Rule → List Rule × List StoreFileRemark
  | [] => (loaded, [])
  | r :: rest =>
    if loaded.any (·.id == r.id) then
      let (all, remarks) := keepFirst loaded rest
      (all, .duplicate r.id :: remarks)
    else keepFirst (loaded ++ [r]) rest

/-- Loads files after those whose rules are loaded. -/
def loadFiles (loaded : List Rule) : List (Text × Except FileError Bytes) → Loading
  | [] => ⟨loaded, [.total loaded.length (loaded.filter (·.enabled)).length], none⟩
  | (name, content) :: rest =>
    match content with
    | .error e => (loadFiles loaded rest).after [.file name (.unreadable e)]
    | .ok bytes =>
      match RuleFile.ofBytes bytes with
      | .error (.yaml .malformed) => (loadFiles loaded rest).after [.file name .malformed]
      | .error fault => ⟨loaded, [], some (.file fault)⟩
      | .ok file =>
        let (all, duplicates) := keepFirst loaded file.rules
        let remarks := file.remarks.map StoreFileRemark.content ++ duplicates
          ++ [StoreFileRemark.loaded file.rules.length]
        (loadFiles all rest).after (remarks.map (StoreRemark.file name))

/-- Loads the rules of a place. -/
def RulesPlace.load (tree : FileTree) (place : RulesPlace) : Loading :=
  match place.find? tree with
  | .error e => ⟨[], [], some (.place e)⟩
  | .ok none => ⟨[], [.missing place.text, .noRulesApplied], none⟩
  | .ok (some _) =>
    match place.files tree with
    | [] => ⟨[], [.noFiles place.text], none⟩
    | files => (loadFiles [] files).after [.loading place.text]

/-- A rule store: where its rules are kept, and those loaded. -/
structure RuleStore where
  place : RulesPlace
  rules : List Rule
  deriving Repr, DecidableEq

namespace RuleStore

/-- The rules that are looked for. -/
def enabledRules (s : RuleStore) : List Rule := s.rules.filter (·.enabled)

/-- The rules that are not looked for. -/
def disabledRules (s : RuleStore) : List Rule := s.rules.filter fun r => !r.enabled

/-- Loads the rules of a place for the first time. A file in the place of the directory is a
fault. -/
def openAt (tree : FileTree) (place : RulesPlace) : Loading :=
  match place.find? tree with
  | .ok (some (.file _)) => ⟨[], [], some (.notDirectory place.text)⟩
  | _ => place.load tree

/-- Loads the rules once more. What a fault leaves behind is what was loaded before it. -/
def reload (tree : FileTree) (s : RuleStore) : Loading := (s.place.load tree).after [.reloading]

end RuleStore

end NotebookAudit

import NotebookAudit.Rule.Entry
import NotebookAudit.Yaml.Display

/-!
Rule files: YAML documents that list rules.

The document is a mapping with a member `rules`, a list of rule entries. An entry that is no rule is
left out and remarked, and the others are kept. A document of another shape holds no rules, which is
remarked as well.
-/

namespace NotebookAudit

/-- What is to be remarked about a rule file. Entries are counted from one. -/
inductive RuleFileRemark where
  | noRules
  | notList
  /-- The version of the file, as it is shown, is not the one that is known. -/
  | unknownVersion (version : Text)
  | notMapping (position : Nat)
  /-- A name in the entry is no text. -/
  | namedOddly (position : Nat)
  | invalid (position : Nat) (errors : List FieldError)
  deriving Repr, DecidableEq

/-- Why a rule file gives no rules. -/
inductive RuleFileFault where
  | encoding (fault : Utf8.Fault)
  | yaml (e : Yaml.Error)
  /-- The version is an integer that cannot be shown. -/
  | version (fault : NumeralFault)
  deriving Repr, DecidableEq

/-- Why a rule file gives no rules, in words, where there are any. -/
def RuleFileFault.message : RuleFileFault → Text
  | encoding fault => fault.message
  | yaml (.value fault) => fault.message
  | yaml _ => []
  | version fault => fault.message

/-- The rules of a file, and the remarks about it. -/
structure RuleFile where
  rules : List Rule
  remarks : List RuleFileRemark
  deriving Repr, DecidableEq

/-- The version of rule files that is known. -/
def ruleFileVersion : Text := "1.0"

/-- A version that is not the known one is remarked. -/
def versionRemarks (version : Text) : List RuleFileRemark :=
  if version = ruleFileVersion then [] else [.unknownVersion version]

namespace Yaml

/-- A value as the value of a field. -/
def Value.toField : Value → FieldValue
  | .null => .null
  | .bool b => .bool b
  | .int i => .int i
  | .float d => .float d
  | .text t => .text t
  | .bytes bs => .bytes bs
  | _ => .other

/-- Whether a value counts as given: neither null nor false, zero or empty. -/
def Value.isTruthy : Value → Bool
  | .null => false
  | .bool b => b
  | .int i => i != 0
  | .float d => !d.isZero
  | .text t => !t.isEmpty
  | .bytes bs => !bs.isEmpty
  | .date _ | .dateTime _ _ => true
  | .list items | .set items => !items.isEmpty
  | .pairs items | .dict items => !items.isEmpty

namespace Document

/-- The fields of a mapping, if all of their names are texts. -/
def fields? (d : Document) (members : List (Nat × Nat)) : Option (List (Text × FieldValue)) :=
  members.mapM fun m =>
    match d.value m.1 with
    | .text name => some (name, (d.value m.2).toField)
    | _ => none

/-- The rule of an entry of a list, or what is to be remarked about it. -/
def ruleOfEntry (d : Document) (position index : Nat) : Except RuleFileRemark Rule :=
  match d.value index with
  | .dict members =>
    match d.fields? members with
    | some fields => (Rule.ofEntry fields).mapError (.invalid position)
    | none => .error (.namedOddly position)
  | _ => .error (.notMapping position)

/-- The rules among the entries of a list, and the remarks about the others. -/
def rulesOfEntries (d : Document) (items : List Nat) : RuleFile :=
  let read := items.zipIdx.map fun p => d.ruleOfEntry (p.2 + 1) p.1
  { rules := read.filterMap fun
      | .ok rule => some rule
      | .error _ => none
    remarks := read.filterMap fun
      | .ok _ => none
      | .error remark => some remark }

/-- The rules of the value of the member `rules`. Pairs in order are a list of entries that are no
mappings. -/
def rulesOfValue (d : Document) (index : Nat) : RuleFile :=
  match d.value index with
  | .list items => d.rulesOfEntries items
  | .pairs items => ⟨[], items.zipIdx.map fun p => .notMapping (p.2 + 1)⟩
  | v => if v.isTruthy then ⟨[], [.notList]⟩ else ⟨[], []⟩

/-- The version of a file as it is shown. Without one it is the version that is known. -/
def version (d : Document) (members : List (Nat × Nat)) : Except NumeralFault Text :=
  match d.member? "version" members with
  | some index => d.display index
  | none => .ok ruleFileVersion

end Document

end Yaml

namespace RuleFile

/-- The rules of a document. -/
def ofDocument (d : Yaml.Document) : Except NumeralFault RuleFile :=
  match d.value d.root with
  | .dict members =>
    match d.member? "rules" members with
    | none => .ok ⟨[], [.noRules]⟩
    | some rules => do
      let remarks := versionRemarks (← d.version members)
      let file := d.rulesOfValue rules
      return { file with remarks := remarks ++ file.remarks }
  | _ => .ok ⟨[], [.noRules]⟩

/-- The rules of a text. -/
def ofText (t : Text) : Except RuleFileFault RuleFile := do
  let d ← (Yaml.Document.ofText t).mapError .yaml
  (ofDocument d).mapError .version

/-- The number of bytes that are read from a file at a time. -/
def blockSize : Nat := 8192

/-- The rules of the bytes of a file, which is decoded to its end before its text is read. -/
def ofBytes (bytes : Bytes) : Except RuleFileFault RuleFile := do
  let t ← (Utf8.decodeBlocks blockSize (bytes.length + 1) [] bytes).mapError .encoding
  ofText t.unifyNewlines

end RuleFile

end NotebookAudit

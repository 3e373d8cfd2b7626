import NotebookAudit.Json.Basic
import NotebookAudit.Number.Numeral
import NotebookAudit.Rule.Basic
import NotebookAudit.Text.Utf8

/-!
Rule entries: rules as they are written down, field by field.

`Rule.ofEntry` turns the fields of an entry into a rule, or names every field that is wrong, in the
order of the fields. Unknown fields do not matter; the severity and the switch have defaults.
-/

namespace NotebookAudit

/-- The value of a field, as far as rules tell values apart. -/
inductive FieldValue where
  | null
  | bool (b : Bool)
  | int (i : Int)
  | float (d : Double)
  | text (t : Text)
  | bytes (bytes : Bytes)
  /-- A value that no field takes. -/
  | other
  deriving Repr, DecidableEq

/-- What is wrong with a field. -/
inductive FieldProblem where
  | missing
  | notText
  /-- Bytes that are no text, or a text that has no encoding. -/
  | notUnicode
  /-- An integer that has too many digits to be written down. -/
  | tooManyDigits
  | unknownSeverity (name : Text)
  | notSeverity
  | notSwitch
  /-- A value of a kind that can be a switch, but that is none. -/
  | unclearSwitch
  deriving Repr, DecidableEq

namespace FieldProblem

/-- The kind of a problem. -/
def kind : FieldProblem → Text
  | missing => "missing"
  | notText => "string_type"
  | notUnicode => "string_unicode"
  | tooManyDigits => "value_error"
  | unknownSeverity _ => "value_error"
  | notSeverity => "enum"
  | notSwitch => "bool_type"
  | unclearSwitch => "bool_parsing"

/-- The message of a problem. -/
def message : FieldProblem → Text
  | missing => "Field required"
  | notText => "Input should be a valid string"
  | notUnicode => "Input should be a valid string, unable to parse raw data as a unicode string"
  | tooManyDigits => "Value error, " ++ NumeralFault.tooLongToWrite.message
  | unknownSeverity name => "Value error, " ++ name.quoted ++ " is not a valid Severity"
  | notSeverity => "Input should be 'Critical', 'Warning' or 'Info'"
  | notSwitch => "Input should be a valid boolean"
  | unclearSwitch => "Input should be a valid boolean, unable to interpret input"

end FieldProblem

/-- A field that is wrong. -/
structure FieldError where
  field : Text
  problem : FieldProblem
  deriving Repr, DecidableEq

namespace FieldValue

/-- The text of a field. Bytes are text if they are UTF-8. -/
def toText : FieldValue → Except FieldProblem Text
  | text t => .ok t
  | bytes bs => (Utf8.decode bs).mapError fun _ => .notUnicode
  | _ => .error .notText

/-- The identifier of a rule: a text, or an integer, which is written down. -/
def toId : FieldValue → Except FieldProblem Text
  | int i => (Numeral.writeInt i).mapError fun _ => .tooManyDigits
  | v => v.toText

/-- The severity of a field: its name in any case, or the exact bytes of the name. -/
def toSeverity : FieldValue → Except FieldProblem Severity
  | text t =>
    match Severity.ofName? t with
    | some s => .ok s
    | none => .error (.unknownSeverity t)
  | bytes bs =>
    match Severity.all.find? fun s => Utf8.encode s.name = bs with
    | some s => .ok s
    | none => .error .notSeverity
  | _ => .error .notSeverity

/-- The words that switch off. -/
def offWords : List Text := ["0", "off", "f", "false", "n", "no"]

/-- The words that switch on. -/
def onWords : List Text := ["1", "on", "t", "true", "y", "yes"]

/-- The switch of a word, in any ASCII case. -/
def switchOfWord (t : Text) : Except FieldProblem Bool :=
  let small := t.map CodePoint.asciiLower
  if offWords.contains small then .ok false
  else if onWords.contains small then .ok true
  else .error .unclearSwitch

/-- The switch of an integer. One that does not fit into 64 bits is no switch at all. -/
def switchOfInt (i : Int) : Except FieldProblem Bool :=
  if i = 0 then .ok false
  else if i = 1 then .ok true
  else if -0x8000000000000000 ≤ i ∧ i < 0x8000000000000000 then .error .unclearSwitch
  else .error .notSwitch

/-- The switch of a field. -/
def toSwitch : FieldValue → Except FieldProblem Bool
  | bool b => .ok b
  | int i => switchOfInt i
  | float d =>
    match d.toInt? with
    | some i => switchOfInt i
    | none => .error .notSwitch
  | text t => if t.all (·.isScalar) then switchOfWord t else .error .notUnicode
  | bytes bs =>
    match Utf8.decode bs with
    | .ok t => switchOfWord t
    | .error _ => .error .unclearSwitch
  | _ => .error .notSwitch

end FieldValue

/-- The value of a JSON value as a field. -/
def Json.toField : Json → FieldValue
  | .null => .null
  | .bool b => .bool b
  | .int i => .int i
  | .float d => .float d
  | .text t => .text t
  | .array _ | .object _ => .other

namespace Rule

/-- The value of a field that must be given, or what is wrong with it. -/
def required {α : Type} (read : FieldValue → Except FieldProblem α) (v : Option FieldValue) :
    Except FieldProblem α :=
  match v with
  | some v => read v
  | none => .error .missing

/-- The value of a field that may be missing, or what is wrong with it. -/
def optional {α : Type} (read : FieldValue → Except FieldProblem α) (default : α)
    (v : Option FieldValue) : Except FieldProblem α :=
  match v with
  | some v => read v
  | none => .ok default

/-- The error of a field, if there is one. -/
def errorOf {α : Type} (field : Text) : Except FieldProblem α → List FieldError
  | .ok _ => []
  | .error problem => [⟨field, problem⟩]

/-- The rule of an entry, or all fields that are wrong. -/
def ofEntry (entry : List (Text × FieldValue)) : Except (List FieldError) Rule :=
  let value (field : Text) : Option FieldValue := entry.lookup field
  let id := required FieldValue.toId (value "id")
  let name := required FieldValue.toText (value "name")
  let message := required FieldValue.toText (value "message")
  let pattern := required FieldValue.toText (value "pattern")
  let severity := optional FieldValue.toSeverity Severity.warning (value "severity")
  let enabled := optional FieldValue.toSwitch true (value "enabled")
  match id, name, message, pattern, severity, enabled with
  | .ok id, .ok name, .ok message, .ok pattern, .ok severity, .ok enabled =>
    .ok ⟨id, name, message, pattern, severity, enabled⟩
  | _, _, _, _, _, _ =>
    .error (errorOf "id" id ++ errorOf "name" name ++ errorOf "message" message
      ++ errorOf "pattern" pattern ++ errorOf "severity" severity ++ errorOf "enabled" enabled)

end Rule

end NotebookAudit

import NotebookAudit.Number.Double
import NotebookAudit.Text.Basic

/-!
JSON values.

Integers and doubles are kept apart, as their spellings are, and an object keeps the order in which
its names first appear.
-/

namespace NotebookAudit

/-- A JSON value. -/
inductive Json where
  | null
  | bool (b : Bool)
  | int (i : Int)
  | float (d : Double)
  | text (t : Text)
  | array (items : List Json)
  | object (members : List (Text × Json))
  deriving Repr, Inhabited

namespace Json

/-- The member of a name. -/
def member? (name : Text) (members : List (Text × Json)) : Option Json :=
  (members.find? fun m => m.1 = name).map (·.2)

/-- Sets the member of a name: in its place if there is one, and at the end otherwise. -/
def setMember (name : Text) (value : Json) : List (Text × Json) → List (Text × Json)
  | [] => [(name, value)]
  | (n, v) :: rest => if n = name then (n, value) :: rest else (n, v) :: setMember name value rest

/-- The members of an object whose names and values are read in turn: a name that comes again gives
its member the new value. -/
def ofMembers (members : List (Text × Json)) : List (Text × Json) :=
  members.foldl (fun all m => setMember m.1 m.2 all) []

/-- The word for the kind of a value in messages. -/
def kindName : Json → Text
  | .null => "NoneType"
  | .bool _ => "bool"
  | .int _ => "int"
  | .float _ => "float"
  | .text _ => "str"
  | .array _ => "list"
  | .object _ => "dict"

/-- Whether a value counts as given: neither null nor false, zero or empty. -/
def isTruthy : Json → Bool
  | .null => false
  | .bool b => b
  | .int i => i != 0
  | .float d => !d.isZero
  | .text t => !t.isEmpty
  | .array items => !items.isEmpty
  | .object members => !members.isEmpty

end Json

end NotebookAudit

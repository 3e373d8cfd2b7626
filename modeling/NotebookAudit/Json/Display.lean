import NotebookAudit.Json.Basic
import NotebookAudit.Number.Shortest
import NotebookAudit.Text.Quoted

/-!
JSON values as messages show them: quoted texts, `None`, `True` and `False` for the three words, and
the items of a container with a comma and a blank between each two.
-/

namespace NotebookAudit.Json

mutual

/-- A value as a message shows it. -/
def shown : Json → Text
  | .null => "None"
  | .bool true => "True"
  | .bool false => "False"
  | .int i => Text.ofInt i
  | .float d => FloatStyle.plain.write d
  | .text t => t.quoted
  | .array [] => "[]"
  | .array (v :: rest) => "[" ++ v.shown ++ shownItems rest ++ "]"
  | .object [] => "\x7b\x7d"
  | .object ((name, v) :: rest) =>
    "\x7b" ++ name.quoted ++ ": " ++ v.shown ++ shownMembers rest ++ "\x7d"

/-- The items of an array after its first. -/
def shownItems : List Json → Text
  | [] => []
  | v :: rest => ", " ++ v.shown ++ shownItems rest

/-- The members of an object after its first. -/
def shownMembers : List (Text × Json) → Text
  | [] => []
  | (name, v) :: rest => ", " ++ name.quoted ++ ": " ++ v.shown ++ shownMembers rest

end

end NotebookAudit.Json

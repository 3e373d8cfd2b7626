import NotebookAudit.Text.Quoted
import NotebookAudit.Text.Utf8

/-!
Texts that are handed to the system: names of files and values of the environment.

The system takes bytes without a zero. A surrogate from U+DC80 to U+DCFF stands for a byte of its
own; any other surrogate has no encoding.
-/

namespace NotebookAudit

/-- Why the system does not take a text. -/
inductive SystemTextFault where
  /-- The surrogates from `first` to `last` are not all stand-ins for bytes. -/
  | unencodable (first last : Nat) (c : CodePoint)
  | zero
  deriving Repr, DecidableEq

/-- Why the system does not take a text, in words. -/
def SystemTextFault.message : SystemTextFault → Text
  | unencodable first last c =>
    let place : Text :=
      if first = last then "character " ++ Text.quoted [c] ++ " in position " ++ Text.ofNat first
      else "characters in position " ++ Text.ofNat first ++ "-" ++ Text.ofNat last
    "'utf-8' codec can't encode " ++ place ++ ": surrogates not allowed"
  | zero => "embedded null byte"

namespace CodePoint

/-- A surrogate that stands for a byte. -/
def isByte (c : CodePoint) : Bool := 0xdc80 ≤ c && c ≤ 0xdcff

/-- The number of bytes of a character in a name. -/
def systemWidth (c : CodePoint) : Nat := if c.isByte then 1 else (Utf8.encodePoint c).length

end CodePoint

namespace Text

/-- The number of bytes of a name. -/
def systemWidth (t : Text) : Nat := t.foldr (fun c n => c.systemWidth + n) 0

/-- The first run of surrogates of a text, from `position` on, that has no encoding. -/
def unencodable? (position : Nat) : Text → Option SystemTextFault
  | [] => none
  | c :: rest =>
    if c.isSurrogate then
      let run := c :: rest.takeWhile (·.isSurrogate)
      if run.all (·.isByte) then unencodable? (position + 1) rest
      else some (.unencodable position (position + run.length - 1) c)
    else unencodable? (position + 1) rest

/-- Why the system does not take a text, if it does not. -/
def systemFault? (t : Text) : Option SystemTextFault :=
  match unencodable? 0 t with
  | some fault => some fault
  | none => if t.any (· == 0) then some .zero else none

end Text

end NotebookAudit

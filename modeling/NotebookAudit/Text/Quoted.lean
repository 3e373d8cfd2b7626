import NotebookAudit.Text.Printable

/-!
Quoted texts: how a text is shown inside a message.

A quoted text stands between apostrophes, or between double quotes if it holds an apostrophe and no
double quote. The delimiter and the backslash are escaped, and so is every character that is not
printable, in the shortest of the forms `\t`, `\xhh`, `\uhhhh` and `\Uhhhhhhhh` that can hold it.
-/

namespace NotebookAudit

/-- The delimiter of a quoted text: the apostrophe, unless only the double quote is free. -/
def quoteFor (t : List Nat) : CodePoint :=
  if t.contains 0x27 && !t.contains 0x22 then 0x22 else 0x27

/-- The escaped form of a control character that has a letter of its own, or of a delimiter. -/
def shortEscape? (quote c : CodePoint) : Option Text :=
  if c = quote ∨ c = 0x5c then some [0x5c, c]
  else if c = 0x09 then some "\\t"
  else if c = 0x0a then some "\\n"
  else if c = 0x0d then some "\\r"
  else none

namespace CodePoint

/-- How a character is written inside a quoted text. -/
def quoted (quote c : CodePoint) : Text :=
  match shortEscape? quote c with
  | some escape => escape
  | none =>
    if c.isPrintable then [c]
    else if c ≤ 0xff then "\\x" ++ Text.ofHex 2 c
    else if c ≤ 0xffff then "\\u" ++ Text.ofHex 4 c
    else "\\U" ++ Text.ofHex 8 c

end CodePoint

/-- The quoted form of a text. -/
def Text.quoted (t : Text) : Text :=
  let quote := quoteFor t
  quote :: t.flatMap (CodePoint.quoted quote) ++ [quote]

end NotebookAudit

import NotebookAudit.Text.Range

/-!
Blanks: the white space of every script, and the trimming of texts.
-/

namespace NotebookAudit

/-- White space: the ASCII blanks, the information separators, and the space and line separators of
Unicode. -/
def blankRanges : List (Nat × Nat) :=
  [(0x09, 0x0d), (0x1c, 0x20), (0x85, 0x85), (0xa0, 0xa0), (0x1680, 0x1680), (0x2000, 0x200a),
   (0x2028, 0x2029), (0x202f, 0x202f), (0x205f, 0x205f), (0x3000, 0x3000)]

/-- A white-space character. -/
def CodePoint.isBlank (c : CodePoint) : Bool := c.inRanges blankRanges

/-- The ASCII white space: tab, line feed, vertical tab, form feed, carriage return and space. -/
def CodePoint.isAsciiBlank (c : CodePoint) : Bool := (0x09 ≤ c && c ≤ 0x0d) || c == 0x20

namespace Text

/-- The text without the blanks in front. -/
def trimStart (t : Text) : Text := t.dropWhile (·.isBlank)

/-- The text without the blanks at its end. -/
def trimEnd (t : Text) : Text := (t.reverse.dropWhile (·.isBlank)).reverse

/-- The text without the blanks around it. -/
def trim (t : Text) : Text := t.trimStart.trimEnd

end Text

end NotebookAudit

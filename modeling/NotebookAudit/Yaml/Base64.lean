import NotebookAudit.Text.Utf8

/-!
Bytes written with sixty-four characters.

Characters outside the alphabet do not count. Every four characters are three bytes; a last group of
two or three is filled up with equals signs.
-/

namespace NotebookAudit.Base64

/-- The value of a character of the alphabet. -/
def value? (c : CodePoint) : Option Nat :=
  if 0x41 ≤ c ∧ c ≤ 0x5a then some (c - 0x41)
  else if 0x61 ≤ c ∧ c ≤ 0x7a then some (c - 0x61 + 26)
  else if c.isAsciiDigit then some (c - 0x30 + 52)
  else if c = 0x2b then some 62
  else if c = 0x2f then some 63
  else none

/-- Decodes a text from inside a group: `count` characters of it are read, whose bits that are not
yet in a byte are `left`, and `pads` equals signs after them. -/
def decodeFrom (count left pads : Nat) : Text → Option Bytes
  | [] => if count = 0 then some [] else none
  | c :: rest =>
    if c = 0x3d then
      if 2 ≤ count then
        if 4 ≤ count + pads + 1 then some [] else decodeFrom count left (pads + 1) rest
      else decodeFrom count left pads rest
    else match value? c with
      | none => decodeFrom count left pads rest
      | some v =>
        if count = 0 then decodeFrom 1 v 0 rest
        else if count = 1 then
          (decodeFrom 2 (v % 16) 0 rest).map ((left * 4 + v / 16).toUInt8 :: ·)
        else if count = 2 then
          (decodeFrom 3 (v % 4) 0 rest).map ((left * 16 + v / 4).toUInt8 :: ·)
        else (decodeFrom 0 0 0 rest).map ((left * 64 + v).toUInt8 :: ·)

/-- The bytes of a text. -/
def decode (t : Text) : Option Bytes := decodeFrom 0 0 0 t

end NotebookAudit.Base64

import NotebookAudit.Text.Basic

/-!
UTF-8.

`Utf8.pieces` cuts a byte string into encoded scalar values and malformed pieces. A malformed piece
is a longest start of some encoding that the next byte, or the end of the bytes, does not continue;
a byte that starts no encoding is a malformed piece by itself. `Utf8.decode` refuses the first
malformed piece and says where it stands; `Utf8.decodeLossy` puts U+FFFD in the place of each.
-/

namespace NotebookAudit

/-- A byte string. -/
abbrev Bytes := List UInt8

namespace Utf8

/-- Why a piece is malformed. -/
inductive Malformation where
  /-- No encoding starts with this byte. -/
  | start
  /-- The next byte does not continue the encoding. -/
  | continuation
  /-- The bytes end inside the encoding. -/
  | truncated
  deriving Repr, DecidableEq

/-- A piece of a byte string, `width` bytes long. -/
inductive Piece where
  | scalar (c : CodePoint) (width : Nat)
  | malformed (why : Malformation) (width : Nat)
  deriving Repr, DecidableEq

/-- The number of bytes of a piece. -/
def Piece.width : Piece → Nat
  | .scalar _ w => w
  | .malformed _ w => w

/-- What the first byte of an encoding says: the bytes still to come, the least and the greatest
value of the next of them, and the leading bits of the scalar value. -/
structure Lead where
  tails : Nat
  low : Nat
  high : Nat
  bits : Nat
  deriving Repr, DecidableEq

/-- The encodings of two to four bytes. The bounds on the second byte shut out overlong forms,
surrogates and values above U+10FFFF. -/
def lead? (b : Nat) : Option Lead :=
  if b < 0x80 then some ⟨0, 0, 0, b⟩
  else if 0xc2 ≤ b ∧ b ≤ 0xdf then some ⟨1, 0x80, 0xbf, b - 0xc0⟩
  else if b = 0xe0 then some ⟨2, 0xa0, 0xbf, 0⟩
  else if b = 0xed then some ⟨2, 0x80, 0x9f, 0xd⟩
  else if 0xe1 ≤ b ∧ b ≤ 0xef then some ⟨2, 0x80, 0xbf, b - 0xe0⟩
  else if b = 0xf0 then some ⟨3, 0x90, 0xbf, 0⟩
  else if 0xf1 ≤ b ∧ b ≤ 0xf3 then some ⟨3, 0x80, 0xbf, b - 0xf0⟩
  else if b = 0xf4 then some ⟨3, 0x80, 0x8f, 4⟩
  else none

/-- Reads `tails` more bytes of an encoding, the first of them between `low` and `high`, after
`width` bytes that spelled `bits`. -/
def readTails (low high bits width : Nat) : (tails : Nat) → Bytes → Piece
  | 0, _ => .scalar bits width
  | _ + 1, [] => .malformed .truncated width
  | tails + 1, b :: rest =>
    if low ≤ b.toNat ∧ b.toNat ≤ high then
      readTails 0x80 0xbf (bits * 64 + (b.toNat - 0x80)) (width + 1) tails rest
    else .malformed .continuation width

/-- The piece that starts with byte `b` and goes on in `rest`. -/
def firstPiece (b : UInt8) (rest : Bytes) : Piece :=
  match lead? b.toNat with
  | none => .malformed .start 1
  | some l => readTails l.low l.high l.bits 1 l.tails rest

/-- The pieces of a byte string. -/
def pieces : Bytes → List Piece
  | [] => []
  | b :: rest =>
    let piece := firstPiece b rest
    piece :: pieces (rest.drop (piece.width - 1))
termination_by bytes => bytes.length
decreasing_by simp only [List.length_drop, List.length_cons]; omega

/-- A malformed piece of a byte string: where it stands, its bytes and what is wrong with it. -/
structure Fault where
  position : Nat
  bytes : Bytes
  why : Malformation
  deriving Repr, DecidableEq

/-- Decodes pieces that start at `position` of the bytes `rest`. -/
def decodePieces (position : Nat) (rest : Bytes) : List Piece → Except Fault Text
  | [] => .ok []
  | .scalar c w :: more =>
    match decodePieces (position + w) (rest.drop w) more with
    | .ok t => .ok (c :: t)
    | .error f => .error f
  | .malformed why w :: _ => .error ⟨position, rest.take w, why⟩

/-- The text of a byte string, or its first malformed piece. -/
def decode (bytes : Bytes) : Except Fault Text := decodePieces 0 bytes (pieces bytes)

/-- The scalar value of a piece, or the replacement character. -/
def Piece.shown : Piece → CodePoint
  | .scalar c _ => c
  | .malformed _ _ => 0xfffd

/-- The text of a byte string, with U+FFFD for each malformed piece. -/
def decodeLossy (bytes : Bytes) : Text := (pieces bytes).map Piece.shown

/-- The encoding of the byte order mark. -/
def byteOrderMark : Bytes := [0xef, 0xbb, 0xbf]

/-- The bytes after one byte order mark, if they start with it. -/
def dropMark (bytes : Bytes) : Bytes :=
  if byteOrderMark.isPrefixOf bytes then bytes.drop 3 else bytes

/-- The encoding of a code point. -/
def encodePoint (c : CodePoint) : Bytes :=
  if c < 0x80 then [c.toUInt8]
  else if c < 0x800 then [(0xc0 + c / 64).toUInt8, (0x80 + c % 64).toUInt8]
  else if c < 0x10000 then
    [(0xe0 + c / 4096).toUInt8, (0x80 + c / 64 % 64).toUInt8, (0x80 + c % 64).toUInt8]
  else
    [(0xf0 + c / 262144).toUInt8, (0x80 + c / 4096 % 64).toUInt8, (0x80 + c / 64 % 64).toUInt8,
      (0x80 + c % 64).toUInt8]

/-- The encoding of a text. -/
def encode (t : Text) : Bytes := t.flatMap encodePoint

/-- What is wrong with a piece, in words. -/
def Malformation.message : Malformation → Text
  | .start => "invalid start byte"
  | .continuation => "invalid continuation byte"
  | .truncated => "unexpected end of data"

/-- The message of a fault: the byte or the span of bytes, its position and what is wrong. -/
def Fault.message (f : Fault) : Text :=
  let place : Text := match f.bytes with
    | [b] => "byte 0x" ++ Text.ofHex 2 b.toNat ++ " in position " ++ Text.ofNat f.position
    | _ => "bytes in position " ++ Text.ofNat f.position ++ "-"
        ++ Text.ofNat (f.position + f.bytes.length - 1)
  "'utf-8' codec can't decode " ++ place ++ ": " ++ f.why.message

/-- Decodes bytes that arrive in blocks of `size`: an encoding that straddles two blocks waits for
the second, and a fault counts its position from the bytes that wait. -/
def decodeBlocks (size : Nat) : (fuel : Nat) → (waiting : Bytes) → Bytes → Except Fault Text
  | 0, waiting, rest => decode (waiting ++ rest)
  | _ + 1, waiting, [] => decode waiting
  | fuel + 1, waiting, rest@(_ :: _) =>
    let block := waiting ++ rest.take size
    let cut := match (pieces block).getLast? with
      | some (.malformed .truncated w) => block.length - w
      | _ => block.length
    match decode (block.take cut) with
    | .error f => .error f
    | .ok t => (decodeBlocks size fuel (block.drop cut) (rest.drop size)).map (t ++ ·)

end Utf8

/-- The text of a file: its bytes decoded block by block, every line ending as a line feed. -/
def Text.unifyNewlines : Text → Text
  | 0x0d :: 0x0a :: rest => 0x0a :: unifyNewlines rest
  | 0x0d :: rest => 0x0a :: unifyNewlines rest
  | c :: rest => c :: unifyNewlines rest
  | [] => []

end NotebookAudit

import NotebookAudit.Proofs.Result
import NotebookAudit.Text.Utf8

/-!
UTF-8 as a code.

A byte string is UTF-8 if it is the encoding of a text of scalar values. `Utf8.decode_eq_ok_iff` says
that exactly these byte strings are decoded, to the one text that they encode, and
`Utf8.decodeBlocks_eq_ok_iff` that it does not matter whether the bytes arrive in blocks.

The tail of an encoding is described by `Utf8.Continues`: every byte brings six more bits, and the
first byte bounds the second.
-/

namespace NotebookAudit.Utf8

/-- A text without surrogates, which has an encoding. -/
def IsEncodable (t : Text) : Prop := ∀ c ∈ t, c.isScalar = true

instance (t : Text) : Decidable (IsEncodable t) := List.decidableBAll _ t

/-! ## One encoding -/

theorem toNat_toUInt8 {n : Nat} (small : n < 256) : n.toUInt8.toNat = n := by
  rw [Nat.toUInt8, UInt8.toNat_ofNat']
  omega

theorem isScalar_iff {c : Nat} :
    CodePoint.isScalar c = true ↔ c < 0xd800 ∨ (0xdfff < c ∧ c < 0x110000) := by
  show (decide (c < 0x110000) && !(decide (0xd800 ≤ c) && decide (c ≤ 0xdfff))) = true ↔ _
  simp only [Bool.and_eq_true, decide_eq_true_eq, Bool.not_eq_true', Bool.and_eq_false_iff,
    decide_eq_false_iff_not]
  omega

/-- Bytes that continue an encoding whose leading bits are known up to its scalar value. The first
of them lies between `low` and `high`. -/
inductive Continues : (low high bits : Nat) → Bytes → Nat → Prop
  | done {low high c : Nat} : Continues low high c [] c
  | digit {low high bits c : Nat} {tail : Bytes} (digit : Nat) (small : digit < 64)
    (least : low ≤ 0x80 + digit) (most : 0x80 + digit ≤ high)
    (more : Continues 0x80 0xbf (bits * 64 + digit) tail c) :
    Continues low high bits ((0x80 + digit).toUInt8 :: tail) c

section Tails

variable {low high bits width c w : Nat} {tail rest : Bytes}

theorem readTails_of_continues (continues : Continues low high bits tail c) :
    readTails low high bits width tail.length (tail ++ rest) = .scalar c (width + tail.length) := by
  induction continues generalizing width with
  | done => rfl
  | digit digit small least most more ih =>
      have byte : (0x80 + digit).toUInt8.toNat = 0x80 + digit := toNat_toUInt8 (by omega)
      rw [List.cons_append, List.length_cons, readTails, byte, if_pos ⟨least, most⟩,
        Nat.add_sub_cancel_left, ih]
      congr 1
      omega

/-- A part of a tail that ends too early is truncated. -/
theorem readTails_of_cut (continues : Continues low high bits (tail ++ rest) c) (left : rest ≠ []) :
    readTails low high bits width (tail ++ rest).length tail =
      .malformed .truncated (width + tail.length) := by
  induction tail generalizing low high bits width with
  | nil =>
      cases rest with
      | nil => exact absurd rfl left
      | cons b rest => rfl
  | cons b tail ih =>
      cases continues with
      | digit digit small least most more =>
          have byte : (0x80 + digit).toUInt8.toNat = 0x80 + digit := toNat_toUInt8 (by omega)
          rw [List.cons_append, List.length_cons, readTails, byte, if_pos ⟨least, most⟩,
            Nat.add_sub_cancel_left, ih more, List.length_cons]
          congr 1
          omega

/-- What is read as a scalar value is continued up to it. -/
theorem continues_of_readTails {tails : Nat} (bounds : tails ≠ 0 → 0x80 ≤ low ∧ high ≤ 0xbf)
    (read : readTails low high bits width tails rest = .scalar c w) :
    ∃ tail after, rest = tail ++ after ∧ tail.length = tails ∧ w = width + tails ∧
      Continues low high bits tail c := by
  induction tails generalizing low high bits width rest with
  | zero =>
      cases read
      exact ⟨[], rest, rfl, rfl, rfl, .done⟩
  | succ tails ih =>
      cases rest with
      | nil => cases read
      | cons b rest =>
          rw [readTails] at read
          split at read
          · next inside =>
            obtain ⟨least, most⟩ := bounds (Nat.succ_ne_zero tails)
            obtain ⟨tail, after, rfl, length, rfl, more⟩ := ih (fun _ => by omega) read
            have byte : (0x80 + (b.toNat - 0x80)).toUInt8 = b := by
              rw [Nat.add_sub_cancel' (by omega)]
              exact UInt8.ofNat_toNat
            have continued := Continues.digit (b.toNat - 0x80) (by omega)
              (Nat.le_trans inside.1 (by omega)) (Nat.le_trans (by omega) inside.2) more
            rw [byte] at continued
            exact ⟨b :: tail, after, rfl, by rw [List.length_cons, length], by omega, continued⟩
          · cases read

end Tails

/-- What the first byte of an encoding of one, two, three or four bytes says. -/
inductive FirstByte : Nat → Lead → Prop
  | one {n : Nat} (ascii : n < 0x80) : FirstByte n ⟨0, 0, 0, n⟩
  | two {n : Nat} (least : 2 ≤ n) (most : n < 32) : FirstByte (0xc0 + n) ⟨1, 0x80, 0xbf, n⟩
  | three {n : Nat} (most : n < 16) : FirstByte (0xe0 + n)
    ⟨2, if n = 0 then 0xa0 else 0x80, if n = 0xd then 0x9f else 0xbf, n⟩
  | four {n : Nat} (most : n < 5) : FirstByte (0xf0 + n)
    ⟨3, if n = 0 then 0x90 else 0x80, if n = 4 then 0x8f else 0xbf, n⟩

theorem FirstByte.lead?_eq {b : Nat} {l : Lead} (first : FirstByte b l) : lead? b = some l := by
  cases first <;> grind [lead?]

theorem FirstByte.of_lead? {b : Nat} {l : Lead} (lead : lead? b = some l) : FirstByte b l := by
  unfold lead? at lead
  split at lead
  · next ascii =>
    cases lead
    exact .one ascii
  split at lead
  · next inside =>
    cases lead
    have first := FirstByte.two (n := b - 0xc0) (by omega) (by omega)
    rwa [Nat.add_sub_cancel' (by omega)] at first
  have three (n : Nat) (most : n < 16) (same : 0xe0 + n = b)
      (isLead : some (Lead.mk 2 (if n = 0 then 0xa0 else 0x80) (if n = 0xd then 0x9f else 0xbf) n) =
        some l) : FirstByte b l := by
    cases isLead
    rw [← same]
    exact .three most
  have four (n : Nat) (most : n < 5) (same : 0xf0 + n = b)
      (isLead : some (Lead.mk 3 (if n = 0 then 0x90 else 0x80) (if n = 4 then 0x8f else 0xbf) n) =
        some l) : FirstByte b l := by
    cases isLead
    rw [← same]
    exact .four most
  split at lead
  · exact three 0 (by omega) (by omega) lead
  split at lead
  · exact three 13 (by omega) (by omega) lead
  split at lead
  · refine three (b - 0xe0) (by omega) (by omega) ?_
    rw [if_neg (by omega), if_neg (by omega)]
    exact lead
  split at lead
  · exact four 0 (by omega) (by omega) lead
  split at lead
  · refine four (b - 0xf0) (by omega) (by omega) ?_
    rw [if_neg (by omega), if_neg (by omega)]
    exact lead
  split at lead
  · exact four 4 (by omega) (by omega) lead
  · cases lead

theorem FirstByte.bounds {b : Nat} {l : Lead} (first : FirstByte b l) (more : l.tails ≠ 0) :
    0x80 ≤ l.low ∧ l.high ≤ 0xbf := by
  cases first <;> grind

/-- The encoding of a scalar value is a first byte and a tail that continues it. -/
theorem exists_firstByte {c : Nat} (scalar : CodePoint.isScalar c = true) :
    ∃ b l tail, encodePoint c = b :: tail ∧ FirstByte b.toNat l ∧ tail.length = l.tails ∧
      Continues l.low l.high l.bits tail c := by
  rw [isScalar_iff] at scalar
  by_cases one : c < 0x80
  · have first : FirstByte c.toUInt8.toNat ⟨0, 0, 0, c⟩ := by
      rw [toNat_toUInt8 (by omega)]
      exact .one one
    exact ⟨_, _, [], by rw [encodePoint, if_pos one], first, rfl, .done⟩
  by_cases two : c < 0x800
  · have first := FirstByte.two (n := c / 64) (by omega) (by omega)
    rw [← toNat_toUInt8 (n := 0xc0 + c / 64) (by omega)] at first
    have value : c / 64 * 64 + c % 64 = c := by omega
    refine ⟨_, _, _, by rw [encodePoint, if_neg one, if_pos two], first, rfl, ?_⟩
    refine .digit _ (by omega) (by dsimp only; omega) (by dsimp only; omega) ?_
    rw [value]
    exact .done
  by_cases three : c < 0x10000
  · have first := FirstByte.three (n := c / 4096) (by omega)
    rw [← toNat_toUInt8 (n := 0xe0 + c / 4096) (by omega)] at first
    have value : (c / 4096 * 64 + c / 64 % 64) * 64 + c % 64 = c := by omega
    refine ⟨_, _, _, by rw [encodePoint, if_neg one, if_neg two, if_pos three], first, rfl, ?_⟩
    refine .digit _ (by omega) (by dsimp only; split <;> omega) (by dsimp only; split <;> omega) ?_
    refine .digit _ (by omega) (by omega) (by omega) ?_
    rw [value]
    exact .done
  · have first := FirstByte.four (n := c / 262144) (by omega)
    rw [← toNat_toUInt8 (n := 0xf0 + c / 262144) (by omega)] at first
    have value : ((c / 262144 * 64 + c / 4096 % 64) * 64 + c / 64 % 64) * 64 + c % 64 = c := by
      omega
    refine ⟨_, _, _, by rw [encodePoint, if_neg one, if_neg two, if_neg three], first, rfl, ?_⟩
    refine .digit _ (by omega) (by dsimp only; split <;> omega) (by dsimp only; split <;> omega) ?_
    refine .digit _ (by omega) (by omega) (by omega) ?_
    refine .digit _ (by omega) (by omega) (by omega) ?_
    rw [value]
    exact .done

/-- Only an encoding is a first byte with a tail that continues it. -/
theorem encodePoint_of_firstByte {b : UInt8} {l : Lead} {tail : Bytes} {c : Nat}
    (first : FirstByte b.toNat l) (length : tail.length = l.tails)
    (continues : Continues l.low l.high l.bits tail c) :
    CodePoint.isScalar c = true ∧ encodePoint c = b :: tail := by
  rw [isScalar_iff]
  have byte : b = b.toNat.toUInt8 := UInt8.ofNat_toNat.symm
  generalize b.toNat = n at first byte
  subst byte
  cases first with
  | one ascii =>
      cases continues with
      | done => exact ⟨by dsimp only; omega, by rw [encodePoint, if_pos ascii]⟩
      | digit => cases length
  | @two n least most =>
      obtain _ | ⟨d, small, -, -, more⟩ := continues
      · cases length
      obtain _ | _ := more
      · have first : (n * 64 + d) / 64 = n := by omega
        have second : (n * 64 + d) % 64 = d := by omega
        have atLeast : ¬ n * 64 + d < 0x80 := by omega
        have below : n * 64 + d < 0x800 := by omega
        refine ⟨by dsimp only; omega, ?_⟩
        rw [encodePoint, if_neg atLeast, if_pos below, first, second]
      · cases length
  | @three n most =>
      obtain _ | ⟨d, small₁, least, greatest, more⟩ := continues
      · cases length
      obtain _ | ⟨e, small₂, -, -, more⟩ := more
      · cases length
      obtain _ | _ := more
      · have first : ((n * 64 + d) * 64 + e) / 4096 = n := by omega
        have second : ((n * 64 + d) * 64 + e) / 64 % 64 = d := by omega
        have third : ((n * 64 + d) * 64 + e) % 64 = e := by omega
        have atLeast : ¬ (n * 64 + d) * 64 + e < 0x800 := by grind
        have below : (n * 64 + d) * 64 + e < 0x10000 := by omega
        have noSurrogate : (n * 64 + d) * 64 + e < 0xd800 ∨ 0xdfff < (n * 64 + d) * 64 + e := by
          grind
        have notOne : ¬ (n * 64 + d) * 64 + e < 0x80 := by omega
        refine ⟨by dsimp only; omega, ?_⟩
        rw [encodePoint, if_neg notOne, if_neg atLeast, if_pos below, first, second, third]
      · cases length
  | @four n most =>
      obtain _ | ⟨d, small₁, least, greatest, more⟩ := continues
      · cases length
      obtain _ | ⟨e, small₂, -, -, more⟩ := more
      · cases length
      obtain _ | ⟨f, small₃, -, -, more⟩ := more
      · cases length
      obtain _ | _ := more
      · have first : (((n * 64 + d) * 64 + e) * 64 + f) / 262144 = n := by omega
        have second : (((n * 64 + d) * 64 + e) * 64 + f) / 4096 % 64 = d := by omega
        have third : (((n * 64 + d) * 64 + e) * 64 + f) / 64 % 64 = e := by omega
        have fourth : (((n * 64 + d) * 64 + e) * 64 + f) % 64 = f := by omega
        have atLeast : ¬ ((n * 64 + d) * 64 + e) * 64 + f < 0x10000 := by grind
        have below : ((n * 64 + d) * 64 + e) * 64 + f < 0x110000 := by grind
        have notOne : ¬ ((n * 64 + d) * 64 + e) * 64 + f < 0x80 := by omega
        have notTwo : ¬ ((n * 64 + d) * 64 + e) * 64 + f < 0x800 := by omega
        refine ⟨by dsimp only; omega, ?_⟩
        rw [encodePoint, if_neg notOne, if_neg notTwo, if_neg atLeast, first, second, third, fourth]
      · cases length

/-! ## Pieces -/

theorem pieces_cons (b : UInt8) (rest : Bytes) :
    pieces (b :: rest) =
      firstPiece b rest :: pieces (rest.drop ((firstPiece b rest).width - 1)) := by
  rw [pieces]

/-- The first piece of an encoding with bytes after it is its scalar value. -/
theorem pieces_encodePoint {c : CodePoint} (scalar : c.isScalar = true) (rest : Bytes) :
    pieces (encodePoint c ++ rest) = .scalar c (encodePoint c).length :: pieces rest := by
  obtain ⟨b, l, tail, encoded, first, length, continues⟩ := exists_firstByte scalar
  have piece : firstPiece b (tail ++ rest) = .scalar c (1 + tail.length) := by
    rw [firstPiece, first.lead?_eq]
    show readTails l.low l.high l.bits 1 l.tails _ = _
    rw [← length]
    exact readTails_of_continues continues
  rw [encoded, List.cons_append, pieces_cons, piece, Piece.width, Nat.add_sub_cancel_left,
    List.drop_left, List.length_cons, Nat.add_comm 1]

@[simp] theorem encode_nil : encode [] = [] := rfl

@[simp] theorem encode_cons (c : CodePoint) (t : Text) :
    encode (c :: t) = encodePoint c ++ encode t := rfl

theorem pieces_encode {t : Text} (encodable : IsEncodable t) :
    pieces (encode t) = t.map fun c => .scalar c (encodePoint c).length := by
  induction t with
  | nil => rw [encode_nil, pieces, List.map_nil]
  | cons c t ih =>
      rw [IsEncodable, List.forall_mem_cons] at encodable
      rw [encode_cons, pieces_encodePoint encodable.1, ih encodable.2, List.map_cons]

/-- An encoding that ends too early is one truncated piece. -/
theorem pieces_of_cut {c : CodePoint} (scalar : c.isScalar = true) {cut rest : Bytes}
    (encoded : encodePoint c = cut ++ rest) (begun : cut ≠ []) (left : rest ≠ []) :
    pieces cut = [.malformed .truncated cut.length] := by
  obtain ⟨b, l, tail, encodedAs, first, length, continues⟩ := exists_firstByte scalar
  cases cut with
  | nil => exact absurd rfl begun
  | cons b' cut =>
      rw [encodedAs, List.cons_append, List.cons.injEq] at encoded
      obtain ⟨rfl, rfl⟩ := encoded
      have piece : firstPiece b cut = .malformed .truncated (1 + cut.length) := by
        rw [firstPiece, first.lead?_eq]
        show readTails l.low l.high l.bits 1 l.tails _ = _
        rw [← length]
        exact readTails_of_cut continues left
      rw [pieces_cons, piece, Piece.width, Nat.add_sub_cancel_left, List.drop_length,
        List.length_cons, Nat.add_comm 1, pieces]

/-- A piece that is a scalar value is its encoding. -/
theorem of_firstPiece_scalar {b : UInt8} {rest : Bytes} {c : CodePoint} {w : Nat}
    (piece : firstPiece b rest = .scalar c w) :
    c.isScalar = true ∧ w = (encodePoint c).length ∧
      b :: rest = encodePoint c ++ rest.drop (w - 1) := by
  unfold firstPiece at piece
  split at piece
  · cases piece
  · next l lead =>
    have first := FirstByte.of_lead? lead
    obtain ⟨tail, after, rfl, length, rfl, continues⟩ :=
      continues_of_readTails first.bounds piece
    obtain ⟨scalar, encoded⟩ := encodePoint_of_firstByte first length continues
    refine ⟨scalar, ?_, ?_⟩
    · rw [encoded, List.length_cons, length, Nat.add_comm]
    · rw [encoded, Nat.add_sub_cancel_left, ← length, List.drop_left, List.cons_append]

/-! ## Decoding -/

theorem encode_append (s t : Text) : encode (s ++ t) = encode s ++ encode t :=
  List.flatMap_append

theorem decodePieces_scalar {position w : Nat} {rest : Bytes} {c : CodePoint} {more : List Piece} :
    decodePieces position rest (.scalar c w :: more) =
      (decodePieces (position + w) (rest.drop w) more).map (c :: ·) := by
  rw [decodePieces]
  split <;> simp [Except.map, *]

/-- Exactly the encodings of texts are decoded. -/
theorem decodePieces_eq_ok_iff {position : Nat} {bytes left : Bytes} {t : Text} :
    decodePieces position left (pieces bytes) = .ok t ↔ IsEncodable t ∧ encode t = bytes := by
  constructor
  · intro decoded
    induction bytes using pieces.induct generalizing position left t with
    | case1 =>
        rw [pieces] at decoded
        cases decoded
        exact ⟨List.forall_mem_nil _, rfl⟩
    | case2 b rest piece =>
        rename_i ih
        rw [pieces_cons] at decoded
        cases first : firstPiece b rest with
        | malformed why w =>
            rw [first] at decoded
            cases decoded
        | scalar c w =>
            obtain ⟨scalar, -, same⟩ := of_firstPiece_scalar first
            have width : piece.width = w := congrArg Piece.width first
            rw [first, decodePieces_scalar] at decoded
            rw [width] at ih
            cases more : decodePieces (position + w) (left.drop w) (pieces (rest.drop (w - 1))) with
            | error f =>
                rw [Piece.width, more] at decoded
                cases decoded
            | ok t' =>
                rw [Piece.width, more] at decoded
                cases decoded
                obtain ⟨encodable, encoded⟩ := ih more
                refine ⟨List.forall_mem_cons.mpr ⟨scalar, encodable⟩, ?_⟩
                rw [same, ← encoded]
                rfl
  · intro encoded
    obtain ⟨encodable, rfl⟩ := encoded
    induction t generalizing position left with
    | nil =>
        rw [encode_nil, pieces]
        rfl
    | cons c t ih =>
        rw [IsEncodable, List.forall_mem_cons] at encodable
        rw [encode_cons, pieces_encodePoint encodable.1, decodePieces_scalar, ih encodable.2]
        rfl

/-- A byte string is decoded to a text exactly if it is the encoding of the text. -/
theorem decode_eq_ok_iff {bytes : Bytes} {t : Text} :
    decode bytes = .ok t ↔ IsEncodable t ∧ encode t = bytes := decodePieces_eq_ok_iff

/-! ## Byte order marks -/

/-- The bytes encode the text, with or without a byte order mark in front. -/
def Encodes (bytes : Bytes) (t : Text) : Prop :=
  IsEncodable t ∧ (bytes = encode t ∨ bytes = byteOrderMark ++ encode t)

/-- An encoding starts with a byte order mark only if the text does. -/
theorem head?_of_mark {t : Text} (encodable : IsEncodable t) {rest : Bytes}
    (marked : encode t = byteOrderMark ++ rest) : t.head? = some 0xfeff := by
  cases t with
  | nil => cases marked
  | cons c t =>
      rw [IsEncodable, List.forall_mem_cons] at encodable
      have mark : byteOrderMark = encodePoint 0xfeff := rfl
      have same := congrArg pieces marked
      rw [mark, encode_cons, pieces_encodePoint encodable.1, pieces_encodePoint (by decide)] at same
      injection (List.cons.inj same).1 with sameChar
      rw [List.head?_cons, sameChar]

theorem dropMark_append (bytes : Bytes) : dropMark (byteOrderMark ++ bytes) = bytes := rfl

/-- The bytes after a byte order mark encode a text that does not start with one itself exactly if
the bytes encode it, with or without a mark. -/
theorem dropMark_eq_encode_iff {bytes : Bytes} {t : Text} (encodable : IsEncodable t)
    (noMark : t.head? ≠ some 0xfeff) :
    dropMark bytes = encode t ↔ Encodes bytes t := by
  constructor
  · intro dropped
    refine ⟨encodable, ?_⟩
    rw [dropMark] at dropped
    split at dropped
    next marked =>
      obtain ⟨rest, rfl⟩ := List.isPrefixOf_iff_prefix.mp marked
      have same : rest = encode t := dropped
      exact .inr (by rw [same])
    · exact .inl dropped
  · intro encodes
    rcases encodes.2 with rfl | rfl
    · refine if_neg fun marked => noMark ?_
      obtain ⟨rest, same⟩ := List.isPrefixOf_iff_prefix.mp marked
      exact head?_of_mark encodable same.symm
    · exact dropMark_append _

/-! ## Decoding in blocks -/

/-- A block of an encoding that ends anywhere is the encoding of some characters and a part of the
next one. -/
theorem exists_cut {t : Text} (encodable : IsEncodable t) {block rest : Bytes}
    (encoded : encode t = block ++ rest) :
    ∃ before cut after, t = before ++ after ∧ block = encode before ++ cut ∧
      encode after = cut ++ rest ∧
      pieces block = pieces (encode before) ++
        if cut = [] then [] else [.malformed .truncated cut.length] := by
  induction t generalizing block with
  | nil =>
      obtain ⟨rfl, rfl⟩ := List.append_eq_nil_iff.mp encoded.symm
      exact ⟨[], [], [], rfl, rfl, rfl, by simp⟩
  | cons c t ih =>
      rw [IsEncodable, List.forall_mem_cons] at encodable
      rw [encode_cons] at encoded
      rcases List.append_eq_append_iff.mp encoded with ⟨block', rfl, same⟩ | ⟨left, same, leftAll⟩
      · obtain ⟨before, cut, after, rfl, rfl, encodedAfter, pieces⟩ := ih encodable.2 same
        refine ⟨c :: before, cut, after, rfl, by simp, encodedAfter, ?_⟩
        rw [pieces_encodePoint encodable.1, pieces, encode_cons, pieces_encodePoint encodable.1,
          List.cons_append]
      by_cases complete : left = []
      · subst complete
        refine ⟨[c], [], t, rfl, by simpa using same.symm, by simpa using leftAll.symm, ?_⟩
        rw [if_pos rfl, List.append_nil, encode_cons, encode_nil, List.append_nil, same,
          List.append_nil]
      · refine ⟨[], block, c :: t, rfl, by simp, by rw [encode_cons, encoded], ?_⟩
        split
        · next empty => rw [empty, encode_nil, List.append_nil]
        · next begun =>
          rw [pieces_of_cut encodable.1 same begun complete, encode_nil, Utf8.pieces]
          rfl

/-- The number of bytes of a block that do not wait for the next block. -/
def settledLength (block : Bytes) : Nat :=
  match (pieces block).getLast? with
  | some (.malformed .truncated w) => block.length - w
  | _ => block.length

/-- Of a block of an encoding, the bytes of its last, unfinished character wait. -/
theorem settledLength_eq {before : Text} (encodable : IsEncodable before) {block cut : Bytes}
    (same : block = encode before ++ cut)
    (cutPieces : pieces block = pieces (encode before) ++
      if cut = [] then [] else [.malformed .truncated cut.length]) :
    settledLength block = (encode before).length := by
  rw [settledLength, cutPieces]
  split
  · next w last =>
    split at last
    · next complete =>
      rw [List.append_nil, pieces_encode encodable, List.getLast?_map] at last
      obtain ⟨c, -, scalar⟩ := Option.map_eq_some_iff.mp last
      cases scalar
    · rw [List.getLast?_concat] at last
      cases last
      rw [same, List.length_append, Nat.add_sub_cancel]
  · next last =>
    split at last
    · next complete => rw [same, complete, List.append_nil]
    · exact absurd (List.getLast?_concat ..) (last _)

/-- Reading a block decodes what is settled in it, and keeps the rest for the next block. -/
theorem decodeBlocks_cons (size fuel : Nat) (waiting : Bytes) (b : UInt8) (rest : Bytes) :
    let block := waiting ++ (b :: rest).take size
    decodeBlocks size (fuel + 1) waiting (b :: rest) =
      (decode (block.take (settledLength block)) >>= fun t =>
        (decodeBlocks size fuel (block.drop (settledLength block)) ((b :: rest).drop size)).map
          (t ++ ·)) := by
  intro block
  have unfolded := decodeBlocks.eq_def size (fuel + 1) waiting (b :: rest)
  dsimp only at unfolded
  split at unfolded
  next f failed =>
    have failed : decode (block.take (settledLength block)) = .error f := failed
    rw [unfolded, failed]
    rfl
  next t decoded =>
    have decoded : decode (block.take (settledLength block)) = .ok t := decoded
    rw [unfolded, decoded]
    rfl

/-- Reading in blocks of any size comes to the same text as reading all bytes at once. -/
theorem decodeBlocks_eq_ok_iff {size fuel : Nat} {waiting rest : Bytes} {t : Text} :
    decodeBlocks size fuel waiting rest = .ok t ↔ decode (waiting ++ rest) = .ok t := by
  induction fuel generalizing waiting rest t with
  | zero => rfl
  | succ fuel ih =>
      cases rest with
      | nil => rw [decodeBlocks, List.append_nil]
      | cons b rest =>
          have whole : waiting ++ b :: rest =
              (waiting ++ (b :: rest).take size) ++ (b :: rest).drop size := by
            rw [List.append_assoc, List.take_append_drop]
          rw [decodeBlocks_cons, whole]
          generalize waiting ++ (b :: rest).take size = block
          generalize (b :: rest).drop size = left
          constructor
          · intro decoded
            obtain ⟨before, first, decoded⟩ := bind_eq_ok_iff.mp decoded
            obtain ⟨after, more, rfl⟩ := map_eq_ok_iff.mp decoded
            rw [decode_eq_ok_iff] at first
            rw [ih, decode_eq_ok_iff] at more
            refine decode_eq_ok_iff.mpr ⟨List.forall_mem_append.mpr ⟨first.1, more.1⟩, ?_⟩
            rw [encode_append, first.2, more.2, ← List.append_assoc, List.take_append_drop]
          · intro decoded
            obtain ⟨encodable, encoded⟩ := decode_eq_ok_iff.mp decoded
            obtain ⟨before, cut, after, rfl, same, encodedAfter, cutPieces⟩ :=
              exists_cut encodable encoded
            obtain ⟨encodableBefore, encodableAfter⟩ := List.forall_mem_append.mp encodable
            have first : decode (encode before) = .ok before :=
              decode_eq_ok_iff.mpr ⟨encodableBefore, rfl⟩
            have more : decodeBlocks size fuel cut left = .ok after :=
              ih.mpr (decode_eq_ok_iff.mpr ⟨encodableAfter, encodedAfter⟩)
            rw [settledLength_eq encodableBefore same cutPieces, same, List.take_left,
              List.drop_left, first, more]
            rfl

end NotebookAudit.Utf8

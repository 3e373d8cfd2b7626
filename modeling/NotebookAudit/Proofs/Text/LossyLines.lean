import NotebookAudit.Proofs.Text.Utf8

/-!
Decoding line by line.

An ASCII byte never belongs to an encoding that began before it, so what stands in front of it and what
stands behind it are decoded apart, whatever is malformed on either side
(`Utf8.decodeLossy_append_ascii`). For the line feed this means that the lines of the text are those of
the bytes, each decoded by itself (`Utf8.lines_decodeLossy`).
-/

namespace NotebookAudit

/-- The pieces between the occurrences of a character are those of the library's splitting. -/
theorem Text.cutAt_eq_splitOn (c : CodePoint) (t : Text) : t.cutAt c = t.splitOn c := by
  induction t with
  | nil => rfl
  | cons d t ih =>
      rw [Text.cutAt] at ih ⊢
      rw [List.foldr_cons, ih, List.splitOn_cons_eq_if_modifyHead]
      by_cases same : d = c
      · rw [if_pos same, if_pos (beq_iff_eq.mpr same)]
      · rw [if_neg same, if_neg (by simpa using same)]
        cases pieces : List.splitOn c t with
        | nil => exact absurd pieces (List.splitOn_ne_nil _ _)
        | cons piece rest => rfl

namespace Utf8

variable {low high bits width : Nat} {stop : UInt8}

/-! ## ASCII bytes -/

/-- What is read of a tail in front of an ASCII byte is what is read of it at the end of the bytes. -/
theorem readTails_append_ascii {tails : Nat} (ascii : stop.toNat < 0x80)
    (bounds : tails ≠ 0 → 0x80 ≤ low) (rest after : Bytes) :
    (readTails low high bits width tails (rest ++ stop :: after)).shown =
        (readTails low high bits width tails rest).shown ∧
      (readTails low high bits width tails (rest ++ stop :: after)).width =
        (readTails low high bits width tails rest).width ∧
      (readTails low high bits width tails rest).width ≤ width + rest.length := by
  induction tails generalizing low high bits width rest with
  | zero => exact ⟨rfl, rfl, Nat.le_add_right _ _⟩
  | succ tails ih =>
      have lowest := bounds (Nat.succ_ne_zero tails)
      cases rest with
      | nil =>
          have outside : ¬ (low ≤ stop.toNat ∧ stop.toNat ≤ high) := by omega
          rw [List.nil_append, readTails, readTails, if_neg outside]
          exact ⟨rfl, rfl, Nat.le_refl _⟩
      | cons b rest =>
          rw [List.cons_append, readTails, readTails]
          split
          · obtain ⟨shown, width, fits⟩ := ih (fun _ => Nat.le_refl _) rest
            refine ⟨shown, width, Nat.le_trans fits ?_⟩
            rw [List.length_cons]
            omega
          · exact ⟨rfl, rfl, Nat.le_add_right _ _⟩

theorem firstPiece_append_ascii (ascii : stop.toNat < 0x80) (b : UInt8) (rest after : Bytes) :
    (firstPiece b (rest ++ stop :: after)).shown = (firstPiece b rest).shown ∧
      (firstPiece b (rest ++ stop :: after)).width = (firstPiece b rest).width ∧
      (firstPiece b rest).width - 1 ≤ rest.length := by
  unfold firstPiece
  cases lead : lead? b.toNat with
  | none => exact ⟨rfl, rfl, Nat.zero_le _⟩
  | some l =>
      have lowest (more : l.tails ≠ 0) : 0x80 ≤ l.low := ((FirstByte.of_lead? lead).bounds more).1
      obtain ⟨shown, width, fits⟩ := readTails_append_ascii ascii lowest rest after
      exact ⟨shown, width, by dsimp only; omega⟩

theorem firstPiece_ascii (ascii : stop.toNat < 0x80) (after : Bytes) :
    firstPiece stop after = .scalar stop.toNat 1 := by
  rw [firstPiece, lead?, if_pos ascii]
  rfl

theorem decodeLossy_nil : decodeLossy [] = [] := by
  rw [decodeLossy, pieces, List.map_nil]

theorem decodeLossy_cons (b : UInt8) (rest : Bytes) :
    decodeLossy (b :: rest) = (firstPiece b rest).shown ::
      decodeLossy (rest.drop ((firstPiece b rest).width - 1)) := by
  rw [decodeLossy, pieces_cons, List.map_cons]
  rfl

/-- What stands in front of an ASCII byte and what stands behind it are decoded apart. -/
theorem decodeLossy_append_ascii (ascii : stop.toNat < 0x80) (before after : Bytes) :
    decodeLossy (before ++ stop :: after) =
      decodeLossy before ++ stop.toNat :: decodeLossy after := by
  induction before using pieces.induct with
  | case1 =>
      rw [List.nil_append, decodeLossy_cons, firstPiece_ascii ascii, decodeLossy_nil]
      rfl
  | case2 b rest piece ih =>
      obtain ⟨shown, width, fits⟩ := firstPiece_append_ascii ascii b rest after
      rw [List.cons_append, decodeLossy_cons, shown, width, List.drop_append_of_le_length fits, ih,
        decodeLossy_cons]
      rfl

/-! ## Line feeds -/

/-- Only a line feed is decoded to a line feed. -/
theorem lineFeed_mem_of_decodeLossy {bytes : Bytes} (member : 0x0a ∈ decodeLossy bytes) :
    0x0a ∈ bytes := by
  induction bytes using pieces.induct with
  | case1 =>
      rw [decodeLossy_nil] at member
      cases member
  | case2 b rest piece ih =>
      rw [decodeLossy_cons] at member
      rcases List.mem_cons.mp member with shown | later
      · cases first : firstPiece b rest with
        | malformed why w =>
            rw [first] at shown
            cases shown
        | scalar c w =>
            rw [first] at shown
            cases shown
            obtain ⟨-, -, same⟩ := of_firstPiece_scalar first
            rw [same]
            exact List.mem_cons_self
      · exact List.mem_cons_of_mem b (List.mem_of_mem_drop (ih later))

/-- The lines of the text are the lines of the bytes, each decoded by itself. -/
theorem lines_decodeLossy (bytes : Bytes) :
    (decodeLossy bytes).lines = (bytes.splitOn 0x0a).map decodeLossy := by
  have noFeedDecoded (line : Bytes) (noFeed : 0x0a ∉ line) : 0x0a ∉ decodeLossy line :=
    fun fed => noFeed (lineFeed_mem_of_decodeLossy fed)
  rw [Text.lines, Text.cutAt_eq_splitOn]
  by_cases member : 0x0a ∈ bytes
  · obtain ⟨line, after, split, noFeed⟩ := List.eq_append_cons_of_mem member
    have rest := lines_decodeLossy after
    rw [Text.lines, Text.cutAt_eq_splitOn] at rest
    rw [split, decodeLossy_append_ascii (by decide), List.splitOn_append_cons_self_of_not_mem noFeed,
      List.map_cons, ← rest]
    exact List.splitOn_append_cons_self_of_not_mem (noFeedDecoded line noFeed) _
  · rw [List.splitOn_eq_singleton (noFeedDecoded bytes member), List.splitOn_eq_singleton member,
      List.map_singleton]
termination_by bytes.length
decreasing_by
  rw [split, List.length_append, List.length_cons]
  omega

/-- The first line of the bytes is what they begin with. -/
theorem head_splitOn_prefix (bytes : Bytes) :
    ∃ line others, bytes.splitOn 0x0a = line :: others ∧ line <+: bytes := by
  by_cases member : 0x0a ∈ bytes
  · obtain ⟨line, after, rfl, noFeed⟩ := List.eq_append_cons_of_mem member
    exact ⟨line, _, List.splitOn_append_cons_self_of_not_mem noFeed _, List.prefix_append _ _⟩
  · exact ⟨bytes, [], List.splitOn_eq_singleton member, List.prefix_refl _⟩

/-- A byte order mark stands in the first line. -/
theorem splitOn_dropMark (bytes : Bytes) :
    (dropMark bytes).splitOn 0x0a = (bytes.splitOn 0x0a).modifyHead dropMark := by
  by_cases marked : byteOrderMark <+: bytes
  · obtain ⟨rest, rfl⟩ := marked
    obtain ⟨line, others, lines, -⟩ := head_splitOn_prefix rest
    have marked : (byteOrderMark ++ rest).splitOn 0x0a = (byteOrderMark ++ line) :: others := by
      simp [byteOrderMark, List.splitOn_cons_eq_if_modifyHead, lines]
    rw [dropMark_append, lines, marked, List.modifyHead_cons, dropMark_append]
  · obtain ⟨line, others, lines, starts⟩ := head_splitOn_prefix bytes
    have unmarked : ¬ byteOrderMark <+: line := fun marks => marked (marks.trans starts)
    have same (bytes : Bytes) (unmarked : ¬ byteOrderMark <+: bytes) : dropMark bytes = bytes :=
      if_neg fun marks => unmarked (List.isPrefixOf_iff_prefix.mp marks)
    rw [same bytes marked, lines, List.modifyHead_cons, same line unmarked]

/-- There is one line more than there are line feeds. -/
theorem length_splitOn_lineFeed (bytes : Bytes) :
    (bytes.splitOn 0x0a).length = bytes.count 0x0a + 1 := by
  induction bytes with
  | nil => rfl
  | cons b bytes ih =>
      rw [List.splitOn_cons_eq_if_modifyHead]
      by_cases feed : b = 0x0a
      · rw [if_pos (beq_iff_eq.mpr feed), List.length_cons, ih, feed, List.count_cons_self]
      · rw [if_neg (by simpa using feed), List.length_modifyHead, ih, List.count_cons_of_ne feed]

end Utf8

end NotebookAudit

import NotebookAudit.Proofs.Json.Grammar

/-!
Reading the strings of JSON texts.

The reader of strings takes a text up to a quote exactly if what stands in front of the quote is the
body of a string, and then gives the text that the body spells (`Json.body_of_readChars`,
`Json.readChars_of_body`).
-/

namespace NotebookAudit.Json

variable {start position width : Nat} {done s t u rest after tail digits : Text} {c d : CodePoint}

theorem length_of_hex4? {n : Nat} (spelled : hex4? digits = some n) : digits.length = 4 := by
  unfold hex4? at spelled
  split at spelled
  · rfl
  · cases spelled

/-! ## Unicode escapes -/

/-- A Unicode escape that is read, with text behind it. -/
theorem readUnicodeEscape_append (isFour : digits.length = 4) (more : after ≠ []) :
    readUnicodeEscape position (digits ++ after) =
      match hex4? digits with
      | none => .error (.malformed .badUnicodeEscape position)
      | some c =>
        if isHighSurrogate c && 6 < after.length && Text.startsWith after "\\u" then
          match hex4? ((after.drop 2).take 4) with
          | none => .error (.malformed .badUnicodeEscape (position + 6))
          | some d => .ok (if isLowSurrogate d then (joinSurrogates c d, 10) else (c, 4))
        else .ok (c, 4) := by
  have enough : ¬ (digits ++ after).length ≤ 4 := by
    have := List.length_pos_iff.mpr more
    rw [List.length_append]
    omega
  have unfolded := readUnicodeEscape.eq_def position (digits ++ after)
  rw [if_neg enough, List.take_left' isFour, List.drop_left' isFour] at unfolded
  exact unfolded

theorem startsWith_escape :
    Text.startsWith after "\\u" = true ↔ ∃ rest, after = 0x5c :: 0x75 :: rest := by
  constructor
  · intro starts
    obtain ⟨rest, rfl⟩ := List.isPrefixOf_iff_prefix.mp starts
    exact ⟨rest, rfl⟩
  · intro starts
    obtain ⟨rest, rfl⟩ := starts
    rfl

/-- A Unicode escape that is read is one of the grammar. -/
theorem body_of_readUnicodeEscape (read : readUnicodeEscape position rest = .ok (d, width))
    (goesOn : rest.drop width = s ++ 0x22 :: tail) (body : Body s t) :
    Body (0x5c :: 0x75 :: (rest.take width ++ s)) (d :: t) := by
  have enough : 4 < rest.length := by
    refine Nat.lt_of_not_le fun few => ?_
    rw [readUnicodeEscape, if_pos few] at read
    cases read
  obtain ⟨digits, after, isFour, rfl⟩ : ∃ digits after, digits.length = 4 ∧ rest = digits ++ after :=
    ⟨rest.take 4, rest.drop 4, by rw [List.length_take]; omega, (List.take_append_drop 4 rest).symm⟩
  have more : after ≠ [] := by
    rintro rfl
    rw [List.append_nil] at enough
    omega
  rw [readUnicodeEscape_append isFour more] at read
  split at read
  · cases read
  next c spelled =>
  split at read
  · next pairs =>
    rw [Bool.and_eq_true, Bool.and_eq_true, decide_eq_true_iff, startsWith_escape] at pairs
    obtain ⟨⟨isHigh, long⟩, second, rfl⟩ := pairs
    split at read
    · cases read
    next low spelled' =>
    rw [List.drop_succ_cons, List.drop_succ_cons, List.drop_zero] at spelled'
    split at read
    · next isLow =>
      obtain ⟨rfl, rfl⟩ := Prod.mk.inj (Except.ok.inj read)
      have whole : (digits ++ 0x5c :: 0x75 :: second).take 10 =
          digits ++ 0x5c :: 0x75 :: second.take 4 := by
        rw [List.take_append, isFour, List.take_of_length_le (by omega)]
        rfl
      rw [whole, List.append_assoc]
      exact .pair spelled isHigh spelled' isLow body
    · next notLow =>
      obtain ⟨rfl, rfl⟩ := Prod.mk.inj (Except.ok.inj read)
      rw [List.drop_left' isFour] at goesOn
      rw [List.take_left' isFour]
      refine .unit spelled (fun _ follows => notLow ?_) body
      obtain ⟨digits', low', rest, spelled'', isLow, rfl⟩ := follows
      have same : second = digits' ++ (rest ++ 0x22 :: tail) := by
        simpa using goesOn
      rw [same, List.take_left' (length_of_hex4? spelled''), spelled''] at spelled'
      cases spelled'
      exact isLow
  · next single =>
    cases read
    rw [List.drop_left' isFour] at goesOn
    rw [List.take_left' isFour]
    refine .unit spelled (fun isHigh follows => single ?_) body
    obtain ⟨digits', low, rest, spelled', -, rfl⟩ := follows
    have isFour' := length_of_hex4? spelled'
    rw [Bool.and_eq_true, Bool.and_eq_true, decide_eq_true_iff, startsWith_escape]
    refine ⟨⟨isHigh, ?_⟩, _, goesOn⟩
    rw [goesOn]
    simp
    omega

/-- A Unicode escape that is not the first half of a surrogate pair is read by itself. -/
theorem readUnicodeEscape_unit (spelled : hex4? digits = some c)
    (single : isHighSurrogate c = true → ¬ StartsWithLow s) (body : Body s t) :
    readUnicodeEscape position (digits ++ (s ++ 0x22 :: tail)) = .ok (c, 4) := by
  have isFour := length_of_hex4? spelled
  rw [readUnicodeEscape_append isFour (by simp), spelled]
  dsimp only
  split
  · next pairs =>
    rw [Bool.and_eq_true, Bool.and_eq_true, startsWith_escape] at pairs
    obtain ⟨⟨isHigh, -⟩, rest, follows⟩ := pairs
    have alone := single isHigh
    -- What follows is another Unicode escape of the body, and not a second half.
    cases body with
    | nil => cases follows
    | plain visible notQuote notBackslash body =>
        exact absurd (List.cons.inj follows).1 notBackslash
    | @letter c' d' s t escaped body =>
        have isUnicode : c' = 0x75 := (List.cons.inj (List.cons.inj follows).2).1
        rw [isUnicode] at escaped
        cases escaped
    | @unit digits' c' s t spelled' single' body =>
        have second : ((0x5c :: 0x75 :: (digits' ++ s) ++ 0x22 :: tail).drop 2).take 4 = digits' := by
          show (digits' ++ s ++ 0x22 :: tail).take 4 = digits'
          rw [List.append_assoc, List.take_left' (length_of_hex4? spelled')]
        have notLow : ¬ isLowSurrogate c' = true := fun isLow =>
          alone ⟨digits', c', s, spelled', isLow, rfl⟩
        rw [second, spelled']
        dsimp only
        rw [if_neg notLow]
    | @pair digits' digits'' high low s t first isHigh' second isLow body =>
        have half : ((0x5c :: 0x75 :: (digits' ++ 0x5c :: 0x75 :: (digits'' ++ s)) ++
            0x22 :: tail).drop 2).take 4 = digits' := by
          show (digits' ++ _ ++ 0x22 :: tail).take 4 = digits'
          rw [List.append_assoc, List.take_left' (length_of_hex4? first)]
        have notLow : ¬ isLowSurrogate high = true := fun isLow =>
          alone ⟨digits', high, _, first, isLow, rfl⟩
        rw [half, first]
        dsimp only
        rw [if_neg notLow]
  · rfl

/-- The halves of a surrogate pair are read together. -/
theorem readUnicodeEscape_pair {digits' : Text} {high low : CodePoint}
    (first : hex4? digits = some high) (isHigh : isHighSurrogate high = true)
    (second : hex4? digits' = some low) (isLow : isLowSurrogate low = true) (more : rest ≠ []) :
    readUnicodeEscape position (digits ++ 0x5c :: 0x75 :: (digits' ++ rest)) =
      .ok (joinSurrogates high low, 10) := by
  have isFour := length_of_hex4? second
  have pairs : (isHighSurrogate high && 6 < (0x5c :: 0x75 :: (digits' ++ rest)).length &&
      Text.startsWith (0x5c :: 0x75 :: (digits' ++ rest)) "\\u") = true := by
    rw [Bool.and_eq_true, Bool.and_eq_true, decide_eq_true_iff, startsWith_escape]
    refine ⟨⟨isHigh, ?_⟩, _, rfl⟩
    have := List.length_pos_iff.mpr more
    simp
    omega
  have half : ((0x5c :: 0x75 :: (digits' ++ rest)).drop 2).take 4 = digits' := List.take_left' isFour
  rw [readUnicodeEscape_append (length_of_hex4? first) (by simp), first]
  dsimp only
  rw [if_pos pairs, half, second]
  dsimp only
  rw [if_pos isLow]

/-! ## Escapes -/

/-- An escape that is read is one of the grammar. -/
theorem body_of_readEscape (read : readEscape start position rest = .ok (d, width))
    (goesOn : rest.drop width = s ++ 0x22 :: tail) (body : Body s t) :
    Body (0x5c :: (rest.take width ++ s)) (d :: t) := by
  unfold readEscape at read
  split at read
  · cases read
  next c rest =>
  split at read
  · next unicode =>
    subst unicode
    cases escape : readUnicodeEscape (position + 1) rest with
    | error f =>
        rw [escape] at read
        cases read
    | ok r =>
        rw [escape] at read
        obtain ⟨rfl, rfl⟩ := Prod.mk.inj (Except.ok.inj read)
        exact body_of_readUnicodeEscape escape goesOn body
  · next notUnicode =>
    split at read
    · next d' escaped =>
      cases read
      exact .letter escaped body
    · cases read

/-! ## Strings -/

/-- A text that is read up to a quote is the body of a string. -/
theorem body_of_readChars {after : Cursor} (read : readChars start position done u = .ok (t, after)) :
    ∃ body chars, Body body chars ∧ t = done.reverse ++ chars ∧ u = body ++ 0x22 :: after.rest := by
  fun_induction readChars start position done u with
  | case1 => cases read
  | case2 position done rest =>
      cases read
      exact ⟨[], [], .nil, (List.append_nil _).symm, rfl⟩
  | case3 => cases read
  | case4 position done rest d width escape _ ih =>
      obtain ⟨body, chars, isBody, rfl, split⟩ := ih read
      refine ⟨_, d :: chars, body_of_readEscape escape split isBody, by simp, ?_⟩
      rw [List.cons_append, List.append_assoc, ← split, List.take_append_drop]
  | case5 => cases read
  | case6 position done c rest notQuote notBackslash visible ih =>
      obtain ⟨body, chars, isBody, rfl, rfl⟩ := ih read
      exact ⟨c :: body, c :: chars, .plain (Nat.lt_of_not_le visible) notQuote notBackslash isBody,
        by simp, rfl⟩

theorem readEscape_letter (escaped : escapedChar? c = some d) :
    readEscape start position (c :: rest) = .ok (d, 1) := by
  have notUnicode : c ≠ 0x75 := by
    rintro rfl
    cases escaped
  rw [readEscape, if_neg notUnicode, escaped]

theorem readEscape_unicode (escape : readUnicodeEscape (position + 1) rest = .ok (d, width)) :
    readEscape start position (0x75 :: rest) = .ok (d, width + 1) := by
  rw [readEscape, if_pos rfl, escape]
  rfl

/-- An escape is read, and then what comes behind it. -/
theorem readChars_escape (escape : readEscape start position u = .ok (d, width))
    (goesOn : u.drop width = rest) :
    readChars start position done (0x5c :: u) =
      readChars start (position + 1 + width) (d :: done) rest := by
  rw [readChars, if_neg (by decide), if_pos rfl, escape, ← goesOn]

/-- The body of a string is read up to its quote. -/
theorem readChars_of_body (body : Body s t) (start position : Nat) (done rest : Text) :
    ∃ p, readChars start position done (s ++ 0x22 :: rest) = .ok (done.reverse ++ t, ⟨p, rest⟩) := by
  have shift (done : Text) (d : CodePoint) (t : Text) :
      done.reverse ++ d :: t = (d :: done).reverse ++ t := by simp
  induction body generalizing position done with
  | nil =>
      rw [List.nil_append, readChars, if_pos rfl, List.append_nil]
      exact ⟨_, rfl⟩
  | @plain c s t visible notQuote notBackslash body ih =>
      rw [List.cons_append, readChars, if_neg notQuote, if_neg notBackslash,
        if_neg (Nat.not_le.mpr visible), shift]
      exact ih _ _
  | @letter c d s t escaped body ih =>
      rw [List.cons_append, List.cons_append, readChars_escape (readEscape_letter escaped) rfl, shift]
      exact ih _ _
  | @unit digits c s t spelled single body ih =>
      have whole : 0x5c :: 0x75 :: (digits ++ s) ++ 0x22 :: rest =
          0x5c :: 0x75 :: (digits ++ (s ++ 0x22 :: rest)) := by simp
      have goesOn : (0x75 :: (digits ++ (s ++ 0x22 :: rest))).drop 5 = s ++ 0x22 :: rest :=
        List.drop_left' (length_of_hex4? spelled)
      rw [whole, readChars_escape
        (readEscape_unicode (readUnicodeEscape_unit spelled single body)) goesOn, shift]
      exact ih _ _
  | @pair digits digits' high low s t first isHigh second isLow body ih =>
      have whole : 0x5c :: 0x75 :: (digits ++ 0x5c :: 0x75 :: (digits' ++ s)) ++ 0x22 :: rest =
          0x5c :: 0x75 :: (digits ++ 0x5c :: 0x75 :: (digits' ++ (s ++ 0x22 :: rest))) := by simp
      have goesOn : (0x75 :: (digits ++ 0x5c :: 0x75 :: (digits' ++ (s ++ 0x22 :: rest)))).drop 11 =
          s ++ 0x22 :: rest := by
        show (digits ++ 0x5c :: 0x75 :: (digits' ++ (s ++ 0x22 :: rest))).drop (4 + 6) = _
        rw [← List.drop_drop, List.drop_left' (length_of_hex4? first)]
        exact List.drop_left' (length_of_hex4? second)
      rw [whole, readChars_escape
        (readEscape_unicode (readUnicodeEscape_pair first isHigh second isLow (by simp))) goesOn,
        shift]
      exact ih _ _

end NotebookAudit.Json

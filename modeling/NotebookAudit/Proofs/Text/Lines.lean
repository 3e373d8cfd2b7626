import NotebookAudit.Proofs.Text.LossyLines

/-!
Lines with and without their line feeds.

A text is one line, or a line in front of a line feed and a text (`Text.line_induction`). So it is
cut into its lines (`Text.lines`), which hold no line feeds, or into its lines with their line feeds
(`Text.endedLines`), of which the last is left out if it is empty. Lines are read back from the text
that they are joined to exactly if they hold no line feeds (`Text.lines_joinWith_iff`).
-/

namespace NotebookAudit.Text

variable {line t : Text}

/-- What holds of a text without line feeds, and of a line in front of a text of which it holds,
holds of every text. -/
@[elab_as_elim]
theorem line_induction {motive : Text → Prop} (last : ∀ line, 0x0a ∉ line → motive line)
    (more : ∀ line rest, 0x0a ∉ line → motive rest → motive (line ++ 0x0a :: rest)) (t : Text) :
    motive t := by
  by_cases member : 0x0a ∈ t
  · obtain ⟨line, rest, split, noFeed⟩ := List.eq_append_cons_of_mem member
    rw [split]
    exact more line rest noFeed (line_induction last more rest)
  · exact last t member
termination_by t.length
decreasing_by
  rw [split, List.length_append, List.length_cons]
  omega

/-! ## Lines without their line feeds -/

theorem lines_of_noFeed (noFeed : 0x0a ∉ line) : line.lines = [line] := by
  rw [lines, cutAt_eq_splitOn, List.splitOn_eq_singleton noFeed]

theorem lines_append (noFeed : 0x0a ∉ line) (rest : Text) :
    (line ++ 0x0a :: rest).lines = line :: rest.lines := by
  rw [lines, cutAt_eq_splitOn, List.splitOn_append_cons_self_of_not_mem noFeed, lines,
    cutAt_eq_splitOn]

theorem noFeed_of_mem_lines (member : line ∈ t.lines) : 0x0a ∉ line := by
  induction t using line_induction with
  | last l noFeed =>
      rw [lines_of_noFeed noFeed, List.mem_singleton] at member
      rw [member]
      exact noFeed
  | more l rest noFeed ih =>
      rw [lines_append noFeed] at member
      rcases List.mem_cons.mp member with rfl | later
      · exact noFeed
      · exact ih later

/-- Lines are read back from the text that they are joined to exactly if they hold no line feeds. -/
theorem lines_joinWith_iff {list : List Text} (nonempty : list ≠ []) :
    (joinWith 0x0a list).lines = list ↔ ∀ line ∈ list, 0x0a ∉ line := by
  constructor
  · intro same line member
    rw [← same] at member
    exact noFeed_of_mem_lines member
  · intro noFeed
    induction list with
    | nil => exact absurd rfl nonempty
    | cons line rest ih =>
        rw [List.forall_mem_cons] at noFeed
        cases rest with
        | nil => exact lines_of_noFeed noFeed.1
        | cons next others =>
            have joined := ih (List.cons_ne_nil _ _) noFeed.2
            show (line ++ 0x0a :: joinWith 0x0a (next :: others)).lines = _
            rw [lines_append noFeed.1, joined]

/-! ## Lines with their line feeds -/

/-- The lines of a text, each with its line feed. A last line without characters is left out. -/
def endedLines : Text → List Text
  | [] => []
  | c :: rest =>
    if c = 0x0a then [c] :: endedLines rest
    else match endedLines rest with
      | [] => [[c]]
      | line :: more => (c :: line) :: more

theorem endedLines_of_noFeed (nonempty : line ≠ []) (noFeed : 0x0a ∉ line) :
    line.endedLines = [line] := by
  induction line with
  | nil => exact absurd rfl nonempty
  | cons c rest ih =>
      rw [List.mem_cons, not_or] at noFeed
      rw [endedLines, if_neg (Ne.symm noFeed.1)]
      cases rest with
      | nil => rfl
      | cons d others => rw [ih (List.cons_ne_nil _ _) noFeed.2]

theorem endedLines_append (noFeed : 0x0a ∉ line) (rest : Text) :
    (line ++ 0x0a :: rest).endedLines = (line ++ [0x0a]) :: rest.endedLines := by
  induction line with
  | nil => rfl
  | cons c others ih =>
      rw [List.mem_cons, not_or] at noFeed
      rw [List.cons_append, endedLines, if_neg (Ne.symm noFeed.1), ih noFeed.2]
      rfl

end NotebookAudit.Text

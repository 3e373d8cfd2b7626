import NotebookAudit.Proofs.Pattern.Step

/-!
The reading of escapes and sets is plain: it stops only at faults of the pattern, reads on, and
leaves the switches as they are (`Plain.readEscape`, `Plain.readSet`).
-/

namespace NotebookAudit.Pattern.Plain

/-! ## Escapes -/

theorem badEscape {α : Type} (escape : Text) : Plain (badEscape escape : ReadM α) := .fail _ _

theorem readHexEscape (escape : Text) (n : Nat) : Plain (readHexEscape escape n) :=
  .bind (.takeWhile _ _) fun _ => .guard (.fail _ _) <|
    .ite (.pure _) (.ite (.badEscape _) (.refuse _))

theorem readNamedEscape : Plain readNamedEscape := by
  refine .bind (.accept _) fun opened => .guard (.fail _ _) <| .bind (.takeName _ _) fun name => ?_
  split
  · exact .pure _
  · exact .fail _ _

theorem octalValue (escape : Text) : Plain (octalValue escape) :=
  .ite (.bind (.fail _ _) fun _ => .pure _) (.pure _)

theorem readCharEscape? (t : Token) : Plain (readCharEscape? t) :=
  .ite (.bind (.readHexEscape _ _) fun _ => .pure _) <|
    .ite (.bind (.readHexEscape _ _) fun _ => .pure _) <|
      .ite (.bind (.readHexEscape _ _) fun _ => .pure _) <|
        .ite (.bind .readNamedEscape fun _ => .pure _) (.pure _)

theorem readOtherEscape (t : Token) : Plain (readOtherEscape t) := .ite (.badEscape _) (.pure _)

theorem readSetEscape (t : Token) : Plain (readSetEscape t) := by
  unfold Pattern.readSetEscape
  split
  · exact .pure _
  · split
    · exact .pure _
    · refine .bind (.readCharEscape? t) fun c => ?_
      split
      · exact .pure _
      · refine .ite (.bind (.takeWhile _ _) fun _ => .bind (.octalValue _) fun _ => .pure _) ?_
        exact .guard (.badEscape _) (.bind (.readOtherEscape _) fun _ => .pure _)

theorem readNumberedBackref (escape : Text) : Plain (readNumberedBackref escape) :=
  .bind .get fun _ =>
    .ite (.bind (.checkClosed _ _) fun _ => .backrefTo _) (.fail _ _)

theorem readDigitEscape (t : Token) : Plain (readDigitEscape t) := by
  refine .bind .peek fun second => ?_
  cases second with
  | none => exact .readNumberedBackref _
  | some second =>
      refine .ite (.bind .take? fun _ => .bind .peek fun third => ?_) (.readNumberedBackref _)
      refine .ite (.bind (.takeWhile _ _) fun _ => ?_) (.readNumberedBackref _)
      exact .bind (.octalValue _) fun _ => .pure _

theorem readEscape (t : Token) : Plain (readEscape t) := by
  unfold Pattern.readEscape
  split
  · exact .pure _
  · split
    · exact .pure _
    · split
      · exact .pure _
      · refine .bind (.readCharEscape? t) fun c => ?_
        split
        · exact .pure _
        · refine .ite (.bind (.takeWhile _ _) fun _ => .pure _) ?_
          exact .ite (.readDigitEscape _) (.bind (.readOtherEscape _) fun _ => .pure _)

/-! ## Sets -/

theorem readSetPart (t : Token) : Plain (readSetPart t) := .ite (.readSetEscape _) (.pure _)

theorem readSetItems (start : Nat) (done : List SetItem) (fuel : Nat) :
    Plain (readSetItems start done fuel) := by
  induction fuel generalizing done with
  | zero => exact .pure _
  | succ fuel ih =>
      refine .bind .take? fun next => ?_
      cases next with
      | none => exact .refuse _
      | some this =>
          refine .ite (.pure _) (.bind (.readSetPart _) fun low => ?_)
          refine .bind (.accept _) fun isRange => ?_
          refine .ite (.bind .take? fun next => ?_) (ih _)
          cases next with
          | none => exact .refuse _
          | some that =>
              refine .ite (.pure _) (.bind (.readSetPart _) fun high => ?_)
              dsimp only
              split
              · exact .ite (.fail _ _) (ih _)
              · exact .fail _ _

theorem readSet (start : Nat) : Plain (readSet start) := by
  refine .bind (.accept _) fun negated => .bind .remaining fun _ => ?_
  refine .bind (.readSetItems _ _ _) fun items => ?_
  dsimp only
  split
  · exact .pure _
  · exact .pure _

end NotebookAudit.Pattern.Plain

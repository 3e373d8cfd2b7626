import NotebookAudit.Proofs.Rule.Isolation
import NotebookAudit.Proofs.Symbol.ImportedName
import NotebookAudit.Proofs.Text.Start

/-!
Lines that no rule is looked for in.

A line is left out exactly if it begins, trimmed and in any case, with `#`, `import` or `from`
(`isSkippedLine_iff`). So every line from which an import is read is left out, and no rule reports
anything at the place of an import (`Notebook.imports_exempt`). On every other line each enabled rule
that is found is reported (`RuleSet.others_searched`). The beginning need not be a word of its own: the
line of a widget variable is left out if the name of the variable begins that way, which
`RuleSet.widget_unsearched` shows.
-/

namespace NotebookAudit

/-! ## The beginning of a line -/

/-- The words that an import begins with. -/
def importKeywords : List Text := ["import", "from"]

namespace Text

/-- The line is a comment: a number sign is its first character that is no blank. -/
def IsComment (line : Text) : Prop := line.trim.head? = some 0x23

/-- The line is an import statement: it begins with `import` or `from`, in any case and as a whole
word. -/
def IsImportStatement (line : Text) : Prop :=
  ∃ keyword ∈ importKeywords, line.trim.BeginsInAnyCase keyword ∧
    ∀ c ∈ (line.trim.drop keyword.length).head?, c.isWord = false

/-- The line begins with `import` or `from`, in any case and as a part of a word as well. -/
def BeginsLikeImport (line : Text) : Prop := ∃ keyword ∈ importKeywords, line.BeginsInAnyCase keyword

instance (line : Text) : Decidable line.IsComment :=
  inferInstanceAs (Decidable (line.trim.head? = some 0x23))

instance (line : Text) : Decidable line.IsImportStatement :=
  inferInstanceAs (Decidable (∃ keyword ∈ importKeywords, _ ∧ _))

instance (line : Text) : Decidable line.BeginsLikeImport :=
  inferInstanceAs (Decidable (∃ keyword ∈ importKeywords, _))

theorem beginsInAnyCase_sign_iff {t : Text} : t.BeginsInAnyCase "#" ↔ t.head? = some 0x23 := by
  have sign : Text.ofString "#" = [0x23] := by decide
  rw [BeginsInAnyCase, sign]
  cases t with
  | nil => simp
  | cons c rest =>
      have ascii : ∀ d < 128, 0x23 = CodePoint.asciiLower d ↔ d = 0x23 := by decide +kernel
      have isSign : 0x23 = c.asciiLower ↔ c = 0x23 := by
        by_cases small : c < 128
        · exact ascii c small
        · rw [CodePoint.asciiLower_of_not_ascii (Nat.not_lt.mp small), eq_comm]
      rw [List.map_cons, List.cons_prefix_cons, isSign, List.head?_cons, Option.some_inj]
      exact and_iff_left List.nil_prefix

end Text

/-- A line is left out exactly if it is a comment or begins like an import. -/
theorem isSkippedLine_iff {line : Text} :
    isSkippedLine line = true ↔ line.IsComment ∨ line.trim.BeginsLikeImport := by
  -- no `k` and no `i` at the end: characters outside ASCII cannot be lowered into one of the words
  have fromAscii : ∀ start ∈ skippedStarts, start.LowersFromAscii := by
    have each : ∀ start ∈ skippedStarts,
        (∀ c ∈ start, c < 128 ∧ c ≠ 0x6b) ∧ start.getLast? ≠ some 0x69 := by decide
    exact fun start member => ⟨(each start member).1, (each start member).2⟩
  have starts : isSkippedLine line = true ↔
      ∃ start ∈ skippedStarts, line.trim.BeginsInAnyCase start := by
    rw [isSkippedLine, List.any_eq_true]
    exact exists_congr fun start =>
      and_congr_right fun member => Text.startsWith_lower_iff (fromAscii start member)
  have parts : skippedStarts = Text.ofString "#" :: importKeywords := rfl
  rw [starts, parts, List.exists_mem_cons_iff, Text.beginsInAnyCase_sign_iff, Text.IsComment,
    Text.BeginsLikeImport]

/-! ## Lines of declarations -/

/-- Whether a line is a comment only the blanks in front decide. -/
theorem isComment_iff {line : Text} : line.IsComment ↔ line.trimStart.head? = some 0x23 := by
  have solid : ∀ c ∈ (Text.ofString "#").getLast?, c.isBlank = false := by decide +kernel
  rw [Text.IsComment, ← Text.beginsInAnyCase_sign_iff, Text.beginsInAnyCase_trim_iff solid,
    Text.beginsInAnyCase_sign_iff]

theorem beginsLikeImport_trim_iff {line : Text} :
    line.trim.BeginsLikeImport ↔ line.trimStart.BeginsLikeImport := by
  have solid : ∀ keyword ∈ importKeywords, ∀ c ∈ keyword.getLast?, c.isBlank = false := by
    decide +kernel
  exact exists_congr fun keyword =>
    and_congr_right fun member => Text.beginsInAnyCase_trim_iff (solid keyword member)

theorem beginsLikeImport_append {keyword : Text} (member : keyword ∈ importKeywords)
    (rest : Text) : (keyword ++ rest).BeginsLikeImport := by
  have small : ∀ keyword ∈ importKeywords, keyword.map CodePoint.asciiLower = keyword := by
    decide
  exact ⟨keyword, member, Text.beginsInAnyCase_append_self (small keyword member) rest⟩

namespace Declaration

variable {line s : Text}

/-- A line from which an import is read begins with the keyword of its form. -/
theorem keyword_of_importedSymbol? (imported : importedSymbol? line = some s) :
    ∃ keyword ∈ importKeywords, ∃ rest, line.trimStart = keyword ++ rest := by
  rcases (Option.orElse_eq_some _ _ _).mp imported with first | ⟨-, second⟩
  · simp only [importSymbol?, Option.bind_eq_bind, Option.bind_eq_some_iff] at first
    obtain ⟨rest, word, -⟩ := first
    exact ⟨_, .head _, rest, takeWord?_eq_some_iff.mp word⟩
  · simp only [fromSymbol?, Option.bind_eq_bind, Option.bind_eq_some_iff] at second
    obtain ⟨rest, word, -⟩ := second
    exact ⟨_, .tail _ (.head _), rest, takeWord?_eq_some_iff.mp word⟩

/-- A line from which an import is read is left out. -/
theorem isSkippedLine_of_importedSymbol? (imported : importedSymbol? line = some s) :
    isSkippedLine line = true := by
  obtain ⟨keyword, member, rest, split⟩ := keyword_of_importedSymbol? imported
  rw [isSkippedLine_iff, beginsLikeImport_trim_iff, split]
  exact .inr (beginsLikeImport_append member rest)

/-- A line that assigns a widget begins with its variable, and no identifier character follows. -/
theorem start_of_widgetSymbol? (assigned : widgetSymbol? line = some s) :
    ∃ rest, line.trimStart = s ++ rest ∧ IsIdentifier s ∧
      ∀ c ∈ rest.head?, c.isAsciiWord = false := by
  simp only [widgetSymbol?, Option.bind_eq_bind, Option.bind_eq_some_iff] at assigned
  obtain ⟨⟨id, rest⟩, taken, _, -, _, -, _, -, same⟩ := assigned
  cases same
  exact ⟨rest, takeIdentifier?_eq_some_iff.mp taken⟩

/-- A line that assigns a widget is left out exactly if its variable begins like an import. -/
theorem isSkippedLine_iff_of_widgetSymbol? (assigned : widgetSymbol? line = some s) :
    isSkippedLine line = true ↔ s.BeginsLikeImport := by
  obtain ⟨rest, split, isIdentifier, ends⟩ := start_of_widgetSymbol? assigned
  have chars : ∀ keyword ∈ importKeywords, ∀ c ∈ keyword, c.isAsciiWord = true := by
    decide +kernel
  have noComment : ¬ line.IsComment := by
    rw [isComment_iff, split, List.head?_append_of_ne_nil _ isIdentifier.nonempty]
    intro head
    exact absurd (isIdentifier.chars _ (List.mem_of_head? head)) (by decide)
  have sameStart : line.trim.BeginsLikeImport ↔ s.BeginsLikeImport := by
    rw [beginsLikeImport_trim_iff, split]
    exact exists_congr fun keyword =>
      and_congr_right fun member => Text.beginsInAnyCase_append_iff (chars keyword member) ends
  rw [isSkippedLine_iff, sameStart, or_iff_right noComment]

end Declaration

/-! ## Imports -/

namespace Notebook

/-- A line from which an import is read is left out of the search for rules. So no finding of a search
is at the place of an import of the notebook. -/
theorem imports_exempt (n : Notebook) :
    (∀ line s, Declaration.importedSymbol? line = some s → isSkippedLine line = true) ∧
      ∀ (set : RuleSet) document findings, set.scan n document = .ok findings →
        ∀ d ∈ n.imports, ∀ f ∈ findings,
          ¬ (f.cellNumber = some (d.cell + 1) ∧ f.lineNumber = some (d.line + 1)) := by
  refine ⟨fun line s => Declaration.isSkippedLine_of_importedSymbol?, ?_⟩
  rintro set document findings searched d declared f member ⟨cellNumber, lineNumber⟩
  obtain ⟨l, lineIn, s, imported, rfl⟩ := mem_declarations.mp declared
  have skipped := Declaration.isSkippedLine_of_importedSymbol? imported
  obtain ⟨-, rfl⟩ := RuleSet.scan_eq_ok_iff.mp searched
  rcases List.mem_append.mp member with onLine | ofFailure
  · -- the line of the finding is that of the import, as the numbers tell the line
    obtain ⟨m, otherIn, c, -, notSkipped, -, rfl⟩ := RuleSet.mem_matchFindings.mp onLine
    have sameLine : m = l := codeLines_place_injective otherIn lineIn
      (Nat.succ.inj (Option.some.inj cellNumber)) (Nat.succ.inj (Option.some.inj lineNumber))
    rw [sameLine, skipped] at notSkipped
    cases notSkipped
  · obtain ⟨failure, -, rfl⟩ := List.mem_map.mp ofFailure
    cases cellNumber

/-- A notebook with an import behind a blank outside ASCII, and with a line feed in it. -/
def blankImport : Notebook := ⟨[⟨.markdown, ["import x"]⟩, ⟨.code, ["x = 1", "\u2003import\nx"]⟩]⟩

/-- A rule that is found on every line is reported on the one line that is no import. -/
theorem imports_exempt_blankImport :
    Declaration.importedSymbol? "\u2003import\nx" = some (Text.ofString "x") ∧
      isSkippedLine "\u2003import\nx" = true ∧ ⟨"x", 1, 1, "import\nx"⟩ ∈ blankImport.imports ∧
      ∃ set findings, RuleSet.compile [RuleSet.plainRule] = .ok set ∧
        set.scan blankImport "job.ipynb" = .ok findings ∧
        findings.map (fun f => (f.cellNumber, f.lineNumber)) = [(some 2, some 1)] ∧
        ∀ f ∈ findings, ¬ (f.cellNumber = some 2 ∧ f.lineNumber = some 2) := by
  have imported : Declaration.importedSymbol? "\u2003import\nx" = some (Text.ofString "x") := by
    decide +kernel
  have declared : ⟨"x", 1, 1, "import\nx"⟩ ∈ blankImport.imports := by decide +kernel
  have places : ((RuleSet.compile [RuleSet.plainRule]).toOption.bind fun set =>
      (set.scan blankImport "job.ipynb").toOption.map
        (List.map fun f => (f.cellNumber, f.lineNumber))) = some [(some 2, some 1)] := by
    decide +kernel
  obtain ⟨set, compiled, searched⟩ := Option.bind_eq_some_iff.mp places
  obtain ⟨findings, searched, places⟩ := Option.map_eq_some_iff.mp searched
  obtain ⟨skipped, noFinding⟩ := imports_exempt blankImport
  have searched := toOption_eq_some_iff.mp searched
  exact ⟨imported, skipped _ _ imported, declared, set, findings, toOption_eq_some_iff.mp compiled,
    searched, places, noFinding set _ findings searched _ declared⟩

end Notebook

/-! ## All other lines -/

namespace Rule

variable {n : Notebook} {document : Text} {l : PlacedLine} {r : Rule} {p : Pattern}

/-- An enabled rule that is found on a searched line has a finding there. -/
theorem finding_mem_hits (enabled : r.enabled = true) (compiled : Pattern.compile r.pattern = .ok p)
    (searched : isSkippedLine l.text = false) (found : p.search l.text = .found) :
    r.finding n document l ∈ r.hits n document l := by
  have outcome : r.compiled? = some ⟨r, p⟩ := compiled?_eq_some_iff.mpr ⟨rfl, compiled⟩
  rw [hits, if_pos enabled, outcome, Option.toList_some, List.flatMap_singleton,
    CompiledRule.mem_hits]
  exact ⟨searched, found, rfl⟩

end Rule

namespace RuleSet

/-- A line is left out of the search exactly if it is a comment or begins with `import` or `from`, in any
case and as a part of a word as well. Every enabled rule that is found on another code line has a
finding there, unless a rule of the snapshot stops the compilation or breaks off the search. The line of
a widget variable is left out exactly if the variable begins with one of the two words. -/
theorem others_searched (rules : List Rule) (n : Notebook) (document : Text) :
    (∀ line, isSkippedLine line = true ↔ line.IsComment ∨ line.trim.BeginsLikeImport) ∧
      (findings? rules n document = none ↔ ∃ r ∈ rules, r.Stops ∨ r.BreaksOff n) ∧
      (∀ findings, findings? rules n document = some findings →
        ∀ l ∈ n.codeLines, ¬ l.text.IsComment → ¬ l.text.trim.BeginsLikeImport →
          ∀ r ∈ rules, r.enabled = true → ∀ p, Pattern.compile r.pattern = .ok p →
            p.search l.text = .found → r.finding n document l ∈ findings) ∧
      ∀ line s, Declaration.widgetSymbol? line = some s →
        (isSkippedLine line = true ↔ s.BeginsLikeImport) := by
  refine ⟨fun line => isSkippedLine_iff, ?_, ?_,
    fun line s => Declaration.isSkippedLine_iff_of_widgetSymbol?⟩
  · rw [← Option.not_isSome_iff_eq_none, findings?_isSome_iff]
    simp only [not_forall, not_not, exists_prop]
  · intro findings searched l lineIn noComment noImport r ruleIn enabled p compiled found
    obtain ⟨-, rfl⟩ := findings?_eq_some_iff.mp searched
    have notSkipped : isSkippedLine l.text = false := by
      rw [← Bool.not_eq_true, isSkippedLine_iff]
      exact not_or.mpr ⟨noComment, noImport⟩
    refine List.mem_append_left _ (List.mem_flatMap.mpr ⟨l, lineIn, ?_⟩)
    exact List.mem_flatMap.mpr ⟨r, ruleIn, Rule.finding_mem_hits enabled compiled notSkipped found⟩

/-- A widget variable whose name shares three letters with `from`. -/
def frontierLine : Text := "Frontera = dbutils.widgets.get('x')"

/-- The rule is found on the line of the variable and has a finding there. -/
theorem others_searched_frontier :
    Declaration.widgetSymbol? frontierLine = some (Text.ofString "Frontera") ∧
      isSkippedLine frontierLine = false ∧
      ∃ findings, findings? [plainRule] ⟨[⟨.code, [frontierLine]⟩]⟩ "job.ipynb" = some findings ∧
        plainRule.finding ⟨[⟨.code, [frontierLine]⟩]⟩ "job.ipynb" ⟨0, 0, frontierLine⟩ ∈ findings := by
  have assigned : Declaration.widgetSymbol? frontierLine = some (Text.ofString "Frontera") := by
    decide +kernel
  have noImport : ¬ (Text.ofString "Frontera").BeginsLikeImport := by decide +kernel
  have searched : (findings? [plainRule] ⟨[⟨.code, [frontierLine]⟩]⟩ "job.ipynb").isSome = true := by
    decide +kernel
  have isFound : (Pattern.compile plainRule.pattern).toOption.map (·.search frontierLine) =
      some .found := by
    decide +kernel
  obtain ⟨p, compiled, found⟩ := Option.map_eq_some_iff.mp isFound
  obtain ⟨findings, searched⟩ := Option.isSome_iff_exists.mp searched
  obtain ⟨-, -, reported, skipped⟩ :=
    others_searched [plainRule] ⟨[⟨.code, [frontierLine]⟩]⟩ "job.ipynb"
  refine ⟨assigned, ?_, findings, searched, ?_⟩
  · rw [← Bool.not_eq_true, skipped _ _ assigned]
    exact noImport
  · exact reported findings searched ⟨0, 0, frontierLine⟩ (by decide +kernel) (by decide +kernel)
      (by decide +kernel) plainRule (.head _) rfl p (toOption_eq_some_iff.mp compiled) found

/-- A widget variable whose name begins with `from`. -/
def widgetLine : Text := "from_date = dbutils.widgets.get('x')"

/-- An enabled rule is found on a line that is neither a comment nor an import statement. -/
structure FoundOnStatement (r : Rule) (line : Text) : Prop where
  noComment : ¬ line.IsComment
  noImport : ¬ line.IsImportStatement
  enabled : r.enabled = true
  found : (Pattern.compile r.pattern).toOption.map (·.search line) = some .found

/-- The line of the widget variable is no import statement, and it is left out all the same: the rule
that is found on it has no finding. Nor has it one on a line on which another rule breaks off. -/
theorem widget_unsearched :
    (Declaration.widgetSymbol? widgetLine = some (Text.ofString "from_date") ∧
      FoundOnStatement plainRule widgetLine ∧ isSkippedLine widgetLine = true ∧
      findings? [plainRule] ⟨[⟨.code, [widgetLine]⟩]⟩ "job.ipynb" = some []) ∧
    FoundOnStatement plainRule "xyz" ∧ isSkippedLine "xyz" = false ∧
      findings? [possessiveRule, plainRule] xyzNotebook "job.ipynb" = none := by
  refine ⟨⟨by decide +kernel, ?_, by decide +kernel, by decide +kernel⟩, ?_, by decide +kernel,
    by decide +kernel⟩
  · exact ⟨by decide +kernel, by decide +kernel, rfl, by decide +kernel⟩
  · exact ⟨by decide +kernel, by decide +kernel, rfl, by decide +kernel⟩

end RuleSet

end NotebookAudit

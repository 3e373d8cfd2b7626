import Mathlib.Data.List.Forall2
import NotebookAudit.Proofs.Pattern.CaseSwitch
import NotebookAudit.Proofs.Rule.Compilation
import NotebookAudit.Proofs.Rule.SkippedLines

/-!
Rules and the case of ASCII letters.

A rule whose pattern has no group that turns `ignoreCase` off is found in one of two recased lines
exactly if it is found in the other, and either both lines are searched or none. So when the letters
of a notebook are recased, the search ends in the same way, and its findings are the same except for
the line and the cell that they show (`RuleSet.scan_recased`).
-/

namespace NotebookAudit

/-! ## Searches that end alike -/

section Alike

variable {ε α β γ δ : Type} {R : α → β → Prop} {S : γ → δ → Prop}

/-- Both computations end in the same error, or in values that are related. -/
inductive EndAlike (R : α → β → Prop) : Except ε α → Except ε β → Prop
  | ok {a : α} {b : β} (related : R a b) : EndAlike R (.ok a) (.ok b)
  | error (e : ε) : EndAlike R (.error e) (.error e)

theorem EndAlike.bind {r : Except ε α} {r' : Except ε β} {f : α → Except ε γ} {g : β → Except ε δ}
    (first : EndAlike R r r') (rest : ∀ a b, R a b → EndAlike S (f a) (g b)) :
    EndAlike S (r >>= f) (r' >>= g) := by
  cases first with
  | ok related => exact rest _ _ related
  | error e => exact .error e

/-- Lists that are mapped item by item to alike ends have alike ends themselves. -/
theorem EndAlike.mapM {ι κ : Type} {f : ι → Except ε α} {g : κ → Except ε β} {xs : List ι}
    {ys : List κ} (each : List.Forall₂ (fun x y => EndAlike R (f x) (g y)) xs ys) :
    EndAlike (List.Forall₂ R) (xs.mapM f) (ys.mapM g) := by
  induction each with
  | nil => exact .ok .nil
  | cons first others ih =>
      rw [List.mapM_cons, List.mapM_cons]
      exact first.bind fun _ _ related => ih.bind fun _ _ more => .ok (.cons related more)

end Alike

/-! ## Recased notebooks -/

/-- Two lines at the same place that differ only in the case of letters of ASCII. -/
structure PlacedLine.Recased (l k : PlacedLine) : Prop where
  cell : l.cell = k.cell
  line : l.line = k.line
  text : l.text.Recased k.text

/-- Two cells of one kind whose lines differ only in the case of letters of ASCII. -/
structure Cell.Recased (c d : Cell) : Prop where
  kind : c.kind = d.kind
  lines : List.Forall₂ Text.Recased c.lines d.lines

/-- Two notebooks whose lines differ only in the case of letters of ASCII. A line that is left as it
is differs in nothing, so that the lines of cells without code may be the same. -/
def Notebook.Recased (n m : Notebook) : Prop := List.Forall₂ Cell.Recased n.cells m.cells

/-- Two findings that are the same except for the line and the cell that they show, which differ
only in the case of letters of ASCII. -/
structure Finding.Recased (f g : Finding) : Prop where
  same : { f with content := none, cellText := none } = { g with content := none, cellText := none }
  content : Option.Rel Text.Recased f.content g.content
  cellText : Option.Rel Text.Recased f.cellText g.cellText

section Places

variable {α β : Type} {R : α → β → Prop} {xs : List α} {ys : List β}

theorem forall₂_zipIdx (each : List.Forall₂ R xs ys) (k : Nat) :
    List.Forall₂ (fun p q => R p.1 q.1 ∧ p.2 = q.2) (xs.zipIdx k) (ys.zipIdx k) := by
  induction each generalizing k with
  | nil => exact .nil
  | cons first others ih => exact .cons ⟨first, rfl⟩ (ih (k + 1))

theorem forall₂_getElem? (each : List.Forall₂ R xs ys) (i : Nat) :
    Option.Rel R xs[i]? ys[i]? := by
  induction each generalizing i with
  | nil => exact .none
  | cons first others ih =>
      cases i with
      | zero => exact .some first
      | succ i => exact ih i

end Places

namespace Notebook.Recased

variable {n m : Notebook}

theorem codeLines (recased : n.Recased m) :
    List.Forall₂ PlacedLine.Recased n.codeLines m.codeLines := by
  have cells : List.Forall₂ (fun p q => p.1.Recased q.1 ∧ p.2 = q.2) n.codeCells m.codeCells := by
    refine List.rel_filter ?_ (forall₂_zipIdx recased 0)
    intro p q same
    show p.1.isCode = true ↔ q.1.isCode = true
    rw [Cell.isCode, Cell.isCode, same.1.kind]
  refine List.rel_flatMap cells fun p q same => ?_
  refine List.rel_map ?_ (forall₂_zipIdx same.1.lines 0)
  exact fun l k sameLine => ⟨same.2, sameLine.2, sameLine.1⟩

theorem cellText (recased : n.Recased m) (index : Nat) :
    (n.cellText index).Recased (m.cellText index) := by
  have cells := forall₂_getElem? recased index
  rw [Notebook.cellText, Notebook.cellText]
  generalize n.cells[index]? = c?, m.cells[index]? = d? at cells
  cases cells with
  | none => exact .refl []
  | some same => exact .joinWith 0x0a same.lines

end Notebook.Recased

/-! ## Recased lines -/

/-- Either of two recased lines is left out, or none. -/
theorem isSkippedLine_recased {line other : Text} (recased : line.Recased other) :
    isSkippedLine line = isSkippedLine other := by
  rw [Bool.eq_iff_iff, isSkippedLine_iff, isSkippedLine_iff, Text.IsComment, Text.IsComment,
    ← Text.beginsInAnyCase_sign_iff, ← Text.beginsInAnyCase_sign_iff,
    recased.trim.beginsInAnyCase_iff]
  exact or_congr_right (exists_congr fun keyword =>
    and_congr_right fun _ => recased.trim.beginsInAnyCase_iff keyword)

theorem Rule.finding_recased (r : Rule) {n m : Notebook} (recased : n.Recased m) (document : Text)
    {l k : PlacedLine} (lines : l.Recased k) :
    (r.finding n document l).Recased (r.finding m document k) where
  same := by
    rw [Rule.finding, Rule.finding, lines.cell, lines.line]
  content := .some lines.text.trim
  cellText := by
    rw [Rule.finding, Rule.finding, lines.cell]
    exact .some (recased.cellText k.cell)

variable {n m : Notebook} {l k : PlacedLine}

/-- A blind rule has the same findings on two recased lines, up to what they show. -/
theorem CompiledRule.hits_recased (c : CompiledRule) (recased : n.Recased m) (document : Text)
    (lines : l.Recased k) (blind : c.pattern.IsBlind) :
    List.Forall₂ Finding.Recased (c.hits n document l) (c.hits m document k) := by
  rw [hits, hits, ← isSkippedLine_recased lines.text, ← Pattern.search_recased blind lines.text]
  split
  · exact .cons (c.rule.finding_recased recased document lines) .nil
  · exact .nil

namespace RuleSet

variable {set : RuleSet}

theorem findingsOf_recased (recased : n.Recased m) (document : Text) (lines : l.Recased k)
    {c : CompiledRule} (blind : c.pattern.IsBlind) :
    EndAlike (List.Forall₂ Finding.Recased) (findingsOf n document l c)
      (findingsOf m document k c) := by
  rw [findingsOf, findingsOf, ← Pattern.search_recased blind lines.text]
  cases c.pattern.search l.text with
  | nothing => exact .ok .nil
  | found => exact .ok (.cons (c.rule.finding_recased recased document lines) .nil)
  | brokenGroup => exact .error _

theorem lineFindings_recased (recased : n.Recased m) (document : Text) (lines : l.Recased k)
    (blind : ∀ c ∈ set.rules, c.pattern.IsBlind) :
    EndAlike (List.Forall₂ Finding.Recased) (set.lineFindings n document l)
      (set.lineFindings m document k) := by
  have each : List.Forall₂ (fun c c' => EndAlike (List.Forall₂ Finding.Recased)
      (findingsOf n document l c) (findingsOf m document k c')) set.rules set.rules :=
    List.forall₂_same.mpr fun c member => findingsOf_recased recased document lines (blind c member)
  rw [lineFindings, lineFindings, ← isSkippedLine_recased lines.text]
  split
  · exact .ok .nil
  · exact (EndAlike.mapM each).bind fun _ _ found => .ok (List.rel_flatten found)

/-- A failure is reported without a line or a cell. -/
theorem failureFindings_recased (set : RuleSet) (document : Text) :
    List.Forall₂ Finding.Recased (set.failureFindings document) (set.failureFindings document) := by
  refine List.forall₂_same.mpr fun f member => ?_
  obtain ⟨failure, -, rfl⟩ := List.mem_map.mp member
  exact ⟨rfl, .none, .none⟩

/-- The search of a recased notebook ends as that of the notebook. -/
theorem scan_recased (recased : n.Recased m) (document : Text)
    (blind : ∀ c ∈ set.rules, c.pattern.IsBlind) :
    EndAlike (List.Forall₂ Finding.Recased) (set.scan n document) (set.scan m document) := by
  have each : List.Forall₂ (fun l k => EndAlike (List.Forall₂ Finding.Recased)
      (set.lineFindings n document l) (set.lineFindings m document k)) n.codeLines m.codeLines :=
    recased.codeLines.imp fun _ _ lines => lineFindings_recased recased document lines blind
  rw [scan, scan]
  exact (EndAlike.mapM each).bind fun _ _ found =>
    .ok (List.rel_append (List.rel_flatten found) (set.failureFindings_recased document))

/-- A rule of a set in whose pattern no group turns `ignoreCase` off is blind. -/
theorem isBlind_of_mem {rules : List Rule} (compiled : compile rules = .ok set) {c : CompiledRule}
    (member : c ∈ set.rules) (quiet : Pattern.mindsCase c.rule.pattern = false) :
    c.pattern.IsBlind := by
  obtain ⟨-, rfl⟩ := compile_eq_ok_iff.mp compiled
  obtain ⟨-, -, compiledRule⟩ := mem_ofOutcomes_rules.mp member
  exact Pattern.isBlind_of_compile compiledRule quiet

/-- The case of letters of ASCII does not matter to patterns in which no group turns `ignoreCase`
off. Such a pattern gives one answer on two lines that differ only in the case of letters. In a
notebook whose letters are recased, a rule with such a pattern has the same findings as in the
notebook, except for the line and the cell that they show, whatever other rules the set has; and if
all patterns of the set are such, the search ends as that of the notebook, in the same error or with
the same findings. -/
theorem letterCase_ignored :
    (∀ (t : Text) (p : Pattern), Pattern.compile t = .ok p → Pattern.mindsCase t = false →
      ∀ line other : Text, line.Recased other → p.search line = p.search other) ∧
    ∀ (rules : List Rule) (set : RuleSet), compile rules = .ok set →
      ∀ (n m : Notebook) (document : Text), n.Recased m →
        (∀ c ∈ set.rules, Pattern.mindsCase c.rule.pattern = false →
          List.Forall₂ Finding.Recased (n.codeLines.flatMap fun l => c.hits n document l)
            (m.codeLines.flatMap fun l => c.hits m document l)) ∧
        ((∀ c ∈ set.rules, Pattern.mindsCase c.rule.pattern = false) →
          EndAlike (List.Forall₂ Finding.Recased) (set.scan n document) (set.scan m document)) := by
  constructor
  · intro t p compiled quiet line other recased
    exact Pattern.search_recased (Pattern.isBlind_of_compile compiled quiet) recased
  · intro rules set compiled n m document recased
    constructor
    · intro c member quiet
      have blind := isBlind_of_mem compiled member quiet
      exact List.rel_flatMap recased.codeLines fun l k lines =>
        c.hits_recased recased document lines blind
    · intro quiet
      exact scan_recased recased document fun c member =>
        isBlind_of_mem compiled member (quiet c member)

/-- A rule for a word that is repeated, and for one that must not stand behind another: with a
range, a reference, a look behind and a part that is not entered again. -/
def repeatedWordRule : Rule where
  id := "1"
  name := "Repetida"
  message := "m"
  pattern := "([k-p]+)_\\1|(?<!no )(?>DR)OP"
  severity := .warning
  enabled := true

/-- A notebook with a repeated word, an import and a word behind another. -/
def queryNotebook : Notebook :=
  ⟨[⟨.code, ["x = Mok_mOK", "Import drop"]⟩, ⟨.code, ["drop", "No drop"]⟩]⟩

/-- The notebook in other letters. -/
def shoutedNotebook : Notebook :=
  ⟨[⟨.code, ["X = mok_MOk", "imPORT DROP"]⟩, ⟨.code, ["DROP", "nO DrOP"]⟩]⟩

/-- The two lines that the rule is found on are found in either case. -/
theorem letterCase_ignored_repeatedWord :
    ∃ p set findings, Pattern.compile repeatedWordRule.pattern = .ok p ∧
      compile [repeatedWordRule] = .ok set ∧
      set.scan queryNotebook "job.ipynb" = .ok findings ∧ findings.length = 2 ∧
      p.search "x = Mok_mOK" = p.search "X = mok_MOk" ∧ p.search "drop" = p.search "DROP" ∧
      EndAlike (List.Forall₂ Finding.Recased) (set.scan queryNotebook "job.ipynb")
        (set.scan shoutedNotebook "job.ipynb") := by
  have answer : (Pattern.compile repeatedWordRule.pattern).toOption.bind (fun _ =>
      (compile [repeatedWordRule]).toOption.bind fun set =>
        (set.scan queryNotebook "job.ipynb").toOption.map fun findings =>
          (findings.length, set.rules.map fun c => Pattern.mindsCase c.rule.pattern)) =
        some (2, [false]) := by
    decide +kernel
  have quiet : Pattern.mindsCase repeatedWordRule.pattern = false := by decide +kernel
  obtain ⟨p, compiled, answer⟩ := Option.bind_eq_some_iff.mp answer
  obtain ⟨set, compiledSet, answer⟩ := Option.bind_eq_some_iff.mp answer
  obtain ⟨findings, searched, numbers⟩ := Option.map_eq_some_iff.mp answer
  have compiled := toOption_eq_some_iff.mp compiled
  have compiledSet := toOption_eq_some_iff.mp compiledSet
  obtain ⟨count, quietRules⟩ := Prod.mk.inj numbers
  have quietSet : ∀ c ∈ set.rules, Pattern.mindsCase c.rule.pattern = false := by
    intro c member
    have inList := List.mem_map_of_mem
      (f := fun c : CompiledRule => Pattern.mindsCase c.rule.pattern) member
    rw [quietRules] at inList
    exact List.mem_singleton.mp inList
  have recased : queryNotebook.Recased shoutedNotebook := by
    refine .cons ⟨rfl, .cons ?_ (.cons ?_ .nil)⟩ (.cons ⟨rfl, .cons ?_ (.cons ?_ .nil)⟩ .nil)
    all_goals decide
  obtain ⟨line, notebook⟩ := letterCase_ignored
  obtain ⟨-, ends⟩ := notebook _ set compiledSet _ _ "job.ipynb" recased
  exact ⟨p, set, findings, compiled, compiledSet, toOption_eq_some_iff.mp searched, count,
    line _ p compiled quiet _ _ (by decide), line _ p compiled quiet _ _ (by decide),
    ends quietSet⟩

/-- A group that turns `ignoreCase` off makes case matter. -/
example : (Pattern.compile "(?-i:drop)").toOption.map
    (fun p => (p.search "drop", p.search "DROP")) = some (.found, .nothing) := by
  decide +kernel

end RuleSet

end NotebookAudit

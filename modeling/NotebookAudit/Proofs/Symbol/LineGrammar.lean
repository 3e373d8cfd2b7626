import Mathlib.Computability.Language
import NotebookAudit.Proofs.Notebook.NonCodeCells
import NotebookAudit.Proofs.Symbol.ImportedName

/-!
The grammar of the lines that declare symbols.

The forms of a declaration are languages: `importForm`, `fromForm` and `widgetForm`. A line declares a
symbol exactly if it starts with a text of one of them, however long its pieces are. Which symbol it is
the longest pieces decide: the new name behind `as`, if one follows, and else the first identifier. So
the declarations of a notebook are those of the lines of its code cells, each line declaring one symbol
at most (`Notebook.declarations_exact`).
-/

namespace NotebookAudit

open Computability

/-- A character of an identifier is no blank. -/
theorem CodePoint.isBlank_of_isAsciiWord {c : CodePoint} (isAscii : c.isAsciiWord = true) :
    c.isBlank = false := by
  rw [← Bool.not_eq_true]
  intro isBlank
  have noWord := CodePoint.isWord_of_isBlank isBlank
  rw [Declaration.isWord_of_isAsciiWord isAscii] at noWord
  cases noWord

namespace Declaration

variable {line head name t rest s : Text}

/-! ## The forms -/

/-- Blanks, or nothing. -/
def blanks : Language CodePoint := {t | AreBlanks t}

/-- One blank or more. -/
def someBlanks : Language CodePoint := {t | t ≠ [] ∧ AreBlanks t}

/-- One character of an identifier or more. -/
def identifiers : Language CodePoint := {t | IsIdentifier t}

/-- One character of a dotted module name or more. -/
def modules : Language CodePoint := {t | t ≠ [] ∧ ∀ c ∈ t, isModuleChar c = true}

/-- The one text. -/
def word (w : Text) : Language CodePoint := {w}

theorem self_mem_word (w : Text) : w ∈ word w := rfl

/-- What stands in front of the name in an import. -/
def importHead : Language CodePoint := blanks * word "import" * someBlanks

/-- What stands in front of the name in an import from a module. -/
def fromHead : Language CodePoint :=
  blanks * word "from" * someBlanks * modules * someBlanks * word "import" * someBlanks *
    (1 + word "(") * blanks

/-- What stands behind the variable of a widget. -/
def widgetTail : Language CodePoint :=
  blanks * word "=" * blanks * word "dbutils.widgets.get" * blanks * word "("

theorem mem_importHead :
    head ∈ importHead ↔
      ∃ b ∈ blanks, ∃ b' ∈ someBlanks, head = b ++ (Text.ofString "import" ++ b') := by
  constructor
  · rintro ⟨_, ⟨b, areBlanks, _, rfl, rfl⟩, b', areBlanks', rfl⟩
    exact ⟨b, areBlanks, b', areBlanks', List.append_assoc _ _ _⟩
  · rintro ⟨b, areBlanks, b', areBlanks', rfl⟩
    rw [← List.append_assoc]
    exact Language.append_mem_mul (Language.append_mem_mul areBlanks rfl) areBlanks'

theorem mem_fromHead :
    head ∈ fromHead ↔
      ∃ b₁ ∈ blanks, ∃ b₂ ∈ someBlanks, ∃ m ∈ modules, ∃ b₃ ∈ someBlanks, ∃ b₄ ∈ someBlanks,
        ∃ p ∈ 1 + word "(", ∃ b₅ ∈ blanks, head = b₁ ++ (Text.ofString "from" ++ (b₂ ++ (m ++
          (b₃ ++ (Text.ofString "import" ++ (b₄ ++ (p ++ b₅))))))) := by
  constructor
  · rintro ⟨_, ⟨_, ⟨_, ⟨_, ⟨_, ⟨_, ⟨_, ⟨b₁, areBlanks₁, _, rfl, rfl⟩, b₂, areBlanks₂, rfl⟩, m, isModule,
      rfl⟩, b₃, areBlanks₃, rfl⟩, _, rfl, rfl⟩, b₄, areBlanks₄, rfl⟩, p, parenthesis, rfl⟩, b₅,
      areBlanks₅, rfl⟩
    exact ⟨b₁, areBlanks₁, b₂, areBlanks₂, m, isModule, b₃, areBlanks₃, b₄, areBlanks₄, p, parenthesis,
      b₅, areBlanks₅, by simp⟩
  · rintro ⟨b₁, areBlanks₁, b₂, areBlanks₂, m, isModule, b₃, areBlanks₃, b₄, areBlanks₄, p, parenthesis,
      b₅, areBlanks₅, rfl⟩
    simp only [← List.append_assoc]
    have upToModule := Language.append_mem_mul (Language.append_mem_mul
      (Language.append_mem_mul areBlanks₁ (self_mem_word "from")) areBlanks₂) isModule
    have upToWord := Language.append_mem_mul (Language.append_mem_mul upToModule areBlanks₃)
      (self_mem_word "import")
    exact Language.append_mem_mul (Language.append_mem_mul
      (Language.append_mem_mul upToWord areBlanks₄) parenthesis) areBlanks₅

theorem mem_widgetTail {tail : Text} :
    tail ∈ widgetTail ↔
      ∃ b₁ ∈ blanks, ∃ b₂ ∈ blanks, ∃ b₃ ∈ blanks, tail = b₁ ++ (Text.ofString "=" ++ (b₂ ++
        (Text.ofString "dbutils.widgets.get" ++ (b₃ ++ Text.ofString "(")))) := by
  constructor
  · rintro ⟨_, ⟨_, ⟨_, ⟨_, ⟨b₁, areBlanks₁, _, rfl, rfl⟩, b₂, areBlanks₂, rfl⟩, _, rfl, rfl⟩, b₃,
      areBlanks₃, rfl⟩, _, rfl, rfl⟩
    exact ⟨b₁, areBlanks₁, b₂, areBlanks₂, b₃, areBlanks₃, by simp⟩
  · rintro ⟨b₁, areBlanks₁, b₂, areBlanks₂, b₃, areBlanks₃, rfl⟩
    simp only [← List.append_assoc]
    have upToGet := Language.append_mem_mul (Language.append_mem_mul
      (Language.append_mem_mul areBlanks₁ (self_mem_word "=")) areBlanks₂)
      (self_mem_word "dbutils.widgets.get")
    exact Language.append_mem_mul (Language.append_mem_mul upToGet areBlanks₃) (self_mem_word "(")

/-- Dots that are each followed by an identifier. -/
def qualifiers : Language CodePoint := (word "." * identifiers)∗

/-- The start of an import. -/
def importForm : Language CodePoint := importHead * identifiers * qualifiers

/-- The start of an import from a module. -/
def fromForm : Language CodePoint := fromHead * identifiers

/-- The start of an assignment from a widget. -/
def widgetForm : Language CodePoint := blanks * identifiers * widgetTail

/-! ## The symbol -/

/-- An identifier does not go on in what follows it. -/
def EndsIdentifier (rest : Text) : Prop := ∀ c ∈ rest.head?, c.isAsciiWord = false

/-- A new name follows: blanks, `as`, blanks and an identifier as long as it goes. -/
def IsRenamed (rest new : Text) : Prop :=
  ∃ front ∈ someBlanks * word "as" * someBlanks, ∃ after,
    rest = front ++ (new ++ after) ∧ IsIdentifier new ∧ EndsIdentifier after

/-- The symbol is the new name, if one follows, and else the name that is imported. -/
def IsSymbol (name rest s : Text) : Prop :=
  IsRenamed rest s ∨ (∀ new, ¬ IsRenamed rest new) ∧ s = name

/-- The line starts with an import of a dotted name, as long as it goes, whose first part is `name`. -/
def Imports (line name rest : Text) : Prop :=
  ∃ head ∈ importHead, ∃ quals ∈ qualifiers, line = head ++ (name ++ (quals ++ rest)) ∧
    IsIdentifier name ∧ EndsIdentifier rest ∧ ∀ id, IsIdentifier id → ¬ 0x2e :: id <+: rest

/-- The line starts with an import of `name` from a module. -/
def ImportsFrom (line name rest : Text) : Prop :=
  ∃ head ∈ fromHead, line = head ++ (name ++ rest) ∧ IsIdentifier name ∧ EndsIdentifier rest

/-- The line declares the symbol by an import. -/
def DeclaresImport (line s : Text) : Prop :=
  ∃ name rest, (Imports line name rest ∨ ImportsFrom line name rest) ∧ IsSymbol name rest s

/-- The line declares the symbol by an assignment from a widget. -/
def DeclaresWidget (line s : Text) : Prop :=
  ∃ front ∈ blanks, ∃ tail ∈ widgetTail, ∃ rest,
    line = front ++ (s ++ (tail ++ rest)) ∧ IsIdentifier s

/-! ## Reading piece by piece -/

/-- The text does not start with a blank. -/
def IsSolid (t : Text) : Prop := ∀ c ∈ t.head?, c.isBlank = false

theorem takeWord?_append (w rest : Text) : takeWord? w (w ++ rest) = some rest :=
  takeWord?_eq_some_iff.mpr rfl

theorem takeBlanks?_append (areBlanks : t ∈ someBlanks) (solid : IsSolid rest) :
    takeBlanks? (t ++ rest) = some rest :=
  takeBlanks?_eq_some_iff.mpr ⟨t, areBlanks.1, areBlanks.2, rfl, solid⟩

theorem exists_someBlanks (taken : takeBlanks? t = some rest) :
    ∃ front ∈ someBlanks, t = front ++ rest := by
  obtain ⟨front, nonempty, areBlanks, split, -⟩ := takeBlanks?_eq_some_iff.mp taken
  exact ⟨front, ⟨nonempty, areBlanks⟩, split⟩

theorem takeIdentifier?_append (isIdentifier : IsIdentifier name) (ends : EndsIdentifier rest) :
    takeIdentifier? (name ++ rest) = some (name, rest) :=
  takeIdentifier?_eq_some_iff.mpr ⟨rfl, isIdentifier, ends⟩

theorem trimStart_append (areBlanks : t ∈ blanks) (solid : IsSolid rest) :
    Text.trimStart (t ++ rest) = rest :=
  (takeWhile_dropWhile_eq_iff.mpr ⟨rfl, areBlanks, solid⟩).2

theorem exists_trimStart (t : Text) : ∃ front ∈ blanks, t = front ++ t.trimStart :=
  ⟨_, fun _ => List.mem_takeWhile_imp, List.takeWhile_append_dropWhile.symm⟩

/-- Some identifier is taken from a text that starts with one. -/
theorem exists_takeIdentifier? (isIdentifier : IsIdentifier name) (rest : Text) :
    ∃ name' rest', takeIdentifier? (name ++ rest) = some (name', rest') := by
  unfold takeIdentifier?
  dsimp only
  rw [if_neg]
  · exact ⟨_, _, rfl⟩
  · rw [List.takeWhile_append_of_pos isIdentifier.chars]
    exact fun empty => isIdentifier.nonempty (List.append_eq_nil_iff.mp empty).1

theorem isSolid_append {w : Text} (nonempty : w ≠ []) (noBlank : ∀ c ∈ w, c.isBlank = false)
    (rest : Text) : IsSolid (w ++ rest) := by
  intro c first
  rw [List.head?_append_of_ne_nil _ nonempty] at first
  exact noBlank c (List.mem_of_head? first)

theorem isSolid_word {w : Text} (starts : w.head?.map (·.isBlank) = some false) (rest : Text) :
    IsSolid (w ++ rest) := by
  obtain ⟨c, first, noBlank⟩ := Option.map_eq_some_iff.mp starts
  obtain ⟨w', rfl⟩ := List.head?_eq_some_iff.mp first
  rintro d ⟨⟩
  exact noBlank

theorem isSolid_identifier (isIdentifier : IsIdentifier name) (rest : Text) :
    IsSolid (name ++ rest) :=
  isSolid_append isIdentifier.nonempty
    (fun c member => CodePoint.isBlank_of_isAsciiWord (isIdentifier.chars c member)) rest

/-! ## New names -/

theorem alias?_eq_some_iff : alias? rest = some s ↔ IsRenamed rest s := by
  constructor
  · intro named
    simp only [alias?, Option.bind_eq_bind, Option.bind_eq_some_iff] at named
    obtain ⟨_, taken, _, isAs, _, taken', ⟨id, after⟩, new, same⟩ := named
    cases same
    obtain ⟨front, areBlanks, rfl⟩ := exists_someBlanks taken
    obtain rfl := takeWord?_eq_some_iff.mp isAs
    obtain ⟨front', areBlanks', rfl⟩ := exists_someBlanks taken'
    obtain ⟨rfl, isIdentifier, ends⟩ := takeIdentifier?_eq_some_iff.mp new
    refine ⟨front ++ Text.ofString "as" ++ front', ?_, after, by simp, isIdentifier, ends⟩
    exact Language.append_mem_mul (Language.append_mem_mul areBlanks rfl) areBlanks'
  · rintro ⟨_, ⟨_, ⟨front, areBlanks, _, rfl, rfl⟩, front', areBlanks', rfl⟩, after, rfl,
      isIdentifier, ends⟩
    have solid := isSolid_word (w := Text.ofString "as") rfl
    simp only [alias?, List.append_assoc]
    rw [takeBlanks?_append areBlanks (solid _)]
    simp only [Option.bind_eq_bind, Option.bind_some, takeWord?_append]
    rw [takeBlanks?_append areBlanks' (isSolid_identifier isIdentifier after)]
    simp [takeIdentifier?_append isIdentifier ends]

theorem getD_alias?_eq_iff : (alias? rest).getD name = s ↔ IsSymbol name rest s := by
  simp only [IsSymbol, ← alias?_eq_some_iff]
  cases alias? rest with
  | none => simp [eq_comm]
  | some new => simp

/-! ## Qualifiers -/

theorem cons_mem_qualifiers {id quals : Text} (isIdentifier : IsIdentifier id)
    (member : quals ∈ qualifiers) : 0x2e :: (id ++ quals) ∈ qualifiers := by
  obtain ⟨pieces, rfl, each⟩ := Language.mem_kstar.mp member
  refine Language.mem_kstar.mpr ⟨(0x2e :: id) :: pieces, rfl, ?_⟩
  rintro piece (- | ⟨-, inRest⟩)
  · exact Language.append_mem_mul (a := Text.ofString ".") rfl isIdentifier
  · exact each piece inRest

/-- Dots with identifiers are dropped as far as they go. -/
theorem dropQualifiers_split (ends : EndsIdentifier t) :
    ∃ quals ∈ qualifiers, t = quals ++ dropQualifiers t ∧ EndsIdentifier (dropQualifiers t) ∧
      ∀ id, IsIdentifier id → ¬ 0x2e :: id <+: dropQualifiers t := by
  fun_induction dropQualifiers t with
  | case1 c rest isChar ih =>
      obtain ⟨split, chars, ends⟩ := takeWhile_dropWhile_eq_iff.mp
        (⟨rfl, rfl⟩ : rest.takeWhile (·.isAsciiWord) = _ ∧ rest.dropWhile (·.isAsciiWord) = _)
      obtain ⟨quals, member, split', goesNotOn⟩ := ih ends
      have isIdentifier : IsIdentifier (c :: rest.takeWhile (·.isAsciiWord)) :=
        ⟨List.cons_ne_nil _ _, List.forall_mem_cons.mpr ⟨isChar, chars⟩⟩
      refine ⟨_, cons_mem_qualifiers isIdentifier member, ?_, goesNotOn⟩
      conv_lhs => rw [split, split']
      simp
  | case2 c rest noChar =>
      refine ⟨[], Language.nil_mem_kstar _, rfl, ends, ?_⟩
      rintro (- | ⟨d, id⟩) isIdentifier goesOn
      · exact isIdentifier.nonempty rfl
      · have same := (List.cons_prefix_cons.mp (List.cons_prefix_cons.mp goesOn).2).1
        exact noChar (same ▸ isIdentifier.chars d List.mem_cons_self)
  | case3 t other =>
      refine ⟨[], Language.nil_mem_kstar _, rfl, ends, ?_⟩
      rintro (- | ⟨d, id⟩) isIdentifier ⟨more, rfl⟩
      · exact isIdentifier.nonempty rfl
      · exact other d (id ++ more) rfl

/-- What holds of nothing, and goes on over a dot and an identifier, holds of all qualifiers. -/
theorem qualifiers_induction {motive : Text → Prop} (nil : motive [])
    (cons : ∀ id quals, IsIdentifier id → quals ∈ qualifiers → motive quals →
      motive (0x2e :: (id ++ quals))) :
    ∀ quals ∈ qualifiers, motive quals := by
  rintro _ ⟨pieces, rfl, each⟩
  induction pieces with
  | nil => exact nil
  | cons piece pieces ih =>
      obtain ⟨first, others⟩ := List.forall_mem_cons.mp each
      obtain ⟨_, rfl, id, isIdentifier, rfl⟩ := first
      exact cons id pieces.flatten isIdentifier ⟨pieces, rfl, others⟩ (ih others)

theorem endsIdentifier_qualifiers (ends : EndsIdentifier rest) :
    ∀ quals ∈ qualifiers, EndsIdentifier (quals ++ rest) := by
  apply qualifiers_induction
  · exact ends
  · rintro id quals - - - c ⟨⟩
    decide

/-- The qualifiers are dropped if no more of them follow. -/
theorem dropQualifiers_append (ends : EndsIdentifier rest)
    (last : ∀ id, IsIdentifier id → ¬ 0x2e :: id <+: rest) :
    ∀ quals ∈ qualifiers, dropQualifiers (quals ++ rest) = rest := by
  apply qualifiers_induction
  · rw [List.nil_append]
    unfold dropQualifiers
    split
    · next c rest =>
      split
      · next isChar =>
        have isIdentifier : IsIdentifier [c] :=
          ⟨List.cons_ne_nil _ _, List.forall_mem_singleton.mpr isChar⟩
        exact absurd ⟨rest, rfl⟩ (last [c] isIdentifier)
      · rfl
    · rfl
  · rintro (- | ⟨c, id⟩) quals isIdentifier member dropped
    · exact absurd rfl isIdentifier.nonempty
    · obtain ⟨isChar, chars⟩ := List.forall_mem_cons.mp isIdentifier.chars
      have taken := (takeWhile_dropWhile_eq_iff.mpr
        ⟨(rfl : _ = id ++ (quals ++ rest)), chars, endsIdentifier_qualifiers ends quals member⟩).2
      rw [List.cons_append, List.cons_append, List.cons_append, List.append_assoc, dropQualifiers,
        if_pos isChar, taken, dropped]

/-! ## Imports -/

theorem importSymbol?_append (member : head ∈ importHead) (isIdentifier : IsIdentifier name)
    (rest : Text) :
    importSymbol? (head ++ (name ++ rest)) = (takeIdentifier? (name ++ rest)).map fun p =>
      (alias? (dropQualifiers p.2)).getD p.1 := by
  obtain ⟨front, areBlanks, front', areBlanks', rfl⟩ := mem_importHead.mp member
  have importSolid := isSolid_word (w := Text.ofString "import") rfl
  simp only [importSymbol?, List.append_assoc]
  rw [trimStart_append areBlanks (importSolid _), takeWord?_append]
  simp only [Option.bind_eq_bind, Option.bind_some,
    takeBlanks?_append areBlanks' (isSolid_identifier isIdentifier rest)]
  cases takeIdentifier? (name ++ rest) <;> rfl

/-- An import is read behind its head. -/
theorem exists_importHead (imported : importSymbol? line = some s) :
    ∃ head ∈ importHead, ∃ t name rest, line = head ++ t ∧ takeIdentifier? t = some (name, rest) ∧
      (alias? (dropQualifiers rest)).getD name = s := by
  simp only [importSymbol?, Option.bind_eq_bind, Option.bind_eq_some_iff] at imported
  obtain ⟨_, isImport, t, taken, ⟨name, rest⟩, takenName, same⟩ := imported
  obtain ⟨front, areBlanks, split⟩ := exists_trimStart line
  rw [takeWord?_eq_some_iff.mp isImport] at split
  obtain ⟨front', areBlanks', rfl⟩ := exists_someBlanks taken
  have member := mem_importHead.mpr ⟨front, areBlanks, front', areBlanks', rfl⟩
  exact ⟨_, member, t, name, rest, by simp [split], takenName, Option.some.inj same⟩

theorem importSymbol?_eq_some_iff :
    importSymbol? line = some s ↔ ∃ name rest, Imports line name rest ∧ IsSymbol name rest s := by
  simp only [← getD_alias?_eq_iff]
  constructor
  · intro imported
    obtain ⟨head, member, t, name, rest, rfl, taken, symbol⟩ := exists_importHead imported
    obtain ⟨rfl, isIdentifier, ends⟩ := takeIdentifier?_eq_some_iff.mp taken
    obtain ⟨quals, member', split, ends', last⟩ := dropQualifiers_split ends
    refine ⟨name, _, ⟨head, member, quals, member', ?_, isIdentifier, ends', last⟩, symbol⟩
    rw [← split]
  · rintro ⟨name, rest, ⟨head, member, quals, member', rfl, isIdentifier, ends, last⟩, symbol⟩
    have ends' := endsIdentifier_qualifiers ends quals member'
    rw [importSymbol?_append member isIdentifier, takeIdentifier?_append isIdentifier ends',
      Option.map_some, dropQualifiers_append ends last quals member', symbol]

/-! ## Imports from a module -/

theorem isBlank_of_isModuleChar {c : CodePoint} (isChar : isModuleChar c = true) :
    c.isBlank = false := by
  rcases Bool.or_eq_true _ _ ▸ isChar with isAscii | isDot
  · exact CodePoint.isBlank_of_isAsciiWord isAscii
  · rw [beq_iff_eq.mp isDot]
    decide

/-- A module name is taken up to the blanks behind it. -/
theorem dropWhile_isModuleChar {m b : Text} (isModule : m ∈ modules) (areBlanks : b ∈ someBlanks)
    (rest : Text) : (m ++ (b ++ rest)).dropWhile isModuleChar = b ++ rest := by
  refine (takeWhile_dropWhile_eq_iff.mpr ⟨rfl, isModule.2, ?_⟩).2
  intro c first
  rw [List.head?_append_of_ne_nil _ areBlanks.1] at first
  rw [← Bool.not_eq_true]
  intro isChar
  have isBlank := areBlanks.2 c (List.mem_of_head? first)
  rw [isBlank_of_isModuleChar isChar] at isBlank
  cases isBlank

/-- Behind `import` blanks, a parenthesis and blanks are left out in front of a name. -/
theorem takeBlanks?_parenthesis {b p b' : Text} (areBlanks : b ∈ someBlanks)
    (parenthesis : p ∈ 1 + word "(") (areBlanks' : b' ∈ blanks) (isIdentifier : IsIdentifier name)
    (rest : Text) :
    ∃ u, takeBlanks? (b ++ (p ++ (b' ++ (name ++ rest)))) = some u ∧
      Text.trimStart ((takeWord? "(" u).getD u) = name ++ rest := by
  have solid := isSolid_identifier isIdentifier rest
  rcases parenthesis with rfl | rfl
  · -- Without a parenthesis the blanks on its two sides are one run.
    have joined : b ++ b' ∈ someBlanks :=
      ⟨List.append_ne_nil_of_left_ne_nil areBlanks.1 b',
        List.forall_mem_append.mpr ⟨areBlanks.2, areBlanks'⟩⟩
    have closed : takeWord? "(" (name ++ rest) = none := by
      rw [Option.eq_none_iff_forall_ne_some]
      intro after opened
      have first := congrArg List.head? (takeWord?_eq_some_iff.mp opened)
      rw [List.head?_append_of_ne_nil _ isIdentifier.nonempty] at first
      exact absurd (isIdentifier.chars _ (List.mem_of_head? first)) (by decide)
    refine ⟨name ++ rest, ?_, ?_⟩
    · rw [List.nil_append, ← List.append_assoc, takeBlanks?_append joined solid]
    · rw [closed]
      exact trimStart_append (t := []) (List.forall_mem_nil _) solid
  · have opens := isSolid_word (w := Text.ofString "(") rfl
    refine ⟨_, takeBlanks?_append areBlanks (opens _), ?_⟩
    rw [takeWord?_append]
    exact trimStart_append areBlanks' solid

theorem fromSymbol?_append (member : head ∈ fromHead) (isIdentifier : IsIdentifier name)
    (rest : Text) :
    fromSymbol? (head ++ (name ++ rest)) = (takeIdentifier? (name ++ rest)).map fun p =>
      (alias? p.2).getD p.1 := by
  obtain ⟨b₁, areBlanks₁, b₂, areBlanks₂, m, isModule, b₃, areBlanks₃, b₄, areBlanks₄, p, parenthesis,
    b₅, areBlanks₅, rfl⟩ := mem_fromHead.mp member
  have fromSolid := isSolid_word (w := Text.ofString "from") rfl
  have importSolid := isSolid_word (w := Text.ofString "import") rfl
  have moduleSolid :=
    isSolid_append isModule.1 fun c member => isBlank_of_isModuleChar (isModule.2 c member)
  obtain ⟨u, taken, left⟩ :=
    takeBlanks?_parenthesis areBlanks₄ parenthesis areBlanks₅ isIdentifier rest
  obtain ⟨c, m', rfl⟩ := List.exists_cons_of_ne_nil isModule.1
  have isChar := isModule.2 c List.mem_cons_self
  simp only [fromSymbol?, List.append_assoc]
  rw [trimStart_append areBlanks₁ (fromSolid _), takeWord?_append]
  simp only [Option.bind_eq_bind, Option.bind_some]
  rw [takeBlanks?_append areBlanks₂ (moduleSolid _)]
  simp only [Option.bind_some]
  rw [dropWhile_isModuleChar isModule areBlanks₃]
  simp only [List.cons_append, List.head?_cons, Option.map_some, Option.bind_some, isChar,
    takeBlanks?_append areBlanks₃ (importSolid _), takeWord?_append, taken, left]
  cases takeIdentifier? (name ++ rest) <;> rfl

/-- A module name is what is dropped in front of the blanks. -/
theorem exists_module {c : CodePoint}
    (taken : (t.head?.map fun c => (c, t.dropWhile isModuleChar)) = some (c, rest))
    (isChar : isModuleChar c = true) : ∃ m ∈ modules, t = m ++ rest := by
  obtain ⟨d, first, same⟩ := Option.map_eq_some_iff.mp taken
  obtain ⟨rfl, rfl⟩ := Prod.mk.inj same
  obtain ⟨t', rfl⟩ := List.head?_eq_some_iff.mp first
  refine ⟨_, ⟨?_, fun c => List.mem_takeWhile_imp⟩, List.takeWhile_append_dropWhile.symm⟩
  rw [List.takeWhile_cons_of_pos isChar]
  exact List.cons_ne_nil _ _

/-- What is left out in front of a name is blanks, or blanks on both sides of a parenthesis. -/
theorem exists_parenthesis {u : Text} (taken : takeBlanks? t = some u) :
    ∃ front ∈ someBlanks, ∃ p ∈ 1 + word "(", ∃ back ∈ blanks,
      t = front ++ p ++ back ++ Text.trimStart ((takeWord? "(" u).getD u) := by
  obtain ⟨front, areBlanks, rfl⟩ := exists_someBlanks taken
  obtain ⟨back, areBlanks', split⟩ := exists_trimStart ((takeWord? "(" u).getD u)
  cases opened : takeWord? "(" u with
  | none =>
      rw [opened, Option.getD_none] at split
      refine ⟨front, areBlanks, [], .inl rfl, back, areBlanks', ?_⟩
      rw [Option.getD_none, List.append_nil, List.append_assoc, ← split]
  | some after =>
      rw [opened, Option.getD_some] at split
      refine ⟨front, areBlanks, Text.ofString "(", .inr rfl, back, areBlanks', ?_⟩
      rw [Option.getD_some, List.append_assoc, ← split, List.append_assoc,
        ← takeWord?_eq_some_iff.mp opened]

/-- An import from a module is read behind its head. -/
theorem exists_fromHead (imported : fromSymbol? line = some s) :
    ∃ head ∈ fromHead, ∃ t name rest, line = head ++ t ∧ takeIdentifier? t = some (name, rest) ∧
      (alias? rest).getD name = s := by
  simp only [fromSymbol?, Option.bind_eq_bind, Option.bind_eq_some_iff] at imported
  obtain ⟨_, isFrom, _, taken₂, ⟨c, _⟩, module, imported⟩ := imported
  split at imported
  · cases imported
  next isChar =>
  simp only [Option.bind_eq_some_iff] at imported
  obtain ⟨_, taken₃, _, isImport, u, taken₄, ⟨name, rest⟩, takenName, same⟩ := imported
  obtain ⟨b₁, areBlanks₁, split⟩ := exists_trimStart line
  rw [takeWord?_eq_some_iff.mp isFrom] at split
  obtain ⟨b₂, areBlanks₂, rfl⟩ := exists_someBlanks taken₂
  obtain ⟨m, isModule, rfl⟩ := exists_module module (by simpa using isChar)
  obtain ⟨b₃, areBlanks₃, rfl⟩ := exists_someBlanks taken₃
  rw [takeWord?_eq_some_iff.mp isImport] at split
  obtain ⟨b₄, areBlanks₄, p, parenthesis, b₅, areBlanks₅, rfl⟩ := exists_parenthesis taken₄
  have member := mem_fromHead.mpr ⟨b₁, areBlanks₁, b₂, areBlanks₂, m, isModule, b₃, areBlanks₃, b₄,
    areBlanks₄, p, parenthesis, b₅, areBlanks₅, rfl⟩
  exact ⟨_, member, _, name, rest, by simp [split], takenName, Option.some.inj same⟩

theorem fromSymbol?_eq_some_iff :
    fromSymbol? line = some s ↔
      ∃ name rest, ImportsFrom line name rest ∧ IsSymbol name rest s := by
  simp only [← getD_alias?_eq_iff]
  constructor
  · intro imported
    obtain ⟨head, member, t, name, rest, rfl, taken, symbol⟩ := exists_fromHead imported
    obtain ⟨rfl, isIdentifier, ends⟩ := takeIdentifier?_eq_some_iff.mp taken
    exact ⟨name, rest, ⟨head, member, rfl, isIdentifier, ends⟩, symbol⟩
  · rintro ⟨name, rest, ⟨head, member, rfl, isIdentifier, ends⟩, symbol⟩
    rw [fromSymbol?_append member isIdentifier, takeIdentifier?_append isIdentifier ends,
      Option.map_some, symbol]

/-- No line is an import and an import from a module at once. -/
theorem importSymbol?_eq_none (imported : fromSymbol? line = some s) :
    importSymbol? line = none := by
  simp only [fromSymbol?, Option.bind_eq_bind, Option.bind_eq_some_iff] at imported
  obtain ⟨_, isFrom, -⟩ := imported
  rw [importSymbol?, takeWord?_eq_some_iff.mp isFrom]
  rfl

/-- The symbol that is read is the one the line declares by an import. -/
theorem importedSymbol?_eq_some_iff : importedSymbol? line = some s ↔ DeclaresImport line s := by
  have either :
      DeclaresImport line s ↔ importSymbol? line = some s ∨ fromSymbol? line = some s := by
    simp only [importSymbol?_eq_some_iff, fromSymbol?_eq_some_iff, DeclaresImport, or_and_right,
      exists_or]
  rw [either, importedSymbol?, Option.orElse_eq_some]
  refine or_congr_right ⟨fun imported => imported.2, fun imported => ?_⟩
  exact ⟨importSymbol?_eq_none imported, imported⟩

/-- A line declares a symbol by an import exactly if it starts with one of the two forms. -/
theorem declaresImport_iff :
    (∃ s, DeclaresImport line s) ↔ ∃ start ∈ importForm + fromForm, start <+: line := by
  simp only [← importedSymbol?_eq_some_iff]
  constructor
  · rintro ⟨s, imported⟩
    rcases (Option.orElse_eq_some _ _ _).mp imported with first | ⟨-, second⟩
    · obtain ⟨head, member, t, name, rest, rfl, taken, -⟩ := exists_importHead first
      obtain ⟨rfl, isIdentifier, -⟩ := takeIdentifier?_eq_some_iff.mp taken
      have form := Language.append_mem_mul (Language.append_mem_mul member isIdentifier)
        (Language.nil_mem_kstar (word "." * identifiers))
      exact ⟨_, .inl form, by simp⟩
    · obtain ⟨head, member, t, name, rest, rfl, taken, -⟩ := exists_fromHead second
      obtain ⟨rfl, isIdentifier, -⟩ := takeIdentifier?_eq_some_iff.mp taken
      exact ⟨_, .inr (Language.append_mem_mul member isIdentifier), by simp⟩
  · rintro ⟨start, ⟨_, ⟨head, member, name, isIdentifier, rfl⟩, quals, -, rfl⟩ |
      ⟨head, member, name, isIdentifier, rfl⟩, more, rfl⟩
    · obtain ⟨id, rest, taken⟩ := exists_takeIdentifier? isIdentifier (quals ++ more)
      have imported := importSymbol?_append member isIdentifier (quals ++ more)
      rw [taken, Option.map_some, ← List.append_assoc, ← List.append_assoc] at imported
      exact ⟨_, (Option.orElse_eq_some _ _ _).mpr (.inl imported)⟩
    · obtain ⟨id, rest, taken⟩ := exists_takeIdentifier? isIdentifier more
      have imported := fromSymbol?_append member isIdentifier more
      rw [taken, Option.map_some, ← List.append_assoc] at imported
      exact ⟨_, (Option.orElse_eq_some _ _ _).mpr (.inr ⟨importSymbol?_eq_none imported, imported⟩)⟩

/-! ## Assignments from a widget -/

/-- The variable ends where what stands behind it starts. -/
theorem endsIdentifier_widgetTail {tail : Text} (member : tail ∈ widgetTail) (rest : Text) :
    EndsIdentifier (tail ++ rest) := by
  obtain ⟨b, areBlanks, _, -, _, -, rfl⟩ := mem_widgetTail.mp member
  intro c first
  cases b with
  | nil =>
      cases first
      decide
  | cons d b =>
      cases first
      rw [← Bool.not_eq_true]
      intro isAscii
      have isBlank := areBlanks c List.mem_cons_self
      rw [CodePoint.isBlank_of_isAsciiWord isAscii] at isBlank
      cases isBlank

/-- The variable that is read is the one the line declares by an assignment from a widget. -/
theorem widgetSymbol?_eq_some_iff : widgetSymbol? line = some s ↔ DeclaresWidget line s := by
  constructor
  · intro assigned
    simp only [widgetSymbol?, Option.bind_eq_bind, Option.bind_eq_some_iff] at assigned
    obtain ⟨⟨id, t₁⟩, taken, t₂, isEquals, t₃, isGet, t₄, opens, same⟩ := assigned
    cases same
    obtain ⟨split, isIdentifier, -⟩ := takeIdentifier?_eq_some_iff.mp taken
    obtain ⟨front, areBlanks, all⟩ := exists_trimStart line
    obtain ⟨b₁, areBlanks₁, split₁⟩ := exists_trimStart t₁
    obtain ⟨b₂, areBlanks₂, split₂⟩ := exists_trimStart t₂
    obtain ⟨b₃, areBlanks₃, split₃⟩ := exists_trimStart t₃
    rw [takeWord?_eq_some_iff.mp isEquals] at split₁
    rw [takeWord?_eq_some_iff.mp isGet] at split₂
    rw [takeWord?_eq_some_iff.mp opens] at split₃
    have member := mem_widgetTail.mpr ⟨b₁, areBlanks₁, b₂, areBlanks₂, b₃, areBlanks₃, rfl⟩
    refine ⟨front, areBlanks, _, member, t₄, ?_, isIdentifier⟩
    rw [all, split, split₁, split₂, split₃]
    simp
  · rintro ⟨front, areBlanks, tail, member, rest, rfl, isIdentifier⟩
    have ends := endsIdentifier_widgetTail member rest
    rw [widgetSymbol?, trimStart_append areBlanks (isSolid_identifier isIdentifier _),
      takeIdentifier?_append isIdentifier ends]
    obtain ⟨b₁, areBlanks₁, b₂, areBlanks₂, b₃, areBlanks₃, rfl⟩ := mem_widgetTail.mp member
    have equalsSolid := isSolid_word (w := Text.ofString "=") rfl
    have getSolid := isSolid_word (w := Text.ofString "dbutils.widgets.get") rfl
    have opensSolid := isSolid_word (w := Text.ofString "(") rfl
    simp only [List.append_assoc, Option.bind_eq_bind, Option.bind_some]
    rw [trimStart_append areBlanks₁ (equalsSolid _), takeWord?_append, Option.bind_some,
      trimStart_append areBlanks₂ (getSolid _), takeWord?_append, Option.bind_some,
      trimStart_append areBlanks₃ (opensSolid _), takeWord?_append]
    rfl

/-- A line declares the variable of a widget exactly if it starts with the form. -/
theorem declaresWidget_iff :
    (∃ s, DeclaresWidget line s) ↔ ∃ start ∈ widgetForm, start <+: line := by
  constructor
  · rintro ⟨s, front, areBlanks, tail, member, rest, rfl, isIdentifier⟩
    exact ⟨_, Language.append_mem_mul (Language.append_mem_mul areBlanks isIdentifier) member,
      rest, by simp⟩
  · rintro ⟨_, ⟨_, ⟨front, areBlanks, s, isIdentifier, rfl⟩, tail, member, rfl⟩, rest, rfl⟩
    exact ⟨s, front, areBlanks, tail, member, rest, by simp, isIdentifier⟩

/-- No dot belongs to an identifier. -/
theorem IsIdentifier.noDot (isIdentifier : IsIdentifier s) : 0x2e ∉ s := by
  intro member
  exact absurd (isIdentifier.chars _ member) (by decide)

end Declaration

/-! ## The declarations of a notebook -/

namespace Notebook

open Declaration

variable {n : Notebook} {symbol? : Text → Option Text} {Declares : Text → Text → Prop}
  {form : Language CodePoint}

/-- The list collects what the lines of the code cells declare. -/
structure Collects (n : Notebook) (declared : List Declaration) (Declares : Text → Text → Prop)
    (form : Language CodePoint) : Prop where
  /-- What is declared is what a line of a code cell declares, with that line, trimmed. -/
  declares : ∀ d, d ∈ declared ↔ ∃ line, n.IsCodeLine d.cell d.line line ∧ d.source = line.trim ∧
    Declares line d.symbol
  /-- A line of a code cell declares something exactly if it starts with the form. -/
  accepts : ∀ i j line, n.IsCodeLine i j line →
    ((∃ d ∈ declared, d.cell = i ∧ d.line = j) ↔ ∃ start ∈ form, start <+: line)
  /-- The lines follow each other, so that none of them declares two symbols. -/
  inOrder : declared.Pairwise Before
  named : ∀ d ∈ declared, d.symbol ≠ [] ∧ 0x2e ∉ d.symbol

/-- A code line is the only one at its place. -/
theorem IsCodeLine.unique {i j : Nat} {line line' : Text} (first : n.IsCodeLine i j line)
    (second : n.IsCodeLine i j line') : line = line' := by
  obtain ⟨c, cellAt, -, lineAt⟩ := first
  obtain ⟨c', cellAt', -, lineAt'⟩ := second
  rw [cellAt] at cellAt'
  obtain rfl := Option.some.inj cellAt'
  rw [lineAt] at lineAt'
  exact Option.some.inj lineAt'

/-- What is read from the lines is collected if it is an identifier, if it is what the lines declare,
and if the form decides which lines declare something. -/
theorem collects_declarations (identifier : ∀ {line s}, symbol? line = some s → IsIdentifier s)
    (reads : ∀ {line s}, symbol? line = some s ↔ Declares line s)
    (starts : ∀ {line}, (∃ s, Declares line s) ↔ ∃ start ∈ form, start <+: line) (n : Notebook) :
    n.Collects (n.declarations symbol?) Declares form := by
  have declares (d : Declaration) : d ∈ n.declarations symbol? ↔
      ∃ line, n.IsCodeLine d.cell d.line line ∧ d.source = line.trim ∧ Declares line d.symbol := by
    rw [mem_declarations]
    constructor
    · rintro ⟨l, lineIn, s, read, rfl⟩
      exact ⟨l.text, isCodeLine_of_mem lineIn, rfl, reads.mp read⟩
    · rintro ⟨line, ⟨c, cellAt, code, lineAt⟩, source, declared⟩
      have lineIn : ⟨d.cell, d.line, line⟩ ∈ n.codeLines :=
        mem_codeLines.mpr ⟨c, cellAt, beq_iff_eq.mpr code, lineAt⟩
      refine ⟨_, lineIn, d.symbol, reads.mpr declared, ?_⟩
      rw [← source]
  refine ⟨declares, ?accepts, declarations_pairwise symbol? n, ?named⟩
  case accepts =>
    intro i j line isLine
    rw [← starts]
    constructor
    · rintro ⟨d, member, rfl, rfl⟩
      obtain ⟨line', isLine', -, declared⟩ := (declares d).mp member
      exact ⟨d.symbol, isLine.unique isLine' ▸ declared⟩
    · rintro ⟨s, declared⟩
      exact ⟨⟨s, i, j, line.trim⟩, (declares _).mpr ⟨line, isLine, rfl, declared⟩, rfl, rfl⟩
  case named =>
    intro d member
    obtain ⟨line, -, -, declared⟩ := (declares d).mp member
    have isIdentifier := identifier (reads.mpr declared)
    exact ⟨isIdentifier.nonempty, isIdentifier.noDot⟩

/-- The imports of a notebook are exactly what the lines of its code cells declare by an import, and so
are the variables of widgets: a line declares a symbol if and only if it starts with a text of the
form. -/
theorem declarations_exact (n : Notebook) :
    n.Collects n.imports DeclaresImport (importForm + fromForm) ∧
    n.Collects n.widgetVariables DeclaresWidget widgetForm :=
  ⟨collects_declarations importedSymbol?_isIdentifier importedSymbol?_eq_some_iff
      declaresImport_iff n,
    collects_declarations widgetSymbol?_isIdentifier widgetSymbol?_eq_some_iff declaresWidget_iff n⟩

/-- Lines that declare symbols, a line that misses a blank and one whose variable is no identifier. -/
def nearMisses : Notebook :=
  ⟨[⟨.markdown, ["import os"]⟩, ⟨.code, ["\u2003import a.b. as x", "importx"]⟩,
    ⟨.code, ["v\u3000= dbutils.widgets.get (", "ñ = dbutils.widgets.get("]⟩]⟩

/-- The dot behind the name is no part of it, and what stands behind the dot gives no new name. -/
theorem declarations_exact_nearMisses :
    nearMisses.IsCodeLine 1 1 "importx" ∧ nearMisses.IsCodeLine 2 1 "ñ = dbutils.widgets.get(" ∧
      DeclaresImport "\u2003import a.b. as x" "a" ∧
      (¬ ∃ start ∈ importForm + fromForm, start <+: Text.ofString "importx") ∧
      DeclaresWidget "v\u3000= dbutils.widgets.get (" "v" ∧
      ¬ ∃ start ∈ widgetForm, start <+: Text.ofString "ñ = dbutils.widgets.get(" := by
  obtain ⟨imports, widgetVariables⟩ := declarations_exact nearMisses
  have noBlank : nearMisses.IsCodeLine 1 1 "importx" := ⟨_, rfl, rfl, rfl⟩
  have noIdentifier : nearMisses.IsCodeLine 2 1 "ñ = dbutils.widgets.get(" := ⟨_, rfl, rfl, rfl⟩
  refine ⟨noBlank, noIdentifier, ?_, ?_, ?_, ?_⟩
  · obtain ⟨line, ⟨c, cellAt, -, lineAt⟩, -, declared⟩ :=
      (imports.declares ⟨"a", 1, 0, "import a.b. as x"⟩).mp (by decide +kernel)
    cases cellAt
    cases lineAt
    exact declared
  · rw [← imports.accepts 1 1 _ noBlank]
    decide +kernel
  · obtain ⟨line, ⟨c, cellAt, -, lineAt⟩, -, declared⟩ :=
      (widgetVariables.declares ⟨"v", 2, 0, "v\u3000= dbutils.widgets.get ("⟩).mp (by decide +kernel)
    cases cellAt
    cases lineAt
    exact declared
  · rw [← widgetVariables.accepts 2 1 _ noIdentifier]
    decide +kernel

end Notebook

end NotebookAudit

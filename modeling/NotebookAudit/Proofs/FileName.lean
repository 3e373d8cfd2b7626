import Mathlib.Data.List.TakeWhile
import NotebookAudit.Analysis
import NotebookAudit.Proofs.Text.LetterCase
import NotebookAudit.Proofs.Text.Sigma

/-!
What a file name says about a document.

The extension is read off the lower-case form of the last component of a name, and the base name off the
component as it stands. Lower-casing may make a text longer, but it adds no dot and takes none away
(`Text.mem_lowerFrom_iff`), so both are cut at the same place (`FileName.extension_of_component`). Hence a
document is supported exactly if its component is a stem that is not empty in front of one of the two
extensions in any case, and the stem is then its base name (`FileName.names_classified`).
-/

namespace NotebookAudit

/-! ## The last occurrence of a character -/

namespace Text

variable {c : CodePoint} {t front after : Text}

theorem exists_last_of_mem (member : c ∈ t) : ∃ front after, t = front ++ c :: after ∧ c ∉ after := by
  obtain ⟨after, front, split, absent⟩ := List.eq_append_cons_of_mem (List.mem_reverse.mpr member)
  refine ⟨front.reverse, after.reverse, ?_, fun again => absent (List.mem_reverse.mp again)⟩
  rw [← List.reverse_inj, split, List.reverse_append, List.reverse_cons, List.reverse_reverse,
    List.reverse_reverse, List.append_assoc, List.singleton_append]

theorem takeWhile_reverse_of_absent (absent : c ∉ t) : t.reverse.takeWhile (· != c) = t.reverse := by
  rw [List.takeWhile_eq_self_iff]
  intro d member
  rw [bne_iff_ne]
  rintro rfl
  exact absent (List.mem_reverse.mp member)

theorem takeWhile_reverse_append (absent : c ∉ after) :
    (front ++ c :: after).reverse.takeWhile (· != c) = after.reverse := by
  have stops : List.takeWhile (· != c) ([c] ++ front.reverse) = [] := by simp
  have kept : ∀ d ∈ after.reverse, (d != c) = true := by
    rw [← List.takeWhile_eq_self_iff]
    exact takeWhile_reverse_of_absent absent
  rw [List.reverse_append, List.reverse_cons, List.append_assoc, List.takeWhile_append_of_pos kept,
    stops, List.append_nil]

theorem splitAtLast_of_absent (absent : c ∉ t) : (splitAtLast c t).2 = t := by
  rw [splitAtLast]
  dsimp only
  rw [takeWhile_reverse_of_absent absent, List.reverse_reverse]

theorem splitAtLast_append (absent : c ∉ after) : (splitAtLast c (front ++ c :: after)).2 = after := by
  rw [splitAtLast]
  dsimp only
  rw [takeWhile_reverse_append absent, List.reverse_reverse]

theorem not_mem_replace {d : CodePoint} (differ : d ≠ c) (t : Text) : c ∉ t.replace c d := by
  intro member
  obtain ⟨e, -, same⟩ := List.mem_map.mp member
  split at same
  · exact differ same
  · next other => exact other same

end Text

namespace FileName

variable {name c front after word : Text}

/-! ## Components -/

/-- A text is the last component of a name: with every backslash as a slash and without the blanks around
it, the name is this text behind directories that end in a slash, and the text has no slash. -/
structure IsComponent (name c : Text) : Prop where
  noSlash : 0x2f ∉ c
  follows : ∃ directories, name.trim.replace 0x5c 0x2f = directories ++ c ∧
    ∀ s ∈ directories.getLast?, s = 0x2f

theorem isComponent_iff : IsComponent name c ↔ component name = c := by
  constructor
  · rintro ⟨noSlash, directories, split, last⟩
    rw [component, split]
    rcases List.eq_nil_or_concat' directories with rfl | ⟨before, s, rfl⟩
    · exact Text.splitAtLast_of_absent noSlash
    · obtain rfl := last s (by simp)
      rw [List.append_assoc, List.singleton_append]
      exact Text.splitAtLast_append noSlash
  · rintro rfl
    rw [component]
    by_cases slash : 0x2f ∈ name.trim.replace 0x5c 0x2f
    · obtain ⟨before, after, split, noSlash⟩ := Text.exists_last_of_mem slash
      rw [split, Text.splitAtLast_append noSlash]
      refine ⟨noSlash, before ++ [0x2f], ?_, by simp⟩
      rw [split, List.append_assoc, List.singleton_append]
    · rw [Text.splitAtLast_of_absent slash]
      exact ⟨slash, [], rfl, by simp⟩

theorem IsComponent.noBackslash (isComponent : IsComponent name c) : 0x5c ∉ c := by
  obtain ⟨-, directories, split, -⟩ := isComponent
  intro member
  apply Text.not_mem_replace (by decide : 0x2f ≠ 0x5c) name.trim
  rw [split]
  exact List.mem_append_right _ member

/-! ## Stems and suffixes -/

theorem stemLength?_of_noDot (noDot : 0x2e ∉ c) : stemLength? c = none := by
  rw [stemLength?, Text.takeWhile_reverse_of_absent noDot, List.length_reverse, if_neg]
  exact fun fits => Nat.lt_irrefl _ fits.1

/-- The last dot ends the stem, unless it is the first character or the last one. -/
theorem stemLength?_append (noDot : 0x2e ∉ after) :
    stemLength? (front ++ 0x2e :: after) =
      if front = [] ∨ after = [] then none else some front.length := by
  rw [stemLength?, Text.takeWhile_reverse_append noDot, List.length_reverse, List.length_append,
    List.length_cons]
  have place : front.length + (after.length + 1) - after.length - 1 = front.length := by omega
  rw [place]
  by_cases missing : front = [] ∨ after = []
  · have noRoom : front.length = 0 ∨ after.length = 0 := by
      simpa only [List.length_eq_zero_iff] using missing
    rw [if_pos missing, if_neg (by omega)]
  · have room : ¬ (front.length = 0 ∨ after.length = 0) := by
      simpa only [List.length_eq_zero_iff] using missing
    rw [if_neg missing, if_pos (by omega)]

theorem suffix_of_noDot (noDot : 0x2e ∉ c) : suffix c = [] := by
  rw [suffix, stemLength?_of_noDot noDot]

theorem suffix_append (noDot : 0x2e ∉ after) :
    suffix (front ++ 0x2e :: after) = if front = [] ∨ after = [] then [] else 0x2e :: after := by
  rw [suffix, stemLength?_append noDot]
  by_cases missing : front = [] ∨ after = []
  · rw [if_pos missing, if_pos missing]
  · rw [if_neg missing, if_neg missing]
    exact List.drop_left

theorem stem_append (noDot : 0x2e ∉ after) (someStem : front ≠ []) (someAfter : after ≠ []) :
    stem (front ++ 0x2e :: after) = front := by
  have noLoneDot : front ++ 0x2e :: after ≠ [0x2e] := by
    intro same
    have lengths := congrArg List.length same
    have positive := List.length_pos_iff.mpr someStem
    rw [List.length_append, List.length_cons, List.length_singleton] at lengths
    omega
  rw [stem, if_neg noLoneDot, stemLength?_append noDot,
    if_neg (not_or.mpr ⟨someStem, someAfter⟩)]
  exact List.take_left

theorem stem_isPrefix (c : Text) : stem c <+: c := by
  rw [stem]
  split
  · exact List.nil_prefix
  · split
    · exact List.take_prefix _ _
    · exact List.prefix_rfl

/-! ## Extensions -/

theorem extension_of_noDot (noDot : 0x2e ∉ component name) : extension name = [] := by
  refine suffix_of_noDot fun dotted => noDot ?_
  exact (Text.mem_lowerFrom_iff (by decide) (by decide)).mp dotted

/-- The lower-case form of a component is cut at the same dot as the component. -/
theorem extension_of_component (named : component name = front ++ 0x2e :: after)
    (noDot : 0x2e ∉ after) :
    extension name =
      if front = [] ∨ after = [] then [] else 0x2e :: Text.lowerFrom (0x2e :: front.reverse) after := by
  have dot : Text.lowerAt (front.reverse ++ []) 0x2e after = [0x2e] :=
    Text.lowerAt_of_ascii (by decide) _ _
  have noDotLowered : 0x2e ∉ Text.lowerFrom (0x2e :: front.reverse) after := fun dotted =>
    noDot ((Text.mem_lowerFrom_iff (by decide) (by decide)).mp dotted)
  rw [extension, named, Text.lower, Text.lowerFrom_append, Text.lowerFrom, dot, List.append_nil,
    List.singleton_append, suffix_append noDotLowered]
  simp only [Text.lowerWithin_eq_nil_iff, Text.lowerFrom_eq_nil_iff]

/-- A component is a stem that is not empty in front of an ending, which is an extension in any case of
its letters. -/
structure IsFileOf (extension c stem ending : Text) : Prop where
  split : c = stem ++ ending
  someStem : stem ≠ []
  anyCase : ending.Recased extension

/-- What stands behind the dot of an extension: small letters of ASCII that no other character has as its
lower-case form. -/
structure IsPlain (word : Text) : Prop where
  fromAscii : Text.LowersFromAscii (0x2e :: word)
  small : word.map CodePoint.asciiLower = word
  noDot : 0x2e ∉ word
  nonempty : word ≠ []

theorem isPlain_ipynb : IsPlain "ipynb" :=
  ⟨⟨by decide, by decide⟩, by decide, by decide, by decide⟩

theorem isPlain_py : IsPlain "py" :=
  ⟨⟨by decide, by decide⟩, by decide, by decide, by decide⟩

namespace IsPlain

variable {stem ending : Text}

theorem recased_iff (plain : IsPlain word) :
    ending.Recased (0x2e :: word) ↔ ending.map CodePoint.asciiLower = 0x2e :: word := by
  have dot : CodePoint.asciiLower 0x2e = 0x2e := by decide
  rw [Text.Recased, List.map_cons, plain.small, dot]

/-- The ending of a file is its last dot and what follows it. -/
theorem exists_after (plain : IsPlain word) (file : IsFileOf (0x2e :: word) c stem ending) :
    ∃ after, c = stem ++ 0x2e :: after ∧ after.map CodePoint.asciiLower = word ∧ 0x2e ∉ after ∧
      after ≠ [] := by
  obtain ⟨d, after, rfl, first, others⟩ := List.map_eq_cons_iff.mp (plain.recased_iff.mp file.anyCase)
  obtain rfl : d = 0x2e := (CodePoint.asciiLower_eq_iff (by decide)).mp first
  refine ⟨after, file.split, others, ?_, ?_⟩
  · intro dotted
    apply plain.noDot
    rw [← others]
    exact List.mem_map_of_mem dotted
  · rintro rfl
    exact plain.nonempty others.symm

theorem baseName_eq (plain : IsPlain word)
    (file : IsFileOf (0x2e :: word) (component name) stem ending) : baseName name = stem := by
  obtain ⟨after, split, -, noDot, someAfter⟩ := plain.exists_after file
  rw [baseName, split, stem_append noDot file.someStem someAfter]

/-- The extension of a name is a plain word exactly if its component is a file of this extension. -/
theorem extension_eq_iff (plain : IsPlain word) :
    extension name = 0x2e :: word ↔
      ∃ stem ending, IsFileOf (0x2e :: word) (component name) stem ending := by
  constructor
  · intro named
    -- a component without a dot has no extension, and one with a dot is cut at the last
    by_cases dotted : 0x2e ∈ component name
    · obtain ⟨front, after, split, noDot⟩ := Text.exists_last_of_mem dotted
      rw [extension_of_component split noDot] at named
      split at named
      · cases named
      · next bothParts =>
        have lowered : Text.lowerFrom (0x2e :: front.reverse) after = word :=
          (List.cons.inj named).2
        rw [Text.lowerFrom_eq_iff plain.fromAscii.tail] at lowered
        refine ⟨front, 0x2e :: after, split, (not_or.mp bothParts).1, ?_⟩
        rw [plain.recased_iff, List.map_cons, lowered]
        rfl
    · rw [extension_of_noDot dotted] at named
      cases named
  · rintro ⟨stem, ending, file⟩
    obtain ⟨after, split, others, noDot, someAfter⟩ := plain.exists_after file
    rw [extension_of_component split noDot, if_neg (not_or.mpr ⟨file.someStem, someAfter⟩),
      (Text.lowerFrom_eq_iff plain.fromAscii.tail).mpr others]

/-- A plain extension is the lower-case form of what differs from it in the case of ASCII letters only. -/
theorem lower_eq_iff (plain : IsPlain word) :
    ending.lower = 0x2e :: word ↔ ending.Recased (0x2e :: word) := by
  rw [plain.recased_iff]
  exact Text.lowerFrom_eq_iff plain.fromAscii

/-- A file has its stem as base name, and the lower-case form of its ending as extension. -/
theorem named (plain : IsPlain word) (file : IsFileOf (0x2e :: word) (component name) stem ending) :
    baseName name = stem ∧ extension name = ending.lower := by
  refine ⟨plain.baseName_eq file, ?_⟩
  rw [plain.lower_eq_iff.mpr file.anyCase, plain.extension_eq_iff]
  exact ⟨stem, ending, file⟩

end IsPlain

theorem isSupported_iff :
    isSupported name = true ↔
      ∃ stem ending, IsFileOf ".ipynb" (component name) stem ending ∨
        IsFileOf ".py" (component name) stem ending := by
  have notebook : extension name = Text.ofString ".ipynb" ↔
      ∃ stem ending, IsFileOf ".ipynb" (component name) stem ending :=
    isPlain_ipynb.extension_eq_iff
  have script : extension name = Text.ofString ".py" ↔
      ∃ stem ending, IsFileOf ".py" (component name) stem ending :=
    isPlain_py.extension_eq_iff
  rw [isSupported, isNotebook, Bool.or_eq_true, beq_iff_eq, beq_iff_eq, notebook, script]
  simp only [exists_or]

/-- A document is taken exactly if the last component of its name is a stem that is not empty in front of
the extension of a notebook or of a script, in any case. The stem is then the base name, and the ending in
lower case is the extension and tells the format. The base name of every document, one without a name
included, begins the component and has no slash of either kind. -/
theorem names_classified (d : Document) :
    ∃ c, (∀ t, IsComponent d.nameOrEmpty t ↔ t = c) ∧
      (isSupported d.nameOrEmpty = true ↔
        ∃ stem ending, IsFileOf ".ipynb" c stem ending ∨ IsFileOf ".py" c stem ending) ∧
      (∀ stem ending, IsFileOf ".ipynb" c stem ending ∨ IsFileOf ".py" c stem ending →
        baseName d.nameOrEmpty = stem ∧ extension d.nameOrEmpty = ending.lower ∧
          (isNotebook d.nameOrEmpty = true ↔ ending.Recased ".ipynb")) ∧
      baseName d.nameOrEmpty <+: c ∧
      0x2f ∉ baseName d.nameOrEmpty ∧ 0x5c ∉ baseName d.nameOrEmpty := by
  have isComponent : IsComponent d.nameOrEmpty (component d.nameOrEmpty) := isComponent_iff.mpr rfl
  have inComponent : baseName d.nameOrEmpty <+: component d.nameOrEmpty := stem_isPrefix _
  refine ⟨component d.nameOrEmpty, fun t => isComponent_iff.trans eq_comm, isSupported_iff, ?_,
    inComponent, ?_, ?_⟩
  · intro stem ending file
    obtain ⟨sameBase, lowered⟩ :
        baseName d.nameOrEmpty = stem ∧ extension d.nameOrEmpty = ending.lower :=
      file.elim isPlain_ipynb.named isPlain_py.named
    refine ⟨sameBase, lowered, ?_⟩
    rw [isNotebook, beq_iff_eq, lowered]
    exact isPlain_ipynb.lower_eq_iff
  · exact fun member => isComponent.noSlash (inComponent.subset member)
  · exact fun member => isComponent.noBackslash (inComponent.subset member)

/-- In lower case the dotted capital of the stem is two characters, and the extension is still what follows
the last dot. -/
theorem names_classified_dottedCapital :
    IsComponent " C:\\datos/İnforme.V2.IPYNB\n" "İnforme.V2.IPYNB" ∧
      IsFileOf ".ipynb" "İnforme.V2.IPYNB" "İnforme.V2" ".IPYNB" ∧
      isSupported " C:\\datos/İnforme.V2.IPYNB\n" = true ∧
      baseName " C:\\datos/İnforme.V2.IPYNB\n" = Text.ofString "İnforme.V2" ∧
      extension " C:\\datos/İnforme.V2.IPYNB\n" = Text.lower ".IPYNB" ∧
      isNotebook " C:\\datos/İnforme.V2.IPYNB\n" = true := by
  have last : IsComponent " C:\\datos/İnforme.V2.IPYNB\n" "İnforme.V2.IPYNB" :=
    isComponent_iff.mpr (by decide +kernel)
  have file : IsFileOf ".ipynb" "İnforme.V2.IPYNB" "İnforme.V2" ".IPYNB" :=
    ⟨by decide, by decide, by decide⟩
  obtain ⟨c, isLast, supported, named, -⟩ :=
    names_classified ⟨some " C:\\datos/İnforme.V2.IPYNB\n", .bytes []⟩
  obtain rfl := (isLast _).mp last
  obtain ⟨base, lowered, notebook⟩ := named _ _ (.inl file)
  exact ⟨last, file, supported.mpr ⟨_, _, .inl file⟩, base, lowered, notebook.mpr file.anyCase⟩

end FileName

end NotebookAudit

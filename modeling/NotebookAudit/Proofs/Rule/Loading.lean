import NotebookAudit.Proofs.Rule.Entries
import NotebookAudit.Proofs.Rule.FirstOfEach

/-!
Loading rule files one after another.

Every file is read, left out with a remark, or ends the loading. If no file ends it, what is loaded
is the first rule of each identifier in the valid entries of all files (`loadFiles_of_goesOn`);
otherwise the first file that ends it decides the fault, and the rules of the files in front of it
are loaded (`loadFiles_of_ends`).
-/

namespace NotebookAudit

/-! ## One file -/

namespace StoredFile

/-- The rules that a file brings: those of its valid entries, if it can be opened. -/
def rules : Except FileError Bytes → List Rule
  | .ok bytes => RuleFile.validRules bytes
  | .error _ => []

/-- What is remarked about a file that is left out: it cannot be opened, or is no YAML. -/
def leftOut? : Except FileError Bytes → Option StoreFileRemark
  | .error e => some (.unreadable e)
  | .ok bytes =>
    match RuleFile.ofBytes bytes with
    | .error (.yaml .malformed) => some .malformed
    | _ => none

/-- The file can be opened, and its reading breaks off with a fault. -/
def Ends (content : Except FileError Bytes) (fault : RuleFileFault) : Prop :=
  ∃ bytes, content = .ok bytes ∧ RuleFile.BreaksOff bytes fault

/-- The reading of the file does not break off. -/
def GoesOn (content : Except FileError Bytes) : Prop := ∀ fault, ¬ Ends content fault

theorem leftOut?_cases {content : Except FileError Bytes} {remark : StoreFileRemark}
    (leftOut : leftOut? content = some remark) :
    (∃ e, content = .error e ∧ remark = .unreadable e) ∨
      ∃ bytes, content = .ok bytes ∧ RuleFile.ofBytes bytes = .error (.yaml .malformed) ∧
        remark = .malformed := by
  unfold leftOut? at leftOut
  split at leftOut
  · next e =>
    cases leftOut
    exact .inl ⟨e, rfl, rfl⟩
  · next bytes =>
    split at leftOut
    · next malformed =>
      cases leftOut
      exact .inr ⟨bytes, rfl, malformed, rfl⟩
    · cases leftOut

/-- A file that is left out brings no rules. -/
theorem rules_of_leftOut {content : Except FileError Bytes} {remark : StoreFileRemark}
    (leftOut : leftOut? content = some remark) : rules content = [] := by
  rcases leftOut?_cases leftOut with ⟨e, rfl, -⟩ | ⟨bytes, rfl, malformed, -⟩
  · rfl
  · exact RuleFile.validRules_of_yaml malformed

end StoredFile

open StoredFile

section Loading

variable {loaded : List Rule} {name : Text} {content : Except FileError Bytes}
  {files rest : List (Text × Except FileError Bytes)}

/-- A file whose reading breaks off ends the loading. -/
theorem loadFiles_cons_of_ends {fault : RuleFileFault} (ends : Ends content fault) :
    loadFiles loaded ((name, content) :: rest) = ⟨loaded, [], some (.file fault)⟩ := by
  obtain ⟨bytes, rfl, failed, notMalformed⟩ := ends
  rw [loadFiles]
  dsimp only
  split
  · next malformed =>
    rw [failed] at malformed
    cases malformed
    exact absurd rfl notMalformed
  · next fault' _ failed' =>
    rw [failed] at failed'
    cases failed'
    rfl
  · next read =>
    rw [failed] at read
    cases read

/-- Any other file adds its rules, and what is left out is remarked. -/
theorem loadFiles_cons_of_goesOn (loaded : List Rule) (name : Text)
    (rest : List (Text × Except FileError Bytes)) (goesOn : GoesOn content) :
    ∃ remarks, loadFiles loaded ((name, content) :: rest) =
        (loadFiles (keepFirst loaded (rules content)).1 rest).after remarks ∧
      ∀ remark, leftOut? content = some remark → .file name remark ∈ remarks := by
  cases content with
  | error e =>
      refine ⟨[.file name (.unreadable e)], rfl, fun remark leftOut => ?_⟩
      cases leftOut
      exact List.mem_singleton.mpr rfl
  | ok bytes =>
      rcases RuleFile.ofBytes_cases bytes with ⟨file, read⟩ | malformed | ⟨fault, breaks⟩
      · rw [loadFiles]
        dsimp only
        rw [read]
        dsimp only
        rw [RuleFile.ofBytes_rules read]
        refine ⟨_, rfl, fun remark leftOut => ?_⟩
        rw [leftOut?, read] at leftOut
        cases leftOut
      · rw [loadFiles]
        dsimp only
        rw [malformed, rules, RuleFile.validRules_of_yaml malformed]
        refine ⟨[.file name .malformed], rfl, fun remark leftOut => ?_⟩
        rw [leftOut?, malformed] at leftOut
        cases leftOut
        exact List.mem_singleton.mpr rfl
      · exact absurd ⟨bytes, rfl, breaks⟩ (goesOn fault)

/-! ## All files -/

/-- Either no file ends the loading, or the files split at the first that does. -/
theorem goesOn_or_first_end (files : List (Text × Except FileError Bytes)) :
    (∀ f ∈ files, GoesOn f.2) ∨
      ∃ before f after fault, files = before ++ f :: after ∧ (∀ g ∈ before, GoesOn g.2) ∧
        Ends f.2 fault := by
  induction files with
  | nil => exact .inl (List.forall_mem_nil _)
  | cons f rest ih =>
      by_cases ends : ∃ fault, Ends f.2 fault
      · obtain ⟨fault, ends⟩ := ends
        exact .inr ⟨[], f, rest, fault, rfl, List.forall_mem_nil _, ends⟩
      · have goesOn : GoesOn f.2 := not_exists.mp ends
        rcases ih with restGoesOn | ⟨before, g, after, fault, rfl, beforeGoesOn, ends⟩
        · exact .inl (List.forall_mem_cons.mpr ⟨goesOn, restGoesOn⟩)
        · exact .inr ⟨f :: before, g, after, fault, rfl,
            List.forall_mem_cons.mpr ⟨goesOn, beforeGoesOn⟩, ends⟩

/-- Files of which none ends the loading give the first rule of each identifier, and those left out
are remarked. What comes after them is loaded on top of their rules. -/
theorem loadFiles_append (before : List Rule) (rest : List (Text × Except FileError Bytes))
    (goesOn : ∀ f ∈ files, GoesOn f.2) :
    ∃ remarks, loadFiles (Rule.firstOfEachId before) (files ++ rest) =
        (loadFiles (Rule.firstOfEachId (before ++ files.flatMap fun f => rules f.2)) rest).after
          remarks ∧
      ∀ f ∈ files, ∀ remark, leftOut? f.2 = some remark → .file f.1 remark ∈ remarks := by
  induction files generalizing before with
  | nil => exact ⟨[], by simp [Loading.after], fun _ member => nomatch member⟩
  | cons f files ih =>
      rw [List.forall_mem_cons] at goesOn
      obtain ⟨remarks, first, firstLeftOut⟩ :=
        loadFiles_cons_of_goesOn (Rule.firstOfEachId before) f.1 (files ++ rest) goesOn.1
      obtain ⟨more, last, lastLeftOut⟩ := ih (before ++ rules f.2) goesOn.2
      refine ⟨remarks ++ more, ?_, ?_⟩
      · rw [List.cons_append, first, keepFirst_firstOfEachId, last, List.flatMap_cons,
          List.append_assoc]
        simp [Loading.after]
      · intro g member remark leftOut
        rcases List.mem_cons.mp member with rfl | later
        · exact List.mem_append_left _ (firstLeftOut remark leftOut)
        · exact List.mem_append_right _ (lastLeftOut g later remark leftOut)

/-- If no file ends the loading, the first rule of each identifier is loaded. -/
theorem loadFiles_of_goesOn (goesOn : ∀ f ∈ files, GoesOn f.2) :
    (loadFiles [] files).rules = Rule.firstOfEachId (files.flatMap fun f => rules f.2) ∧
      (loadFiles [] files).fault = none ∧
      ∀ f ∈ files, ∀ remark, leftOut? f.2 = some remark →
        .file f.1 remark ∈ (loadFiles [] files).remarks := by
  obtain ⟨remarks, all, leftOut⟩ := loadFiles_append [] [] goesOn
  rw [List.append_nil, List.nil_append] at all
  have whole : loadFiles [] files = _ := all
  rw [whole]
  refine ⟨rfl, rfl, fun f member remark isLeftOut => ?_⟩
  exact List.mem_append_left _ (leftOut f member remark isLeftOut)

/-- The first file that ends the loading decides its fault. What is loaded then comes from the files
in front of it. -/
theorem loadFiles_of_ends {f : Text × Except FileError Bytes} {fault : RuleFileFault}
    (goesOn : ∀ g ∈ files, GoesOn g.2) (ends : Ends f.2 fault) :
    (loadFiles [] (files ++ f :: rest)).rules =
        Rule.firstOfEachId (files.flatMap fun g => rules g.2) ∧
      (loadFiles [] (files ++ f :: rest)).fault = some (.file fault) := by
  obtain ⟨remarks, front, -⟩ := loadFiles_append [] (f :: rest) goesOn
  have whole : loadFiles [] (files ++ f :: rest) = _ := front
  rw [whole, loadFiles_cons_of_ends ends]
  exact ⟨rfl, rfl⟩

theorem loadFiles_fault_eq_none_iff :
    (loadFiles [] files).fault = none ↔ ∀ f ∈ files, GoesOn f.2 := by
  constructor
  · intro faultless
    rcases goesOn_or_first_end files with goesOn | ⟨before, f, after, fault, rfl, goesOn, ends⟩
    · exact goesOn
    · rw [(loadFiles_of_ends goesOn ends).2] at faultless
      cases faultless
  · intro goesOn
    exact (loadFiles_of_goesOn goesOn).2.1

end Loading

end NotebookAudit

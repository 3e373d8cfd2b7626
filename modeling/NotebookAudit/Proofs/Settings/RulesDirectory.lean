import NotebookAudit.Config
import NotebookAudit.Proofs.FileTree.Writing
import NotebookAudit.Proofs.Json.Decoded

/-!
Settings with another directory of the rules, and settings that are saved.

To set the directory of the rules is refused exactly where there is nothing to set it in
(`Settings.Refuses`). Otherwise one member changes, and all others are kept in their order
(`Settings.SetsRulesDirectory`).

Settings that can be written are loaded again as they were saved (`Settings.load_saved`). What is loaded
was read from a text, whatever the file holds (`Settings.isDecoded_of_load`), so it can be written; and so
can the new settings, as long as they nest no deeper than the limit
(`Settings.writable_setRulesDirectory`).
-/

namespace NotebookAudit

namespace Json

variable {name : Text} {v : Json} {members : List (Text × Json)} {asciiOnly : Bool} {depth : Nat}

/-- The members after are those before with the member of the name set: in its place, or at the end if
there was none. -/
inductive Sets (name : Text) (v : Json) : List (Text × Json) → List (Text × Json) → Prop
  | inPlace {front back : List (Text × Json)} {old : Json} (first : name ∉ front.map Prod.fst) :
    Sets name v (front ++ (name, old) :: back) (front ++ (name, v) :: back)
  | atEnd {members : List (Text × Json)} (absent : name ∉ members.map Prod.fst) :
    Sets name v members (members ++ [(name, v)])

/-- A member of another name in front changes nothing. -/
theorem Sets.cons {before after : List (Text × Json)} (sets : Sets name v before after)
    {m : Text × Json} (other : m.1 ≠ name) : Sets name v (m :: before) (m :: after) := by
  have apart {rest : List (Text × Json)} (absent : name ∉ rest.map Prod.fst) :
      name ∉ (m :: rest).map Prod.fst := by
    rw [List.map_cons, List.mem_cons, not_or]
    exact ⟨fun same => other same.symm, absent⟩
  cases sets with
  | @inPlace front back old first =>
      rw [← List.cons_append, ← List.cons_append]
      exact .inPlace (apart first)
  | atEnd absent =>
      rw [← List.cons_append]
      exact .atEnd (apart absent)

theorem sets_setMember (name : Text) (v : Json) (members : List (Text × Json)) :
    Sets name v members (setMember name v members) := by
  induction members with
  | nil => exact .atEnd List.not_mem_nil
  | cons m rest ih =>
      obtain ⟨n, old⟩ := m
      rw [setMember]
      split
      · next same =>
        subst same
        have first : n ∉ ([] : List (Text × Json)).map Prod.fst := List.not_mem_nil
        exact .inPlace first
      · next other => exact ih.cons other

/-- The member that is set is looked up. -/
theorem Sets.member? {before after : List (Text × Json)} (sets : Sets name v before after) :
    member? name after = some v := by
  have behind {front back : List (Text × Json)} (first : name ∉ front.map Prod.fst) :
      Json.member? name (front ++ (name, v) :: back) = some v := by
    have noneBefore : front.find? (fun m => decide (m.1 = name)) = none := by
      rw [List.find?_eq_none]
      intro m member
      rw [decide_eq_true_eq]
      exact fun same => first (List.mem_map.mpr ⟨m, member, same⟩)
    rw [Json.member?, List.find?_append, noneBefore]
    simp
  cases sets with
  | inPlace first => exact behind first
  | atEnd absent => exact behind absent

theorem mem_of_member? (found : member? name members = some v) : (name, v) ∈ members := by
  obtain ⟨m, isFirst, rfl⟩ := Option.map_eq_some_iff.mp found
  have sameName : m.1 = name := by simpa using List.find?_some isFirst
  rw [← sameName]
  exact List.mem_of_find?_eq_some isFirst

/-- An object can be written after a member is set to what can be written. -/
theorem Writable.setMember (writable : Writable asciiOnly (depth + 1) (.object members))
    (isName : WritableText asciiOnly name) (value : Writable asciiOnly depth v) :
    Writable asciiOnly (depth + 1) (.object (setMember name v members)) := by
  cases writable with
  | object distinct names each =>
      refine .object (nodup_setMember distinct name v) (fun m member => ?_) fun m member => ?_
      · rcases mem_setMember member with rfl | old
        · exact isName
        · exact names m old
      · rcases mem_setMember member with rfl | old
        · exact value
        · exact each m old

end Json

namespace Settings

variable {s new : Settings} {v : Json} {bytes : Bytes} {tree : FileTree} {path : FilePath}

/-! ## Setting the directory of the rules -/

/-- The settings are no object, or their paths are given and are no object. -/
def Refuses (s : Settings) : Prop :=
  (∀ members, s ≠ .object members) ∨
    ∃ members given, s = .object members ∧ Json.member? "paths" members = some given ∧
      ∀ paths, given ≠ .object paths

/-- The new settings are the old ones with the directory of the rules set among the paths. The other
paths and the other settings are kept in their order; paths that are not given come at the end. -/
def SetsRulesDirectory (s : Settings) (v : Json) (new : Settings) : Prop :=
  ∃ members members' paths paths', s = .object members ∧ new = .object members' ∧
    (Json.member? "paths" members = some (.object paths) ∨
      Json.member? "paths" members = none ∧ paths = []) ∧
    Json.Sets "rules_dir" v paths paths' ∧ Json.Sets "paths" (.object paths') members members'

theorem setRulesDirectory_of_refuses (refuses : s.Refuses) (v : Json) :
    s.setRulesDirectory v = .error .notAssignable := by
  rcases refuses with noObject | ⟨members, given, rfl, found, noPaths⟩
  · cases s with
    | object members => exact absurd rfl (noObject members)
    | _ => rfl
  · rw [setRulesDirectory, found]
    cases given with
    | object paths => exact absurd rfl (noPaths paths)
    | _ => rfl

/-- Settings that do not refuse are an object that has paths or takes them. -/
theorem exists_paths (takes : ¬ s.Refuses) :
    ∃ members paths, s = .object members ∧
      (Json.member? "paths" members = some (.object paths) ∨
        Json.member? "paths" members = none ∧ paths = []) := by
  cases s with
  | object members =>
      cases found : Json.member? "paths" members with
      | none => exact ⟨members, [], rfl, .inr ⟨found, rfl⟩⟩
      | some given =>
          cases given with
          | object paths => exact ⟨members, paths, rfl, .inl found⟩
          | _ =>
              refine absurd (.inr ⟨members, _, rfl, found, ?_⟩) takes
              exact fun paths same => nomatch same
  | _ => exact absurd (.inl fun members same => nomatch same) takes

theorem setRulesDirectory_of_paths {members paths : List (Text × Json)}
    (given : Json.member? "paths" members = some (.object paths) ∨
      Json.member? "paths" members = none ∧ paths = []) (v : Json) :
    setRulesDirectory (.object members) v =
      .ok (.object (Json.setMember "paths" (.object (Json.setMember "rules_dir" v paths)) members)) := by
  rcases given with found | ⟨absent, rfl⟩
  · rw [setRulesDirectory, found]
    rfl
  · rw [setRulesDirectory, absent]
    rfl

/-- Settings that do not refuse take the directory of the rules. -/
theorem exists_setRulesDirectory (takes : ¬ s.Refuses) (v : Json) :
    ∃ new, s.setRulesDirectory v = .ok new ∧ s.SetsRulesDirectory v new := by
  obtain ⟨members, paths, rfl, given⟩ := exists_paths takes
  exact ⟨_, setRulesDirectory_of_paths given v, members, _, paths, _, rfl, rfl, given,
    Json.sets_setMember _ _ _, Json.sets_setMember _ _ _⟩

/-- What is set is looked up again, unless the environment says another directory or the value counts
as not given. -/
theorem SetsRulesDirectory.rulesDirectory {env : Environment} (sets : s.SetsRulesDirectory v new)
    (unset : Environment.given env.rulesDirectory = none) (given : v.isTruthy = true) :
    new.rulesDirectory env = .ok v := by
  obtain ⟨members, members', paths, paths', -, rfl, -, inPaths, inMembers⟩ := sets
  have group : group "paths" (.object members') = .ok paths' := by
    rw [Settings.group, inMembers.member?]
  simp only [Settings.rulesDirectory, unset, group, inPaths.member?, if_pos given, bind, Except.bind,
    pure, Except.pure]

/-! ## Saving and loading -/

/-- A text without carriage returns keeps its line endings. -/
theorem unifyNewlines_of_noReturn {t : Text} (noReturn : 0x0d ∉ t) : t.unifyNewlines = t := by
  fun_induction Text.unifyNewlines t with
  | case1 rest ih => exact absurd List.mem_cons_self noReturn
  | case2 rest notPair ih => exact absurd List.mem_cons_self noReturn
  | case3 c rest notPair notReturn ih => rw [ih fun later => noReturn (List.mem_cons_of_mem _ later)]
  | case4 => rfl

theorem encodable_unifyNewlines {t : Text} (encodable : Utf8.IsEncodable t) :
    Utf8.IsEncodable t.unifyNewlines := by
  have lineFeed : CodePoint.isScalar 0x0a = true := rfl
  fun_induction Text.unifyNewlines t with
  | case1 rest ih =>
      obtain ⟨-, others⟩ := List.forall_mem_cons.mp encodable
      exact List.forall_mem_cons.mpr ⟨lineFeed, ih (List.forall_mem_cons.mp others).2⟩
  | case2 rest notPair ih =>
      exact List.forall_mem_cons.mpr ⟨lineFeed, ih (List.forall_mem_cons.mp encodable).2⟩
  | case3 c rest notPair notReturn ih =>
      obtain ⟨first, others⟩ := List.forall_mem_cons.mp encodable
      exact List.forall_mem_cons.mpr ⟨first, ih others⟩
  | case4 => exact encodable

/-- The settings that a file holds are read from a text of scalar values. -/
theorem isDecoded_of_ofBytes (holds : ofBytes bytes = .ok s) : Json.IsDecoded s := by
  rw [ofBytes] at holds
  cases decoded : Utf8.decode bytes with
  | error fault =>
      rw [decoded] at holds
      cases holds
  | ok t =>
      rw [decoded] at holds
      have read : Json.read t.unifyNewlines = .ok s := mapError_eq_ok_iff.mp holds
      exact ⟨_, encodable_unifyNewlines (Utf8.decode_eq_ok_iff.mp decoded).1, read⟩

theorem isDecoded_of_ofFile (holds : ofFile tree path = .ok s) : Json.IsDecoded s := by
  rw [ofFile] at holds
  cases read : tree.read path with
  | error e =>
      rw [read] at holds
      cases holds
  | ok bytes =>
      rw [read] at holds
      exact isDecoded_of_ofBytes holds

theorem isDecoded_default : Json.IsDecoded default := by
  have noPaths : Json.Writable true 989 (.object []) :=
    .object List.nodup_nil (List.forall_mem_nil _) (List.forall_mem_nil _)
  have whole : Json.Writable true Json.depthLimit (default : Settings) :=
    .object (by decide)
      (List.forall_mem_cons.mpr ⟨.of_isEncodable (by decide),
        List.forall_mem_singleton.mpr (.of_isEncodable (by decide))⟩)
      (List.forall_mem_cons.mpr ⟨noPaths, List.forall_mem_singleton.mpr noPaths⟩)
  exact whole.isDecoded

/-- Settings are loaded as the file that is there holds them. -/
theorem load_of_holds {node : FileNode} (found : tree.find? path = .ok (some node))
    (holds : ofFile tree path = .ok s) : load tree path = .ok (s, []) := by
  simp only [load, found, holds, bind, Except.bind, pure, Except.pure]

/-- Where the file that is there holds no settings, those by default are loaded, with a remark. -/
theorem load_of_fault {node : FileNode} {fault : ConfigFault}
    (found : tree.find? path = .ok (some node)) (held : ofFile tree path = .error fault) :
    load tree path = .ok (default, [.notLoaded fault]) := by
  simp only [load, found, held, bind, Except.bind, pure, Except.pure]

/-- Settings that are loaded, from a file or by default, are read from a text of scalar values. -/
theorem isDecoded_of_load {remarks : List ConfigRemark} (loads : load tree path = .ok (s, remarks)) :
    Json.IsDecoded s := by
  cases found : tree.find? path with
  | error e =>
      rw [load, found] at loads
      cases loads
  | ok node? =>
      cases node? with
      | none =>
          rw [load, found] at loads
          cases loads
          exact isDecoded_default
      | some node =>
          cases held : ofFile tree path with
          | error fault =>
              rw [load_of_fault found held] at loads
              cases loads
              exact isDecoded_default
          | ok holds =>
              rw [load_of_holds found held] at loads
              cases loads
              exact isDecoded_of_ofFile held

/-- Settings that can be written are what the bytes of their file hold. -/
theorem ofBytes_toBytes (writable : Json.Writable true Json.depthLimit s) :
    ofBytes s.toBytes = .ok s := by
  have written : Utf8.decode s.toBytes = .ok (Json.write .file s) :=
    Utf8.decode_eq_ok_iff.mpr ⟨Json.isEncodable_write writable, rfl⟩
  have noReturn : 0x0d ∉ Json.write .file s := by
    intro member
    rcases Json.printed_writeAt writable 0 _ member with lineFeed | ⟨visible, -⟩
    · cases lineFeed
    · exact absurd visible (by decide)
  have read : Json.read (Json.write .file s) = .ok s :=
    Json.read_eq_ok_iff.mpr (Json.document_write writable)
  rw [ofBytes, written]
  show (Json.read (Json.write .file s).unifyNewlines).mapError _ = _
  rw [unifyNewlines_of_noReturn noReturn, read]
  rfl

/-- Settings that are saved are loaded again as they are. -/
theorem load_saved (writable : Json.Writable true Json.depthLimit s)
    (canWrite : tree.IsWritable path) :
    ∃ after, save tree path s = (after, .saved path) ∧ load after path = .ok (s, []) := by
  obtain ⟨after, written, found, read⟩ := canWrite.read s.toBytes
  refine ⟨after, by rw [save, written], ?_⟩
  have holds : ofFile after path = .ok s := by
    rw [ofFile, read]
    exact ofBytes_toBytes writable
  exact load_of_holds found holds

/-- The new settings can be written if the old ones and the directory are read from texts, within the
limit of nesting. -/
theorem writable_setRulesDirectory (set : s.setRulesDirectory v = .ok new)
    (decoded : Json.IsDecoded s) (keeps : Json.KeepsDoubles s) (value : Json.IsDecoded v)
    (valueKeeps : Json.KeepsDoubles v) (shallow : Json.nesting v + 2 ≤ Json.depthLimit) :
    Json.Writable true Json.depthLimit new := by
  have takes : ¬ s.Refuses := by
    intro refuses
    rw [setRulesDirectory_of_refuses refuses] at set
    cases set
  obtain ⟨members, paths, rfl, given⟩ := exists_paths takes
  rw [setRulesDirectory_of_paths given] at set
  cases set
  have old : Json.Writable true Json.depthLimit (.object members) :=
    decoded.writable keeps decoded.nesting_le
  obtain ⟨depth, limit⟩ : ∃ depth, Json.depthLimit = depth + 1 + 1 := ⟨_, rfl⟩
  rw [limit] at old shallow ⊢
  have shallow : Json.nesting v ≤ depth := by omega
  have name (word : Text) (ascii : Utf8.IsEncodable word) : Json.WritableText true word :=
    .of_isEncodable ascii
  have oldPaths : Json.Writable true (depth + 1) (.object paths) := by
    rcases given with found | ⟨-, rfl⟩
    · cases old with
      | object distinct names each => exact each _ (Json.mem_of_member? found)
    · exact .object List.nodup_nil (List.forall_mem_nil _) (List.forall_mem_nil _)
  exact old.setMember (name "paths" (by decide))
    (oldPaths.setMember (name "rules_dir" (by decide)) (value.writable valueKeeps shallow))

end Settings

end NotebookAudit

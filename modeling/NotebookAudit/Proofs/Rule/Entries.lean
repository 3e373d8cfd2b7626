import NotebookAudit.Proofs.Result
import NotebookAudit.Proofs.Text.Utf8
import NotebookAudit.Rule.File

/-!
The valid entries of a rule file.

The entries of a document are the items of the list under its member `rules`, and a valid entry is a
mapping whose fields make a rule. A file that is read gives the rules of its valid entries in their
order (`RuleFile.ofBytes_rules`). A file whose text is no well-formed YAML is left out, and
`RuleFile.breaksOff_iff` says which files are neither read nor left out: those that are not UTF-8,
those with a scalar that has no value or with collections nested too deep, and those whose version
cannot be shown.
-/

namespace NotebookAudit

namespace Yaml.Document

/-- The entries of a rule document: the items of the list under `rules`. -/
def entries (d : Document) : List Nat :=
  match d.value d.root with
  | .dict members =>
    match (d.member? "rules" members).map d.value with
    | some (.list items) => items
    | _ => []
  | _ => []

/-- The rule of a valid entry: a mapping whose names are texts and whose fields make a rule. -/
def rule? (d : Document) (entry : Nat) : Option Rule :=
  match d.value entry with
  | .dict members => (d.fields? members).bind fun fields => (Rule.ofEntry fields).toOption
  | _ => none

/-- The rules of the valid entries of a document, in their order. -/
def validRules (d : Document) : List Rule := d.entries.filterMap d.rule?

theorem ruleOfEntry_toOption (d : Document) (position entry : Nat) :
    (d.ruleOfEntry position entry).toOption = d.rule? entry := by
  rw [ruleOfEntry, rule?]
  cases d.value entry with
  | dict members =>
      dsimp only
      cases d.fields? members with
      | none => rfl
      | some fields => cases made : Rule.ofEntry fields <;> simp [made, Except.mapError,
          Except.toOption]
  | _ => rfl

theorem rulesOfEntries_rules (d : Document) (items : List Nat) :
    (d.rulesOfEntries items).rules = items.filterMap d.rule? := by
  have kept : (d.rulesOfEntries items).rules =
      (items.zipIdx.map fun p => d.ruleOfEntry (p.2 + 1) p.1).filterMap Except.toOption := by
    refine congrArg (List.filterMap · _) (funext fun r => ?_)
    cases r <;> rfl
  have each : Except.toOption ∘ (fun p : Nat × Nat => d.ruleOfEntry (p.2 + 1) p.1) =
      d.rule? ∘ Prod.fst := funext fun p => ruleOfEntry_toOption d (p.2 + 1) p.1
  rw [kept, List.filterMap_map, each, ← List.filterMap_map, List.zipIdx_map_fst]

theorem rulesOfValue_rules (d : Document) (index : Nat) :
    (d.rulesOfValue index).rules =
      match d.value index with
      | .list items => items.filterMap d.rule?
      | _ => [] := by
  rw [rulesOfValue]
  cases d.value index with
  | list items => exact rulesOfEntries_rules d items
  | pairs items => rfl
  | _ => dsimp only; split <;> rfl

end Yaml.Document

namespace RuleFile

/-- A document that is read as rules gives those of its valid entries. -/
theorem ofDocument_rules {d : Yaml.Document} {file : RuleFile} (read : ofDocument d = .ok file) :
    file.rules = d.validRules := by
  rw [ofDocument] at read
  rw [Yaml.Document.validRules, Yaml.Document.entries]
  cases root : d.value d.root with
  | dict members =>
      rw [root] at read
      dsimp only at read ⊢
      cases found : d.member? "rules" members with
      | none =>
          rw [found] at read
          cases read
          rfl
      | some index =>
          rw [found] at read
          obtain ⟨version, -, read⟩ := bind_eq_ok_iff.mp read
          cases read
          show (d.rulesOfValue index).rules = _
          rw [Yaml.Document.rulesOfValue_rules, Option.map_some]
          cases d.value index <;> rfl
  | _ =>
      rw [root] at read
      cases read
      rfl

/-- A document is not read as rules exactly if it has rules and its version cannot be shown. -/
theorem ofDocument_eq_error_iff {d : Yaml.Document} {fault : NumeralFault} :
    ofDocument d = .error fault ↔
      ∃ members, d.value d.root = .dict members ∧ (d.member? "rules" members).isSome = true ∧
        d.version members = .error fault := by
  rw [ofDocument]
  cases root : d.value d.root with
  | dict members =>
      dsimp only
      cases found : d.member? "rules" members with
      | none => simp [found]
      | some index =>
          cases shown : d.version members with
          | error f =>
              show Except.error f = Except.error fault ↔ _
              simp [found, shown]
          | ok version =>
              constructor
              · intro failed
                cases failed
              · intro failed
                obtain ⟨_, same, -, failed⟩ := failed
                cases same
                rw [shown] at failed
                cases failed
  | _ => simp

/-! ## The bytes of a file -/

/-- The YAML document that the bytes of a file write, if they are UTF-8 and their text is one. -/
def document? (bytes : Bytes) : Option Yaml.Document :=
  match Utf8.decode bytes with
  | .ok t => (Yaml.Document.ofText t.unifyNewlines).toOption
  | .error _ => none

/-- The rules of the valid entries of a file, in their order. A file that is no document has
none. -/
def validRules (bytes : Bytes) : List Rule :=
  match document? bytes with
  | some d => d.validRules
  | none => []

theorem document?_of_text {bytes : Bytes} {t : Text} (decoded : Utf8.decode bytes = .ok t) :
    document? bytes = (Yaml.Document.ofText t.unifyNewlines).toOption := by
  rw [document?, decoded]

theorem ofBytes_of_text {bytes : Bytes} {t : Text} (decoded : Utf8.decode bytes = .ok t) :
    ofBytes bytes = ofText t.unifyNewlines := by
  have read : Utf8.decodeBlocks blockSize (bytes.length + 1) [] bytes = .ok t :=
    Utf8.decodeBlocks_eq_ok_iff.mpr decoded
  rw [ofBytes, read]
  rfl

/-- Bytes that are no text stop the reading of a file. -/
theorem ofBytes_of_noText {bytes : Bytes} {f : Utf8.Fault} (undecoded : Utf8.decode bytes = .error f) :
    ∃ fault, ofBytes bytes = .error (.encoding fault) := by
  cases read : Utf8.decodeBlocks blockSize (bytes.length + 1) [] bytes with
  | ok t =>
      have decoded : Utf8.decode bytes = .ok t := Utf8.decodeBlocks_eq_ok_iff.mp read
      rw [undecoded] at decoded
      cases decoded
  | error fault =>
      refine ⟨fault, ?_⟩
      rw [ofBytes, read]
      rfl

/-- A file that is read gives the rules of its valid entries. -/
theorem ofBytes_rules {bytes : Bytes} {file : RuleFile} (read : ofBytes bytes = .ok file) :
    file.rules = validRules bytes := by
  cases decoded : Utf8.decode bytes with
  | error f =>
      obtain ⟨fault, stopped⟩ := ofBytes_of_noText decoded
      rw [stopped] at read
      cases read
  | ok t =>
      rw [ofBytes_of_text decoded, ofText] at read
      obtain ⟨d, parsed, read⟩ := bind_eq_ok_iff.mp read
      rw [mapError_eq_ok_iff] at parsed read
      rw [validRules, document?_of_text decoded, parsed]
      exact ofDocument_rules read

/-- A file whose text is no document has no entries. -/
theorem validRules_of_yaml {bytes : Bytes} {e : Yaml.Error}
    (failed : ofBytes bytes = .error (.yaml e)) : validRules bytes = [] := by
  cases decoded : Utf8.decode bytes with
  | error f => rw [validRules, document?, decoded]
  | ok t =>
      rw [ofBytes_of_text decoded, ofText] at failed
      rcases bind_eq_error_iff.mp failed with unparsed | ⟨d, -, noVersion⟩
      · obtain ⟨e', unparsed, -⟩ := mapError_eq_error_iff.mp unparsed
        rw [validRules, document?_of_text decoded, unparsed]
        rfl
      · obtain ⟨_, -, same⟩ := mapError_eq_error_iff.mp noVersion
        cases same

/-- Reading the file stops with a fault that is more than a text that is not well formed. -/
def BreaksOff (bytes : Bytes) (fault : RuleFileFault) : Prop :=
  ofBytes bytes = .error fault ∧ fault ≠ .yaml .malformed

/-- A file is read, or its text is not well formed, or its reading breaks off. -/
theorem ofBytes_cases (bytes : Bytes) :
    (∃ file, ofBytes bytes = .ok file) ∨ ofBytes bytes = .error (.yaml .malformed) ∨
      ∃ fault, BreaksOff bytes fault := by
  cases read : ofBytes bytes with
  | ok file => exact .inl ⟨file, rfl⟩
  | error fault =>
      by_cases malformed : fault = .yaml .malformed
      · exact .inr (.inl (by rw [malformed]))
      · exact .inr (.inr ⟨fault, read, malformed⟩)

/-- The bytes of a file are no text, or the text is well-formed YAML that is nested too deep or holds
a scalar without a value, or it is a document with rules whose version cannot be shown. -/
def IsFatal (bytes : Bytes) : Prop :=
  (∀ t, Utf8.IsEncodable t → Utf8.encode t ≠ bytes) ∨
  ∃ t, Utf8.IsEncodable t ∧ Utf8.encode t = bytes ∧
    (Yaml.Document.ofText t.unifyNewlines = .error .tooDeep ∨
      (∃ f, Yaml.Document.ofText t.unifyNewlines = .error (.value f)) ∨
      ∃ d members f, Yaml.Document.ofText t.unifyNewlines = .ok d ∧
        d.value d.root = .dict members ∧ (d.member? "rules" members).isSome = true ∧
        d.version members = .error f)

/-- These are the files whose reading breaks off. -/
theorem breaksOff_iff {bytes : Bytes} : (∃ fault, BreaksOff bytes fault) ↔ IsFatal bytes := by
  constructor
  · intro breaks
    obtain ⟨fault, failed, notMalformed⟩ := breaks
    cases decoded : Utf8.decode bytes with
    | error f =>
        refine .inl fun t encodable encoded => ?_
        rw [Utf8.decode_eq_ok_iff.mpr ⟨encodable, encoded⟩] at decoded
        cases decoded
    | ok t =>
        obtain ⟨encodable, encoded⟩ := Utf8.decode_eq_ok_iff.mp decoded
        refine .inr ⟨t, encodable, encoded, ?_⟩
        rw [ofBytes_of_text decoded, ofText] at failed
        rcases bind_eq_error_iff.mp failed with unparsed | ⟨d, parsed, noVersion⟩
        · obtain ⟨e, stopped, rfl⟩ := mapError_eq_error_iff.mp unparsed
          cases e with
          | malformed => exact absurd rfl notMalformed
          | tooDeep => exact .inl stopped
          | value f => exact .inr (.inl ⟨f, stopped⟩)
        · obtain ⟨f, unshown, -⟩ := mapError_eq_error_iff.mp noVersion
          obtain ⟨members, root, rules, unshown⟩ := ofDocument_eq_error_iff.mp unshown
          exact .inr (.inr ⟨d, members, f, mapError_eq_ok_iff.mp parsed, root, rules, unshown⟩)
  · intro cause
    rcases cause with noText | ⟨t, encodable, encoded, cause⟩
    · cases decoded : Utf8.decode bytes with
      | error f =>
          obtain ⟨fault, stopped⟩ := ofBytes_of_noText decoded
          exact ⟨_, stopped, fun same => nomatch same⟩
      | ok t =>
          obtain ⟨encodable, encoded⟩ := Utf8.decode_eq_ok_iff.mp decoded
          exact absurd encoded (noText t encodable)
    have decoded := Utf8.decode_eq_ok_iff.mpr ⟨encodable, encoded⟩
    have read := ofBytes_of_text decoded
    rcases cause with unparsed | ⟨f, unparsed⟩ | ⟨d, members, f, parsed, root, rules, unshown⟩
    · rw [ofText, unparsed] at read
      exact ⟨.yaml .tooDeep, read, fun same => nomatch same⟩
    · rw [ofText, unparsed] at read
      exact ⟨.yaml (.value f), read, fun same => nomatch same⟩
    · have unshown := ofDocument_eq_error_iff.mpr ⟨members, root, rules, unshown⟩
      rw [ofText, parsed] at read
      refine ⟨.version f, read.trans ?_, fun same => nomatch same⟩
      show (ofDocument d).mapError RuleFileFault.version = _
      rw [unshown]
      rfl

end RuleFile

end NotebookAudit

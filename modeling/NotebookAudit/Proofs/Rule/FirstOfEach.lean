import NotebookAudit.Rule.Store

/-!
The first rule of each identifier.

`Rule.firstOfEachId` keeps of the rules with one identifier the first, so no identifier comes twice
in what it keeps. Adding the rules of one file after another by `keepFirst` comes to the same as
keeping the first of each identifier in all files together (`keepFirst_firstOfEachId`).
-/

namespace NotebookAudit

namespace Rule

/-- The rules without the later ones of the same identifier. -/
def firstOfEachId : List Rule → List Rule
  | [] => []
  | r :: rest => r :: (firstOfEachId rest).filter (·.id != r.id)

/-- No identifier comes twice among the first rules of each. -/
theorem firstOfEachId_distinct (rules : List Rule) :
    ((firstOfEachId rules).map (·.id)).Nodup := by
  induction rules with
  | nil => exact .nil
  | cons r rest ih =>
      rw [firstOfEachId, List.map_cons, List.nodup_cons]
      constructor
      · intro again
        obtain ⟨q, member, same⟩ := List.mem_map.mp again
        simpa [same] using (List.mem_filter.mp member).2
      · exact ih.sublist (List.filter_sublist.map _)

theorem firstOfEachId_append (rules more : List Rule) :
    firstOfEachId (rules ++ more) =
      firstOfEachId rules ++
        (firstOfEachId more).filter fun r => !(firstOfEachId rules).any (·.id == r.id) := by
  induction rules with
  | nil => exact (List.filter_eq_self.mpr fun _ _ => rfl).symm
  | cons r rest ih =>
      rw [List.cons_append, firstOfEachId, firstOfEachId, ih, List.filter_append,
        List.filter_filter, List.cons_append]
      congr 2
      refine List.filter_congr fun q _ => ?_
      by_cases same : r.id = q.id
      · simp [same]
      · have other : ((firstOfEachId rest).filter (·.id != r.id)).any (·.id == q.id) =
            (firstOfEachId rest).any (·.id == q.id) := by
          grind
        rw [List.any_cons, other, bne_comm, bne, Bool.not_or]

end Rule

/-- Adding rules keeps those whose identifier is not taken, the first of each. -/
theorem keepFirst_eq (loaded rules : List Rule) :
    (keepFirst loaded rules).1 =
      loaded ++ (Rule.firstOfEachId rules).filter fun r => !loaded.any (·.id == r.id) := by
  induction rules generalizing loaded with
  | nil => simp [keepFirst, Rule.firstOfEachId]
  | cons r rest ih =>
      rw [keepFirst, Rule.firstOfEachId]
      split
      · next taken =>
        rw [List.filter_cons_of_neg (by simpa using taken), List.filter_filter]
        show (keepFirst loaded rest).1 = _
        rw [ih]
        congr 1
        refine List.filter_congr fun q _ => ?_
        by_cases same : q.id = r.id
        · simp [same, taken]
        · simp [same]
      · next free =>
        rw [List.filter_cons_of_pos (by simpa using free), ih, List.append_assoc,
          List.filter_filter]
        congr 1
        rw [List.singleton_append]
        congr 1
        refine List.filter_congr fun q _ => ?_
        rw [List.any_append, List.any_cons, List.any_nil, Bool.or_false, Bool.not_or, bne_comm, bne]

/-- Adding rules to the first of each identifier gives the first of each identifier of them all. -/
theorem keepFirst_firstOfEachId (rules more : List Rule) :
    (keepFirst (Rule.firstOfEachId rules) more).1 = Rule.firstOfEachId (rules ++ more) := by
  rw [keepFirst_eq, Rule.firstOfEachId_append]

end NotebookAudit

/-
# Merging in batches

Merged members can be merged again together with further ones. That comes to the same as merging all
of them at once: the same members with the same overloads, as many members taken away, and the same
reports. Merged members by themselves are left as they are.
-/
import TypedReference.Proofs.Merging

namespace TypedReference.Member

/-! ## Members of different names -/

/-- A last member has a name of its own when the search for it finds none in front. -/
theorem nodup_names_concat {members : List Member} {m : Member} :
    ((members ++ [m]).map name).Nodup ↔
      members.find? (fun first => first.name == m.name) = none ∧ (members.map name).Nodup := by
  have hnew : members.find? (fun first => first.name == m.name) = none ↔
      m.name ∉ members.map name := by
    rw [List.find?_eq_none, List.mem_map, not_exists]
    simp only [beq_iff_eq, not_and]
  rw [List.map_append, List.map_singleton, ← List.concat_eq_append, List.nodup_concat, hnew]

/-- Merging changes nothing where every name stands once. -/
theorem merged_of_nodup {members : List Member} (h : (members.map name).Nodup) :
    merged members = members := by
  induction members using List.reverseRecOn with
  | nil => rfl
  | append_singleton members m ih =>
      obtain ⟨hfind, hmembers⟩ := nodup_names_concat.1 h
      rw [merged_append, ih hmembers, List.foldl_cons, List.foldl_nil,
        addTo_of_find?_eq_none hfind]

/-- Merged members are merged. -/
theorem merged_merged (members : List Member) : merged (merged members) = merged members :=
  merged_of_nodup (nodup_names_merged members)

/-- What has been merged can be merged with further members. -/
theorem merged_merged_append (members more : List Member) :
    merged (merged members ++ more) = merged (members ++ more) := by
  rw [merged_append, merged_merged, merged_append]

/-! ## Reports -/

/-- The first member is reported or not; the others find it among those that have been seen. -/
theorem collisions_cons (owner : String) (seen : List Member) (m : Member) (rest : List Member) :
    collisions owner seen (m :: rest) =
      collisions owner seen [m] ++ collisions owner (addTo seen m) rest := by
  simp only [collisions]
  cases hfind : seen.find? fun first => first.name == m.name with
  | none => rw [addTo_of_find?_eq_none hfind, List.nil_append]
  | some first =>
      -- The member is not added, and absorbing it changes no header.
      rw [collisions_congr owner (header_addTo hfind)]
      by_cases hmerge : first.overloads? m
      · simp only [if_pos hmerge, List.nil_append]
      · simp only [if_neg hmerge, List.cons_append, List.nil_append]

/-- The reports on further members are those that the merged ones call for. -/
theorem collisions_append (owner : String) (seen members more : List Member) :
    collisions owner seen (members ++ more) =
      collisions owner seen members ++ collisions owner (members.foldl addTo seen) more := by
  -- The induction is on the first batch, with the members that have been seen before it.
  induction members generalizing seen with
  | nil => rfl
  | cons m members ih =>
      rw [List.cons_append, collisions_cons, ih, collisions_cons owner seen m members,
        List.foldl_cons, List.append_assoc]

/-- Where every name stands once, nothing is reported. -/
theorem collisions_of_nodup (owner : String) {members : List Member}
    (h : (members.map name).Nodup) : collisions owner [] members = [] := by
  induction members using List.reverseRecOn with
  | nil => rfl
  | append_singleton members m ih =>
      obtain ⟨hfind, hmembers⟩ := nodup_names_concat.1 h
      rw [collisions_append, ih hmembers, ← merged_eq_foldl, merged_of_nodup hmembers, collisions,
        hfind]
      rfl

end TypedReference.Member

namespace TypedReference.Declaration

/-- The declaration with further members behind its own. -/
def withMembers (d : Declaration) (more : List Member) : Declaration :=
  { d with members := d.members ++ more }

/-- **Merging in batches.** A declaration that is merged, given further members and merged again has
the same members, in order and with the same overloads, as one that gets all of them before it is
merged. The two batches together take away as many members and report the same. In particular a
merged declaration is left as it is: nothing is taken away and nothing is reported. -/
theorem mergeOverloads_withMembers (d : Declaration) (more : List Member) :
    (d.mergeOverloads.withMembers more).mergeOverloads = (d.withMembers more).mergeOverloads ∧
      d.mergedAway + (d.mergeOverloads.withMembers more).mergedAway =
        (d.withMembers more).mergedAway ∧
      d.mergeEvents ++ (d.mergeOverloads.withMembers more).mergeEvents =
        (d.withMembers more).mergeEvents ∧
      d.mergeOverloads.mergeOverloads = d.mergeOverloads ∧
      d.mergeOverloads.mergedAway = 0 ∧
      d.mergeOverloads.mergeEvents = [] := by
  have hnames := Member.nodup_names_merged d.members
  have hbatches := Member.merged_merged_append d.members more
  have hagain := Member.merged_merged d.members
  refine ⟨?_, ?_, ?_, ?_, ?_, ?_⟩
  · simp only [mergeOverloads, withMembers, hbatches]
  · -- What is taken away is missing afterwards, and in both ways the same members are left.
    have hfirst := d.length_mergeOverloads
    have hsecond := (d.mergeOverloads.withMembers more).length_mergeOverloads
    have hboth := (d.withMembers more).length_mergeOverloads
    simp only [mergeOverloads, withMembers, hbatches, List.length_append] at hfirst hsecond hboth ⊢
    omega
  · -- The first members of their names are the same for the second batch in both ways.
    have hall : (d.withMembers more).mergeEvents =
        d.mergeEvents ++ Member.collisions d.dottedPath (Member.merged d.members) more := by
      rw [Member.merged_eq_foldl]
      exact Member.collisions_append d.dottedPath [] d.members more
    have hrest : (d.mergeOverloads.withMembers more).mergeEvents =
        Member.collisions d.dottedPath (Member.merged d.members) more := by
      have hbatch := Member.collisions_append d.dottedPath [] (Member.merged d.members) more
      rw [Member.collisions_of_nodup _ hnames, List.nil_append, ← Member.merged_eq_foldl,
        hagain] at hbatch
      exact hbatch
    rw [hall, hrest]
  · simp only [mergeOverloads, hagain]
  · have hsecond := d.mergeOverloads.length_mergeOverloads
    simp only [mergeOverloads, hagain] at hsecond ⊢
    omega
  · exact Member.collisions_of_nodup _ hnames

end TypedReference.Declaration

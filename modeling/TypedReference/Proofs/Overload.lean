/-
# Merged members

Merging leaves one member of each name and makes no new signature: whatever holds of all signatures
of the members still holds of all signatures afterwards.
-/
import Mathlib.Data.List.Nodup
import TypedReference.Overload
import TypedReference.Proofs.Lists
import TypedReference.Proofs.References

namespace TypedReference.Member

/-! ## Absorbing a member -/

@[simp] theorem absorb_name (first later : Member) : (first.absorb later).name = first.name := by
  unfold absorb
  split <;> rfl

/-- Each signature of the merged member is one of the two members. -/
theorem mem_kinds_absorb {first later : Member} {k : MemberKind}
    (h : k ∈ (first.absorb later).kinds) : k ∈ first.kinds ∨ k ∈ later.kinds := by
  unfold absorb at h
  split at h
  · have hsplit : (first.kind :: first.overloads) ++ (later.kind :: later.overloads) =
        first.kind :: (first.overloads ++ later.kind :: later.overloads) := rfl
    rw [kinds, ← hsplit, List.mem_append] at h
    exact h
  · exact Or.inl h

/-! ## Adding a member -/

/-- The names grow by the name of the added member, unless it is among them. -/
theorem names_addTo (members : List Member) (m : Member) :
    (addTo members m).map name =
      if m.name ∈ members.map name then members.map name else members.map name ++ [m.name] := by
  induction members with
  | nil => rfl
  | cons first rest ih =>
      rw [addTo, List.map_cons]
      -- Either the first member absorbs the new one, or the search goes on behind it.
      by_cases hname : first.name = m.name
      · rw [if_pos hname, if_pos (by simp [hname]), List.map_cons, absorb_name]
      · have hmem : m.name ∈ first.name :: rest.map name ↔ m.name ∈ rest.map name := by
          rw [List.mem_cons, or_iff_right (Ne.symm hname)]
        rw [if_neg hname, List.map_cons, ih]
        by_cases hrest : m.name ∈ rest.map name
        · rw [if_pos hrest, if_pos (hmem.2 hrest)]
        · rw [if_neg hrest, if_neg (mt hmem.1 hrest), List.cons_append]

/-- Adding a member makes no new signature. -/
theorem forall_kinds_addTo {P : MemberKind → Prop} {members : List Member} {m : Member}
    (hmembers : ∀ m' ∈ members, ∀ k ∈ m'.kinds, P k) (hm : ∀ k ∈ m.kinds, P k) :
    ∀ m' ∈ addTo members m, ∀ k ∈ m'.kinds, P k := by
  induction members with
  | nil =>
      intro m' hm'
      rw [addTo, List.mem_singleton] at hm'
      rwa [hm']
  | cons first rest ih =>
      obtain ⟨hfirst, hrest⟩ := List.forall_mem_cons.1 hmembers
      unfold addTo
      split
      · -- The signatures of the two members are put together.
        rw [List.forall_mem_cons]
        refine ⟨?_, hrest⟩
        intro k hk
        rcases mem_kinds_absorb hk with hk | hk
        · exact hfirst k hk
        · exact hm k hk
      · rw [List.forall_mem_cons]
        exact ⟨hfirst, ih hrest⟩

/-! ## Merging a list -/

/-- The members that are kept do not depend on the count. -/
theorem kept_foldl_add (s : Merging) (members : List Member) :
    (members.foldl Merging.add s).kept = members.foldl addTo s.kept := by
  induction members generalizing s with
  | nil => rfl
  | cons m members ih => exact ih (s.add m)

/-- Merging adds the members one by one to those that are kept. -/
theorem merged_eq_foldl (members : List Member) : merged members = members.foldl addTo [] :=
  kept_foldl_add ⟨[], 0⟩ members

/-- Further members are added one by one to the merged ones. -/
theorem merged_append (members more : List Member) :
    merged (members ++ more) = more.foldl addTo (merged members) := by
  rw [merged_eq_foldl, List.foldl_append, ← merged_eq_foldl]

/-- What holds of no members, and passes to the members with one more, holds of all merged ones. -/
theorem merged_induction {P : List Member → Prop} {members : List Member} (nil : P [])
    (add : ∀ kept, P kept → ∀ m ∈ members, P (addTo kept m)) : P (merged members) := by
  rw [merged_eq_foldl]
  exact List.foldlRecOn members addTo nil add

/-- **One member of each name.** No two merged members share a name. -/
theorem nodup_names_merged (members : List Member) : ((merged members).map name).Nodup := by
  apply merged_induction (P := fun kept => (kept.map name).Nodup)
  · exact List.nodup_nil
  · intro kept hkept m _
    rw [names_addTo]
    split
    · exact hkept
    · next hnew =>
      rw [← List.concat_eq_append]
      exact hkept.concat hnew

/-- The names of merged members are those of the members, each at its first occurrence. -/
theorem names_merged (members : List Member) :
    (merged members).map name = (members.map name).eraseDups := by
  induction members using List.reverseRecOn with
  | nil => rfl
  | append_singleton members m ih =>
      rw [merged_append, List.foldl_cons, List.foldl_nil, names_addTo, ih, List.map_append,
        List.map_singleton, Lists.eraseDups_concat]
      simp only [List.mem_eraseDups]

/-- What holds of every signature of the members holds of every signature of the merged ones. -/
theorem forall_kinds_merged {P : MemberKind → Prop} {members : List Member}
    (h : ∀ m ∈ members, ∀ k ∈ m.kinds, P k) : ∀ m ∈ merged members, ∀ k ∈ m.kinds, P k := by
  apply merged_induction (P := fun kept => ∀ m ∈ kept, ∀ k ∈ m.kinds, P k)
  · exact fun m hm => absurd hm List.not_mem_nil
  · exact fun kept hkept m hm => forall_kinds_addTo hkept (h m hm)

/-! ## Counting -/

/-- Each member that is added is kept or taken away. -/
theorem Merging.length_add (s : Merging) (m : Member) :
    (s.add m).kept.length + (s.add m).away = s.kept.length + s.away + 1 := by
  have hkept : (s.add m).kept.length =
      if m.name ∈ s.kept.map name then s.kept.length else s.kept.length + 1 := by
    show (addTo s.kept m).length = _
    rw [← List.length_map name, names_addTo]
    split <;> simp
  have haway : (s.add m).away = if m.name ∈ s.kept.map name then s.away + 1 else s.away := rfl
  rw [hkept, haway]
  split <;> omega

/-- So are all of them together. -/
theorem length_foldl_add (s : Merging) (members : List Member) :
    (members.foldl Merging.add s).kept.length + (members.foldl Merging.add s).away =
      s.kept.length + s.away + members.length := by
  induction members generalizing s with
  | nil => rfl
  | cons m members ih =>
      have hstep := s.length_add m
      rw [List.foldl_cons, ih, List.length_cons]
      omega

/-! ## Members that are no methods -/

/-- A member that is no method adds nothing to a member of its name. -/
theorem absorb_of_not_method {first later : Member} (h : later.kind.isMethod = false) :
    first.absorb later = first := by
  rw [absorb, overloads?, h, Bool.and_false]
  rfl

/-- A member that is no method is added when its name is new, and dropped otherwise. -/
theorem addTo_of_not_method {m : Member} (h : m.kind.isMethod = false) (members : List Member) :
    addTo members m = if m.name ∈ members.map name then members else members ++ [m] := by
  induction members with
  | nil => rfl
  | cons first rest ih =>
      rw [addTo, absorb_of_not_method h, ih]
      by_cases hname : first.name = m.name
      · simp [hname]
      · simp only [if_neg hname, List.map_cons, List.mem_cons, Ne.symm hname, false_or]
        split <;> rfl

/-! ## What becomes of each member -/

/-- The number of overloads that some members have. -/
def overloadCount (members : List Member) : Nat := (members.flatMap fun m => m.overloads).length

theorem overloadCount_cons (m : Member) (members : List Member) :
    overloadCount (m :: members) = m.overloads.length + overloadCount members := by
  rw [overloadCount, List.flatMap_cons, List.length_append, ← overloadCount]

theorem overloadCount_append (members more : List Member) :
    overloadCount (members ++ more) = overloadCount members + overloadCount more := by
  rw [overloadCount, List.flatMap_append, List.length_append, ← overloadCount, ← overloadCount]

/-- What decides whether a member is merged with a later one: its name and its signature. -/
def header (m : Member) : String × MemberKind := (m.name, m.kind)

@[simp] theorem absorb_header (first later : Member) :
    (first.absorb later).header = first.header := by
  unfold absorb
  split <;> rfl

/-- The first member of a name decides what is added: the signatures of a later method, or
nothing. -/
theorem overloadCount_absorb {first later : Member} (h : later.overloads = []) :
    (first.absorb later).overloads.length =
      first.overloads.length + if first.overloads? later then 1 else 0 := by
  unfold absorb
  split
  · rw [h, List.length_append, List.length_singleton]
  · rfl

/-- A member of a name that is there changes no header. -/
theorem header_addTo {members : List Member} {m first : Member}
    (h : members.find? (fun f => f.name == m.name) = some first) :
    (addTo members m).map header = members.map header := by
  induction members with
  | nil => cases h
  | cons f rest ih =>
      rw [addTo]
      by_cases hname : f.name = m.name
      · rw [if_pos hname, List.map_cons, List.map_cons, absorb_header]
      · rw [List.find?_cons_of_neg (by simpa using hname)] at h
        rw [if_neg hname, List.map_cons, List.map_cons, ih h]

/-- A member of a new name goes to the end. -/
theorem addTo_of_find?_eq_none {members : List Member} {m : Member}
    (h : members.find? (fun f => f.name == m.name) = none) : addTo members m = members ++ [m] := by
  induction members with
  | nil => rfl
  | cons f rest ih =>
      rw [List.find?_eq_none, List.forall_mem_cons] at h
      obtain ⟨hname, hrest⟩ := h
      rw [addTo, if_neg (by simpa using hname), ih (List.find?_eq_none.2 hrest), List.cons_append]

/-- A member of a name that is there becomes an overload of the first one, or nothing. -/
theorem overloadCount_addTo {members : List Member} {m first : Member} (hm : m.overloads = [])
    (h : members.find? (fun f => f.name == m.name) = some first) :
    overloadCount (addTo members m) =
      overloadCount members + if first.overloads? m then 1 else 0 := by
  induction members with
  | nil => cases h
  | cons f rest ih =>
      rw [addTo]
      by_cases hname : f.name = m.name
      · rw [List.find?_cons_of_pos (by simpa using hname)] at h
        cases h
        rw [if_pos hname, overloadCount_cons, overloadCount_cons, overloadCount_absorb hm]
        omega
      · rw [List.find?_cons_of_neg (by simpa using hname)] at h
        rw [if_neg hname, overloadCount_cons, overloadCount_cons, ih h]
        omega

/-- Reports are about the headers of the members that are there. -/
theorem collisions_congr (owner : String) {seen seen' : List Member}
    (h : seen.map header = seen'.map header) (rest : List Member) :
    collisions owner seen rest = collisions owner seen' rest := by
  induction rest generalizing seen seen' with
  | nil => rfl
  | cons m rest ih =>
      have hfind : (seen.find? fun f => f.name == m.name).map header =
          (seen'.find? fun f => f.name == m.name).map header := by
        have hmap := congrArg (List.find? fun f => f.1 == m.name) h
        rwa [List.find?_map, List.find?_map] at hmap
      rw [collisions, collisions]
      cases hseen : seen.find? fun f => f.name == m.name with
      | none =>
          rw [hseen] at hfind
          rw [Option.map_eq_none_iff.1 hfind.symm]
          exact ih (by rw [List.map_append, List.map_append, h])
      | some first =>
          rw [hseen] at hfind
          obtain ⟨first', hfirst', hheader⟩ := Option.map_eq_some_iff.1 hfind.symm
          have hkind : first'.kind = first.kind := congrArg Prod.snd hheader
          rw [hfirst']
          simp only [overloads?, hkind, ih h]

/-- **No member vanishes.** Members without overloads that are added to others are kept, become
overloads, or are reported as dropped. -/
theorem length_add_collisions (owner : String) {members : List Member}
    (h : ∀ m ∈ members, m.overloads = []) (kept : List Member) :
    (members.foldl addTo kept).length + overloadCount (members.foldl addTo kept) +
        (collisions owner kept members).length =
      kept.length + overloadCount kept + members.length := by
  -- The induction is on the members; each of them counts once on either side.
  induction members generalizing kept with
  | nil => rfl
  | cons m members ih =>
      obtain ⟨hm, hmembers⟩ := List.forall_mem_cons.1 h
      have hstep := ih hmembers (addTo kept m)
      rw [List.foldl_cons, collisions, List.length_cons]
      cases hfind : kept.find? fun f => f.name == m.name with
      | none =>
          have hlength : overloadCount [m] = 0 := by
            rw [overloadCount, List.flatMap_singleton, hm, List.length_nil]
          rw [addTo_of_find?_eq_none hfind] at hstep ⊢
          rw [List.length_append, List.length_singleton, overloadCount_append, hlength] at hstep
          simp only
          omega
      | some first =>
          have hheader := header_addTo hfind
          have hlength := congrArg List.length hheader
          rw [List.length_map, List.length_map] at hlength
          rw [collisions_congr owner hheader, overloadCount_addTo hm hfind, hlength] at hstep
          simp only
          by_cases hmerge : first.overloads? m
          · rw [if_pos hmerge] at hstep ⊢
            omega
          · rw [if_neg hmerge] at hstep ⊢
            rw [List.length_cons]
            omega

end TypedReference.Member

namespace TypedReference.Declaration

/-- **As many as are missing.** What the merging counts is the difference between the members before
and after it. -/
theorem length_mergeOverloads (d : Declaration) :
    d.mergeOverloads.members.length + d.mergedAway = d.members.length := by
  have hall := Member.length_foldl_add ⟨[], 0⟩ d.members
  rw [List.length_nil, Nat.zero_add, Nat.zero_add] at hall
  exact hall

theorem mergedAwayFrom_cons (d : Declaration) (ds : List Declaration) :
    mergedAwayFrom (d :: ds) = d.mergedAway + mergedAwayFrom ds := rfl

end TypedReference.Declaration

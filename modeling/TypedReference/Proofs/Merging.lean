/-
# What becomes of each member

Merging, looked at place by place. A member is kept when no earlier one has its name, and a kept
method takes the signatures of all later methods of its name. Of the other members, the methods that
share their name with a first method live on in its overloads; each of the rest is reported once.
-/
import Mathlib.Data.List.Induction
import TypedReference.Proofs.Overload

namespace TypedReference.Member

/-! ## Places -/

/-- The signatures of the methods of a name among some members, those of one member together. -/
def signaturesNamed (x : String) (members : List Member) : List MemberKind :=
  (members.filter fun m => m.name == x && m.kind.isMethod).flatMap kinds

/-- The member with the signatures of later methods of its name, if it is a method itself. -/
def withLater (m : Member) (later : List Member) : Member :=
  if m.kind.isMethod then { m with overloads := m.overloads ++ signaturesNamed m.name later } else m

/-- The first member in front of a place that has the name of the one there. -/
def earlier? (members : List Member) (i : Nat) : Option Member :=
  members[i]?.bind fun m => (members.take i).find? fun first => first.name == m.name

/-- What is kept of the member at a place: nothing if an earlier one has its name. -/
def keptAt? (members : List Member) (i : Nat) : Option Member :=
  if (earlier? members i).isSome then none
  else members[i]?.map fun m => m.withLater (members.drop (i + 1))

/-- The report on the member at a place, if it is neither kept nor made an overload. -/
def droppedAt? (owner : String) (members : List Member) (i : Nat) : Option Event :=
  match members[i]?, earlier? members i with
  | some m, some first =>
    if first.overloads? m then none else some (.collision owner m.name m.kind first.kind)
  | _, _ => none

/-! ## One more member -/

/-- What a kept member becomes when another one comes after all others. -/
def meet (first later : Member) : Member :=
  if first.name = later.name then first.absorb later else first

theorem withLater_nil (m : Member) : m.withLater [] = m := by
  rw [withLater, signaturesNamed, List.filter_nil, List.flatMap_nil, List.append_nil]
  split <;> rfl

/-- The last of the later members is met by what the others have left. -/
theorem withLater_concat (m : Member) (later : List Member) (g : Member) :
    m.withLater (later ++ [g]) = (m.withLater later).meet g := by
  have hmethods : signaturesNamed m.name (later ++ [g]) = signaturesNamed m.name later ++
      if g.name = m.name ∧ g.kind.isMethod = true then g.kinds else [] := by
    rw [signaturesNamed, List.filter_append, List.flatMap_append, ← signaturesNamed]
    by_cases h : g.name = m.name ∧ g.kind.isMethod = true
    · simp [h.1, h.2]
    · rw [if_neg h, List.filter_cons_of_neg (by simpa using h), List.filter_nil, List.flatMap_nil]
  unfold withLater meet
  rw [hmethods]
  by_cases hname : m.name = g.name
  · by_cases hfirst : m.kind.isMethod = true
    · by_cases hlast : g.kind.isMethod = true
      · simp [hfirst, hlast, hname, absorb, overloads?, kinds]
      · simp [hfirst, hlast, hname, absorb, overloads?]
    · simp [hfirst, hname, absorb, overloads?]
  · by_cases hfirst : m.kind.isMethod = true
    · simp [hfirst, hname, Ne.symm hname]
    · simp [hfirst, hname]

section

variable {members : List Member} {i : Nat}

/-- What comes behind a place does not matter for the members in front of it. -/
theorem earlier?_append_left (hi : i < members.length) (more : List Member) :
    earlier? (members ++ more) i = earlier? members i := by
  rw [earlier?, earlier?, List.getElem?_append_left hi, List.take_append_of_le_length (by omega)]

/-- In front of the last place stand all other members. -/
theorem earlier?_append_cons (members : List Member) (g : Member) (more : List Member) :
    earlier? (members ++ g :: more) members.length = members.find? fun f => f.name == g.name := by
  rw [earlier?, List.getElem?_append_right (Nat.le_refl _), Nat.sub_self, List.getElem?_cons_zero,
    Option.bind_some, List.take_left]

theorem keptAt?_concat_left (hi : i < members.length) (g : Member) :
    keptAt? (members ++ [g]) i = (keptAt? members i).map fun f => f.meet g := by
  rw [keptAt?, keptAt?, earlier?_append_left hi, List.getElem?_append_left hi]
  split
  · rfl
  · rw [List.drop_append_of_le_length (by omega), Option.map_map]
    congr 1
    funext m
    exact withLater_concat m _ g

theorem keptAt?_concat_length (members : List Member) (g : Member) :
    keptAt? (members ++ [g]) members.length =
      if g.name ∈ members.map name then none else some g := by
  have hsome : (members.find? fun f => f.name == g.name).isSome = true ↔
      g.name ∈ members.map name := by
    rw [List.find?_isSome, List.mem_map]
    simp
  rw [keptAt?, earlier?_append_cons, List.getElem?_concat_length, List.drop_eq_nil_of_le (by simp),
    Option.map_some, withLater_nil]
  simp only [hsome]

end

/-- Where every name stands once, a member is met by all members and added if its name is new. -/
theorem addTo_eq {members : List Member} (h : (members.map name).Nodup) (g : Member) :
    addTo members g =
      members.map (fun f => f.meet g) ++ if g.name ∈ members.map name then [] else [g] := by
  have hmeet : ∀ f : Member, f.name ≠ g.name → f.meet g = f := fun f hf => if_neg hf
  induction members with
  | nil => rfl
  | cons first rest ih =>
      rw [List.map_cons, List.nodup_cons] at h
      rw [addTo]
      by_cases hname : first.name = g.name
      · -- No other member has the name, so the rest stays as it is.
        have hrest : rest.map (fun f => f.meet g) = rest := by
          conv_rhs => rw [← List.map_id rest]
          apply List.map_congr_left
          intro f hf
          apply hmeet f
          intro hf'
          exact h.1 (by rw [hname, ← hf']; exact List.mem_map_of_mem hf)
        rw [if_pos hname, List.map_cons, hrest, meet, if_pos hname, if_pos (by simp [hname]),
          List.append_nil]
      · have hmem : g.name ∈ (first :: rest).map name ↔ g.name ∈ rest.map name := by
          rw [List.map_cons, List.mem_cons, or_iff_right (Ne.symm hname)]
        rw [if_neg hname, ih h.2, List.map_cons, hmeet first hname]
        simp only [hmem, List.cons_append]

/-! ## All members -/

/-- **What is kept.** The merged members are what is kept at each place. -/
theorem merged_eq (members : List Member) :
    merged members = (List.range members.length).filterMap (keptAt? members) := by
  induction members using List.reverseRecOn with
  | nil => rfl
  | append_singleton members g ih =>
      have hmem : g.name ∈ (merged members).map name ↔ g.name ∈ members.map name := by
        rw [names_merged, List.mem_eraseDups]
      have hfront : (List.range members.length).filterMap (keptAt? (members ++ [g])) =
          (merged members).map fun f => f.meet g := by
        rw [ih, List.map_filterMap]
        apply List.filterMap_congr
        intro i hi
        exact keptAt?_concat_left (List.mem_range.1 hi) g
      rw [merged_append, List.foldl_cons, List.foldl_nil, addTo_eq (nodup_names_merged members),
        List.length_append, List.length_singleton, List.range_succ, List.filterMap_append, hfront]
      simp only [hmem]
      congr 1
      rw [List.filterMap_cons, keptAt?_concat_length]
      split <;> simp

/-- **What is lost.** The reports are those on the members at each place, where `seen` finds the
first member of a name as well as all members before. -/
theorem collisions_eq (owner : String) {seen before : List Member}
    (h : ∀ x, (seen.find? fun f => f.name == x) = before.find? fun f => f.name == x)
    (rest : List Member) :
    collisions owner seen rest = (List.range rest.length).filterMap fun i =>
      droppedAt? owner (before ++ rest) (before.length + i) := by
  induction rest generalizing seen before with
  | nil => rfl
  | cons g rest ih =>
      have happend : before ++ g :: rest = (before ++ [g]) ++ rest := by simp
      have hplace : ∀ i, before.length + (i + 1) = (before ++ [g]).length + i := by
        intro i
        rw [List.length_append, List.length_singleton]
        omega
      -- The member itself is found from now on, unless one of its name is found already.
      have hgo : ∀ seen', (∀ x, (seen'.find? fun f => f.name == x) =
            (before ++ [g]).find? fun f => f.name == x) →
          collisions owner seen' rest = (List.range rest.length).filterMap fun i =>
            droppedAt? owner (before ++ g :: rest) (before.length + (i + 1)) := by
        intro seen' h'
        rw [ih h', happend]
        simp only [hplace]
      have hhere : droppedAt? owner (before ++ g :: rest) before.length =
          (before.find? fun f => f.name == g.name).bind fun first =>
            if first.overloads? g then none
            else some (.collision owner g.name g.kind first.kind) := by
        rw [droppedAt?, earlier?_append_cons, List.getElem?_append_right (Nat.le_refl _),
          Nat.sub_self, List.getElem?_cons_zero]
        cases before.find? fun f => f.name == g.name <;> rfl
      rw [collisions, h, List.length_cons, List.range_succ_eq_map, List.filterMap_cons,
        List.filterMap_map, Nat.add_zero, hhere]
      cases hfind : before.find? fun f => f.name == g.name with
      | none =>
          simp only [Option.bind_none]
          apply hgo
          intro x
          rw [List.find?_append, List.find?_append, h]
      | some first =>
          have hkeeps : ∀ x, (seen.find? fun f => f.name == x) =
              (before ++ [g]).find? fun f => f.name == x := by
            intro x
            rw [h, List.find?_append]
            by_cases hx : g.name = x
            · rw [← hx, hfind, Option.some_or]
            · rw [List.find?_cons_of_neg (by simpa using hx), List.find?_nil, Option.or_none]
          simp only [Option.bind_some]
          split
          · exact hgo seen hkeeps
          · exact congrArg _ (hgo seen hkeeps)

/-- At every place a member is kept or has an earlier one of its name. -/
theorem isSome_keptAt? {members : List Member} {i : Nat} (hi : i < members.length) :
    (keptAt? members i).isSome = !(earlier? members i).isSome := by
  rw [keptAt?, List.getElem?_eq_getElem hi]
  split
  · next h => rw [h]; rfl
  · next h => simpa using h

end TypedReference.Member

namespace TypedReference.Declaration

/-- **Members of one name.** A declaration with merged members keeps its package and its name. Its
members are the first ones of each name, in order, each method with the signatures of the later
methods of its name behind its own. As many members are taken away as have an earlier one of their
name, and there is one report for each of these that is not a method with a first method. -/
theorem members_mergeOverloads (d : Declaration) :
    d.mergeOverloads.package = d.package ∧ d.mergeOverloads.name = d.name ∧
      d.mergeOverloads.members =
        (List.range d.members.length).filterMap (Member.keptAt? d.members) ∧
      d.mergeOverloads.memberNames.Nodup ∧
      d.mergedAway =
        (List.range d.members.length).countP (fun i => (Member.earlier? d.members i).isSome) ∧
      d.mergeEvents =
        (List.range d.members.length).filterMap (Member.droppedAt? d.dottedPath d.members) := by
  refine ⟨rfl, rfl, Member.merged_eq d.members, Member.nodup_names_merged d.members, ?_, ?_⟩
  · have hkept : (Member.merged d.members).length = (List.range d.members.length).countP
        (fun i => !(Member.earlier? d.members i).isSome) := by
      rw [Member.merged_eq, List.length_filterMap_eq_countP]
      apply List.countP_congr
      intro i hi
      rw [Member.isSome_keptAt? (List.mem_range.1 hi)]
    have hall := List.length_eq_countP_add_countP
      (fun i => (Member.earlier? d.members i).isSome) (l := List.range d.members.length)
    rw [List.length_range] at hall
    have haway : (Member.merged d.members).length + d.mergedAway = d.members.length :=
      d.length_mergeOverloads
    simp only [Bool.not_eq_true, Bool.decide_eq_false] at hall
    omega
  · have hevents : d.mergeEvents = (List.range d.members.length).filterMap fun i =>
        Member.droppedAt? d.dottedPath ([] ++ d.members) (0 + i) :=
      Member.collisions_eq d.dottedPath (fun _ => rfl) d.members
    rw [hevents]
    simp only [List.nil_append, Nat.zero_add]

end TypedReference.Declaration

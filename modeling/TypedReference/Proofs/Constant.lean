/-
# Attached constants

A constant whose path has a dot has an owner, and every constant that a text mentions is of this
kind. Attaching puts constants behind the members of their owners and changes nothing else.
-/
import Mathlib.Data.List.Forall2
import TypedReference.Assembly
import TypedReference.Proofs.Logged
import TypedReference.Proofs.Text.Split

namespace TypedReference

open Text

/-! ## Owners -/

namespace Constant

/-- A path with a dot in it has an owner in front of the name. -/
theorem exists_owner {path : String} (h : '.' ∈ path.toList) : ∃ o, owner path = .ok o := by
  obtain ⟨front, name, hpath⟩ := List.append_of_mem h
  have hsplit : path.toList.splitOn '.' = front.splitOn '.' ++ name.splitOn '.' := by
    rw [hpath, List.splitOn_append_cons_self]
  have hfront : front.splitOn '.' ≠ [] := List.splitOn_ne_nil _ _
  have hname : name.splitOn '.' ≠ [] := List.splitOn_ne_nil _ _
  -- The dot leaves segments on both of its sides, so neither the name nor its parent is missing.
  have hlast : (path.toList.splitOn '.').getLast? ≠ none := by
    rw [hsplit]
    simp [hname]
  have hparent : (path.toList.splitOn '.').dropLast.getLast? ≠ none := by
    rw [hsplit, List.dropLast_append_of_ne_nil hname]
    simp [hfront]
  obtain ⟨segment, hsegment⟩ := Option.ne_none_iff_exists'.1 hlast
  obtain ⟨parent, hparent⟩ := Option.ne_none_iff_exists'.1 hparent
  rw [owner]
  simp only [hsegment, hparent]
  exact ⟨_, rfl⟩

/-- Parts joined with dots have a dot between them. -/
theorem dot_mem_joinWith {parts : List (List Char)} {name : List Char} (h : parts ≠ []) :
    '.' ∈ joinWith ['.'] (parts ++ [name]) := by
  cases parts with
  | nil => exact absurd rfl h
  | cons part parts =>
      rw [List.cons_append, joinWith_cons, List.flatMap_append]
      simp

/-- A mentioned constant has an owner. -/
theorem exists_owner_of_mem_mentions {text path : String} (h : path ∈ mentions text) :
    ∃ o, owner path = .ok o := by
  obtain ⟨l, hl, rfl⟩ := List.mem_map.1 h
  obtain ⟨chain, -, hchain⟩ := List.mem_filterMap.1 hl
  apply exists_owner
  rw [String.toList_ofList]
  unfold ofChain? at hchain
  split at hchain
  · cases hchain
  · simp only at hchain
    split at hchain
    · next hcond =>
      cases hchain
      rw [Bool.and_eq_true, Bool.not_eq_true', List.isEmpty_eq_false_iff] at hcond
      exact dot_mem_joinWith hcond.2
    · cases hchain

end Constant

/-- Every registered constant of a page has an owner. -/
theorem ConstantPaths.exists_owner_of_mem_ofSections {sections : List Section} {path : String}
    (h : path ∈ (ofSections sections).entries) : ∃ o, Constant.owner path = .ok o := by
  have hmem : path ∈ sections.flatMap fun s => s.tables.flatMap ofTable := List.mem_eraseDups.1 h
  obtain ⟨s, -, hs⟩ := List.mem_flatMap.1 hmem
  obtain ⟨t, -, ht⟩ := List.mem_flatMap.1 hs
  obtain ⟨text, -, htext⟩ := List.mem_flatMap.1 ht
  exact Constant.exists_owner_of_mem_mentions htext

/-! ## Attaching -/

/-- The declaration with constants of the given names behind its members. -/
def Declaration.withConstants (d : Declaration) (names : List String) : Declaration :=
  { d with members := d.members ++ names.map constantMember }

/-- A declaration is another one with some constants behind its members. -/
def Declaration.Extends (d d' : Declaration) : Prop := ∃ names, d' = d.withConstants names

namespace Declaration

theorem Extends.refl (d : Declaration) : d.Extends d := by
  refine ⟨[], ?_⟩
  rw [withConstants, List.map_nil, List.append_nil]

theorem Extends.trans {d d' d'' : Declaration} (h : d.Extends d') (h' : d'.Extends d'') :
    d.Extends d'' := by
  obtain ⟨names, rfl⟩ := h
  obtain ⟨names', rfl⟩ := h'
  refine ⟨names ++ names', ?_⟩
  simp [withConstants]

end Declaration

/-- A member goes to the first declaration with the path, and the others stay. -/
theorem attachTo?_eq_some {owner : List String} {m : Member} {ds ds' : List Declaration}
    (h : attachTo? owner m ds = some ds') : ∃ before d after,
      ds = before ++ d :: after ∧ d.path = owner ∧ (∀ d' ∈ before, d'.path ≠ owner) ∧
      ds' = before ++ { d with members := d.members ++ [m] } :: after := by
  induction ds generalizing ds' with
  | nil => cases h
  | cons d ds ih =>
      unfold attachTo? at h
      split at h
      · next hpath =>
        cases h
        exact ⟨[], d, ds, rfl, hpath, by simp, rfl⟩
      · next hpath =>
        obtain ⟨out, hout, rfl⟩ := Option.map_eq_some_iff.1 h
        obtain ⟨before, d', after, rfl, hd', hbefore, rfl⟩ := ih hout
        refine ⟨d :: before, d', after, rfl, hd', ?_, rfl⟩
        rw [List.forall_mem_cons]
        exact ⟨hpath, hbefore⟩

/-- Attaching one constant extends each declaration. -/
theorem forall₂_extends_attachTo? {owner : List String} {name : String}
    {ds ds' : List Declaration} (h : attachTo? owner (constantMember name) ds = some ds') :
    List.Forall₂ Declaration.Extends ds ds' := by
  have hrefl : ∀ l, List.Forall₂ Declaration.Extends l l :=
    fun l => List.forall₂_same.2 fun d _ => Declaration.Extends.refl d
  obtain ⟨before, d, after, rfl, -, -, rfl⟩ := attachTo?_eq_some h
  exact List.rel_append (hrefl before) (.cons ⟨[name], rfl⟩ (hrefl after))

/-- Extending declarations twice is extending them. -/
theorem forall₂_extends_trans {ds ds' ds'' : List Declaration}
    (h : List.Forall₂ Declaration.Extends ds ds') (h' : List.Forall₂ Declaration.Extends ds' ds'') :
    List.Forall₂ Declaration.Extends ds ds'' := by
  induction h generalizing ds'' with
  | nil =>
      cases h'
      exact .nil
  | cons hd _ ih =>
      cases h' with
      | cons hd' h' => exact .cons (hd.trans hd') (ih h')

/-- **Attaching extends.** Each declaration keeps its place, its package and its name, and gets
constants behind its members. -/
theorem forall₂_extends_attachAll {paths : List String} {ds out : List Declaration} {n : Nat}
    (h : (attachAll paths ds).outcome = .ok (out, n)) :
    List.Forall₂ Declaration.Extends ds out := by
  -- The induction is on the constants; each finds the declarations that the ones before it left.
  induction paths generalizing ds out n with
  | nil =>
      cases h
      exact List.forall₂_same.2 fun d _ => Declaration.Extends.refl d
  | cons path paths ih =>
      rw [attachAll, Logged.outcome_andThen_eq_ok_iff] at h
      obtain ⟨⟨owner, name⟩, -, h⟩ := h
      simp only at h
      split at h
      · next ds' hds' =>
        rw [Logged.outcome_map_eq_ok_iff] at h
        obtain ⟨⟨out', k⟩, hout, hpair⟩ := h
        cases hpair
        exact forall₂_extends_trans (forall₂_extends_attachTo? hds') (ih hout)
      · rw [Logged.outcome_andThen_eq_ok_iff] at h
        obtain ⟨-, -, h⟩ := h
        exact ih h

/-- Constants with owners are attached or reported, and none stops the work. -/
theorem not_fails_attachAll {paths : List String} {ds : List Declaration}
    (h : ∀ path ∈ paths, ∃ o, Constant.owner path = .ok o) : ¬ (attachAll paths ds).Fails := by
  induction paths generalizing ds with
  | nil => exact Logged.not_fails_ok _
  | cons path paths ih =>
      obtain ⟨⟨⟨owner, name⟩, hpath⟩, hpaths⟩ := List.forall_mem_cons.1 h
      rw [attachAll, Logged.fails_andThen]
      -- The owner is there, so it would have to be one of the constants behind this one.
      rintro (⟨e, he⟩ | ⟨⟨owner', name'⟩, -, hfails⟩)
      · rw [Logged.outcome_ofExcept, hpath] at he
        cases he
      · simp only at hfails
        split at hfails
        · rw [Logged.fails_map] at hfails
          exact ih hpaths hfails
        · rw [Logged.fails_andThen] at hfails
          obtain ⟨_, hreport⟩ | ⟨_, -, hfails⟩ := hfails
          · cases hreport
          · exact ih hpaths hfails

/-- The constants of a page never stop the work. -/
theorem not_fails_attachConstants (ds : List Declaration) (sections : List Section) :
    ¬ (attachConstants ds (ConstantPaths.ofSections sections)).Fails := by
  rw [attachConstants, Logged.fails_andThen]
  rintro (⟨e, he⟩ | ⟨paths, hpaths, hfails⟩)
  · cases he
  · cases hpaths
    exact not_fails_attachAll
      (fun path hpath => ConstantPaths.exists_owner_of_mem_ofSections hpath) hfails

end TypedReference

/-
# What a page is made into

The phases of the assembly put together: every declaration of a page is that of one of its sections,
with constants behind its members, and merged. Its signatures fit whatever the types of names do.
-/
import TypedReference.Proofs.Assembly.Rows
import TypedReference.Proofs.Constant
import TypedReference.Proofs.Overload

namespace TypedReference

/-! ## From a section to its declaration -/

/-- A declaration is another one with constants behind its members, and then merged. -/
def Declaration.Finishes (d d' : Declaration) : Prop :=
  ∃ names, d' = (d.withConstants names).mergeOverloads

namespace Declaration

/-- Attaching and merging leave the path as it is. -/
theorem Finishes.path {d d' : Declaration} (h : d.Finishes d') : d'.path = d.path := by
  obtain ⟨names, rfl⟩ := h
  rfl

/-- In a finished declaration every name stands once. -/
theorem Finishes.nodup_memberNames {d d' : Declaration} (h : d.Finishes d') :
    d'.memberNames.Nodup := by
  obtain ⟨names, rfl⟩ := h
  exact Member.nodup_names_merged _

/-- Attaching and merging make no signature but those of constants. -/
theorem Finishes.forall_kinds {Q : MemberKind → Prop} {d d' : Declaration} (h : d.Finishes d')
    (hQ : Q (.constant .int)) (hd : ∀ m ∈ d.members, ∀ k ∈ m.kinds, Q k) :
    ∀ m ∈ d'.members, ∀ k ∈ m.kinds, Q k := by
  obtain ⟨names, rfl⟩ := h
  apply Member.forall_kinds_merged
  intro m hm k hk
  rcases List.mem_append.1 hm with hm | hm
  · exact hd m hm k hk
  · -- A constant has one signature, its own.
    obtain ⟨name, -, rfl⟩ := List.mem_map.1 hm
    rw [Member.kinds, constantMember, List.mem_singleton] at hk
    rwa [hk]

end Declaration

/-! ## All sections -/

namespace Assembly

variable {cfg : Conventions} {sections : List Section} {a : Assembly}

/-- A page is assembled when its sections are read and their constants are attached. -/
theorem outcome_ofSections_eq_ok (h : (ofSections cfg sections).outcome = .ok a) :
    ∃ made ds attached,
      (Logged.mapAll (assemble cfg (ClassPaths.ofSections sections)) sections).outcome = .ok made ∧
      (attachConstants (made.filterMap id) (ConstantPaths.ofSections sections)).outcome =
        .ok (ds, attached) ∧
      a = { declarations := ds.map Declaration.mergeOverloads
            classPaths := ClassPaths.ofSections sections
            constants := ConstantPaths.ofSections sections
            attached
            mergedAway := Declaration.mergedAwayFrom ds
            dropped := droppedNames sections made } := by
  rw [ofSections] at h
  simp only [Logged.outcome_andThen_eq_ok_iff] at h
  obtain ⟨-, -, made, hmade, ⟨ds, attached⟩, hds, -, -, h⟩ := h
  cases h
  exact ⟨made, ds, attached, hmade, hds, rfl⟩

/-- **From sections to declarations.** The declarations of a page are those of its sections, in
order and finished. -/
theorem forall₂_finishes_ofSections (h : (ofSections cfg sections).outcome = .ok a) :
    ∃ made,
      (Logged.mapAll (assemble cfg (ClassPaths.ofSections sections)) sections).outcome = .ok made ∧
      List.Forall₂ Declaration.Finishes (made.filterMap id) a.declarations := by
  obtain ⟨made, ds, attached, hmade, hds, rfl⟩ := outcome_ofSections_eq_ok h
  refine ⟨made, hmade, ?_⟩
  rw [attachConstants, Logged.outcome_andThen_eq_ok_iff] at hds
  obtain ⟨paths, -, hds⟩ := hds
  rw [List.forall₂_map_right_iff]
  apply (forall₂_extends_attachAll hds).imp
  rintro d d' ⟨names, rfl⟩
  exact ⟨names, rfl⟩

/-- Every declaration of a page comes from one of its sections. -/
theorem exists_section_of_mem (h : (ofSections cfg sections).outcome = .ok a) {d : Declaration}
    (hd : d ∈ a.declarations) : ∃ s ∈ sections, ∃ base,
      (assemble cfg (ClassPaths.ofSections sections) s).outcome = .ok (some base) ∧
      base.Finishes d := by
  obtain ⟨made, hmade, hfinish⟩ := forall₂_finishes_ofSections h
  obtain ⟨base, hbase, hd⟩ := Logged.exists_of_mem_right hfinish hd
  obtain ⟨d?, hd?, hsome⟩ := List.mem_filterMap.1 hbase
  obtain ⟨s, hs, hassemble⟩ := Logged.exists_of_mem_mapAll hmade hd?
  rw [id_eq] at hsome
  exact ⟨s, hs, base, hsome ▸ hassemble, hd⟩

/-- Every class of a page has its declaration. -/
theorem exists_declaration_of_class (h : (ofSections cfg sections).outcome = .ok a) {s : Section}
    (hs : s ∈ sections) (hclass : s.kind = .class) : ∃ d ∈ a.declarations, d.path = s.path := by
  obtain ⟨made, hmade, hfinish⟩ := forall₂_finishes_ofSections h
  obtain ⟨base?, hbase?, hassemble⟩ := Logged.exists_mem_of_mapAll hmade hs
  cases base? with
  | none =>
      -- Only modules are dropped.
      have hmodule := kind_eq_module_of_assemble hassemble
      rw [hclass] at hmodule
      cases hmodule
  | some base =>
      have hbase : base ∈ made.filterMap id := List.mem_filterMap.2 ⟨some base, hbase?, rfl⟩
      obtain ⟨d, hd, hfinishes⟩ := Logged.exists_of_mem_left hfinish hbase
      exact ⟨d, hd, hfinishes.path.trans (path_eq_of_assemble hclass hassemble)⟩

/-- The signatures of a page fit every hereditary kind that holds of the types of names. -/
theorem fits_of_mem {P : ApiType → Prop} (hP : ApiType.Hereditary P) (hint : P .int)
    (hname : ∀ x t, (resolveName (ClassPaths.ofSections sections) x).outcome = .ok t → P t)
    (h : (ofSections cfg sections).outcome = .ok a) :
    ∀ d ∈ a.declarations, ∀ m ∈ d.members, ∀ k ∈ m.kinds, k.Fits P := by
  intro d hd
  obtain ⟨s, -, base, hbase, hfinishes⟩ := exists_section_of_mem h hd
  obtain ⟨-, -, hlisted⟩ := assemble_eq_ok_some hbase
  exact hfinishes.forall_kinds hint fun m hm => (hlisted m hm).fits hP hname

/-- What holds of the path of every class holds of every reference in a signature. -/
theorem fits_references_of_mem {q : List String → Prop}
    (hq : ∀ path ∈ (ClassPaths.ofSections sections).entries, q path)
    (h : (ofSections cfg sections).outcome = .ok a) :
    ∀ d ∈ a.declarations, ∀ m ∈ d.members, ∀ k ∈ m.kinds,
      k.Fits fun t => ∀ path ∈ t.references, q path := by
  refine fits_of_mem (ApiType.hereditary_references q) (by simp [ApiType.int, ApiType.references])
    ?_ h
  intro x t ht path hpath
  have hnames := names_of_resolveName (ClassPaths.usable_ofSections sections) ht
  exact hq path (references_of_names hnames path hpath)

end Assembly

end TypedReference

/-
# The result of an assembly

Once the sections of a page are read, the rest of the work is determined: `Assembly.ofMade` is what
it comes to, without going through the constants one by one, and nothing after the reading fails.
-/
import TypedReference.Proofs.Assembly.Failure
import TypedReference.Proofs.Ownership

namespace TypedReference

/-! ## What is documented and what is not -/

section

variable {d : Declaration} (h : ∀ m ∈ d.members, ∀ k ∈ m.kinds, k.isConstant = false)
  (names : List String)
include h

/-- No merged member of a declaration without constants is one. -/
theorem Member.isConstant_eq_false_of_mem_merged :
    ∀ m ∈ merged d.members, m.kind.isConstant = false :=
  fun m hm => forall_kinds_merged h m hm m.kind List.mem_cons_self

/-- Merged with constants, a declaration keeps what its rows document. -/
theorem Declaration.filter_not_isConstant :
    ((d.withConstants names).mergeOverloads).members.filter (fun m => !m.kind.isConstant) =
      Member.merged d.members := by
  rw [mergeOverloads_withConstants, List.filter_append, List.filter_eq_self.2,
    List.filter_eq_nil_iff.2, List.append_nil]
  · intro m hm
    obtain ⟨name, -, rfl⟩ := List.mem_map.1 hm
    simp [constantMember, MemberKind.isConstant]
  · intro m hm
    rw [Member.isConstant_eq_false_of_mem_merged h m hm, Bool.not_false]

/-- What a declaration has otherwise are the constants whose names are new. -/
theorem Declaration.filter_isConstant :
    ((d.withConstants names).mergeOverloads).members.filter (fun m => m.kind.isConstant) =
      (d.newNames names).map constantMember := by
  rw [mergeOverloads_withConstants, List.filter_append, List.filter_eq_nil_iff.2,
    List.filter_eq_self.2, List.nil_append]
  · intro m hm
    obtain ⟨name, -, rfl⟩ := List.mem_map.1 hm
    rfl
  · intro m hm
    rw [Member.isConstant_eq_false_of_mem_merged h m hm]
    exact Bool.false_ne_true

end

namespace Assembly

/-! ## After the sections are read -/

/-- The paths of the constants that a page mentions. -/
def constantPaths (sections : List Section) : List String :=
  (ConstantPaths.ofSections sections).entries

/-- The declarations with the constants that they own, before members are merged. -/
def givenTo (sections : List Section) (made : List (Option Declaration)) : List Declaration :=
  Declaration.giveEach (Constant.namesOf (constantPaths sections)) [] (made.filterMap id)

/-- What a page is made into when its sections have been made into some declarations. -/
def ofMade (sections : List Section) (made : List (Option Declaration)) : Assembly where
  declarations := (givenTo sections made).map Declaration.mergeOverloads
  classPaths := ClassPaths.ofSections sections
  constants := ConstantPaths.ofSections sections
  attached := (constantPaths sections).countP (Constant.isOwned (made.filterMap id))
  mergedAway := Declaration.mergedAwayFrom (givenTo sections made)
  dropped := droppedNames sections made

/-- What is reported after the sections have been made into some declarations: the constants without
owners, and the members that are dropped. -/
def eventsOfMade (sections : List Section) (made : List (Option Declaration)) : List Event :=
  (((constantPaths sections).filter fun path => !Constant.isOwned (made.filterMap id) path).map
    fun path => .ownerMissing (Constant.ownerPath path) path) ++
  (givenTo sections made).flatMap Declaration.mergeEvents

/-- What is reported before the sections are read. -/
def registrationEvents (sections : List Section) : List Event :=
  [.classesRegistered (ClassPaths.ofSections sections).size,
    .constantsRegistered (ConstantPaths.ofSections sections).size]

variable {cfg : Conventions} {sections : List Section}

/-- The sections of a page, read one after the other. -/
def reading (cfg : Conventions) (sections : List Section) :
    Logged AssemblyFault (List (Option Declaration)) :=
  Logged.mapAll (assemble cfg (ClassPaths.ofSections sections)) sections

/-- The documented classes depend on the kinds and the paths of the sections. -/
theorem classPaths_congr {sections sections' : List Section}
    (h : List.Forall₂ (fun s s' => s.kind = s'.kind ∧ s.path = s'.path) sections sections') :
    ClassPaths.ofSections sections = ClassPaths.ofSections sections' := by
  rw [ClassPaths.ofSections, ClassPaths.ofSections]
  congr 1
  induction h with
  | nil => rfl
  | cons hs _ ih =>
      rw [List.filter_cons, List.filter_cons, hs.1]
      split
      · rw [List.map_cons, List.map_cons, hs.2, ih]
      · exact ih

/-- The names of the sections depend on their paths. -/
theorem dottedNames_congr {sections sections' : List Section}
    (h : List.Forall₂ (fun s s' => s.kind = s'.kind ∧ s.path = s'.path) sections sections') :
    sections.map Section.dottedName = sections'.map Section.dottedName := by
  rw [← List.forall₂_eq_eq_eq, List.forall₂_map_left_iff, List.forall₂_map_right_iff]
  refine h.imp fun s s' hs => ?_
  rw [Section.dottedName, hs.2, Section.dottedName]

/-- The names of the dropped sections depend on the names of all and on which are dropped. -/
theorem droppedNames_congr {sections sections' : List Section}
    {made made' : List (Option Declaration)}
    (hnames : sections.map Section.dottedName = sections'.map Section.dottedName)
    (hmade : made.map Option.isNone = made'.map Option.isNone) :
    droppedNames sections made = droppedNames sections' made' := by
  have hzip : ∀ (ss : List Section) (ds : List (Option Declaration)), droppedNames ss ds =
      ((ss.map Section.dottedName).zip (ds.map Option.isNone)).filterMap
        fun p => if p.2 then some p.1 else none := by
    intro ss ds
    rw [List.zip_map, List.filterMap_map]
    rfl
  rw [hzip, hzip, hnames, hmade]

/-- The members of the sections come from their rows. -/
theorem listed_of_mem_made {made : List (Option Declaration)}
    (h : (reading cfg sections).outcome = .ok made) : ∀ d ∈ made.filterMap id, ∀ m ∈ d.members,
      Listed cfg (ClassPaths.ofSections sections) m := by
  intro d hd
  obtain ⟨d?, hd?, hsome⟩ := List.mem_filterMap.1 hd
  obtain ⟨s, -, hs⟩ := Logged.exists_of_mem_mapAll h hd?
  rw [id_eq] at hsome
  obtain ⟨-, -, hlisted⟩ := assemble_eq_ok_some (hsome ▸ hs)
  exact hlisted

/-- Each constant of a page is attached to its owner or reported. -/
theorem attachConstants_eq (sections : List Section) (made : List (Option Declaration)) :
    attachConstants (made.filterMap id) (ConstantPaths.ofSections sections) =
      ⟨.ok (givenTo sections made, (ofMade sections made).attached),
        ((constantPaths sections).filter fun path =>
            !Constant.isOwned (made.filterMap id) path).map fun path =>
          .ownerMissing (Constant.ownerPath path) path⟩ := by
  have howners : ∀ path ∈ constantPaths sections, ∃ o, Constant.owner path = .ok o :=
    fun path hpath => ConstantPaths.exists_owner_of_mem_ofSections hpath
  have hread : attachConstants (made.filterMap id) (ConstantPaths.ofSections sections) =
      attachAll (constantPaths sections) (made.filterMap id) := rfl
  rw [hread, attachAll_eq howners]
  rfl

/-- **The reading decides.** A page is made into what its sections determine once they are read. -/
theorem ofSections_of_reading {made : List (Option Declaration)}
    (h : (reading cfg sections).outcome = .ok made) :
    ofSections cfg sections =
      ⟨.ok (ofMade sections made),
        registrationEvents sections ++
          ((reading cfg sections).events ++ eventsOfMade sections made)⟩ := by
  rw [reading] at h
  simp only [ofSections, Logged.andThen, Logged.reportAll, h, attachConstants_eq, Logged.ok,
    List.append_nil]
  rfl

/-- A page is assembled exactly when its sections are read. -/
theorem outcome_ofSections_eq_ok_iff {a : Assembly} :
    (ofSections cfg sections).outcome = .ok a ↔
      ∃ made, (reading cfg sections).outcome = .ok made ∧ ofMade sections made = a := by
  constructor
  · intro h
    obtain ⟨made, -, -, hmade, -, -⟩ := outcome_ofSections_eq_ok h
    refine ⟨made, hmade, ?_⟩
    rw [ofSections_of_reading hmade] at h
    exact Except.ok.inj h
  · rintro ⟨made, hmade, rfl⟩
    rw [ofSections_of_reading hmade]

/-- A page whose sections cannot be read is refused for what stands in them. -/
theorem refused_of_reading {e : AssemblyFault} (h : (reading cfg sections).outcome = .error e) :
    ∃ cause, e = .document cause ∧
      (ofSections cfg sections).outcome = .error (.document cause) := by
  obtain ⟨cause, rfl⟩ : e.InPage := Logged.FaultsIn.mapAll
    (fun s _ => faultsIn_assemble (ClassPaths.usable_ofSections sections) s) e h
  exact ⟨cause, rfl, (outcome_ofSections_eq_error cfg sections).2 h⟩

end Assembly

end TypedReference

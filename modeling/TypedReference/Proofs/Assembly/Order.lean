/-
# The order of the sections

Three searches depend on the order of the sections: classes are looked up by the last segment,
owners of constants by their paths, and constants count at their first mention. Wherever the
sections stand, as long as those that one search cannot tell apart keep their order, each of them is
made into the same declaration, but for the order of its constants.
-/
import Mathlib.Algebra.BigOperators.Group.List.Basic
import TypedReference.Proofs.Assembly.Result
import TypedReference.Proofs.Interchange

namespace TypedReference

/-! ## Pages in another order -/

/-- The form of the name of a section, by which a class is looked up. -/
def Section.form (s : Section) : List Char := Text.singular s.lastSegment.toList

/-- The same sections in another order. Classes of one form keep their order, and so do sections of
one identity. -/
structure Reordering (sections sections' : List Section) where
  /-- The new place of each section. -/
  position : Fin sections.length ≃ Fin sections'.length
  /-- Each section stands in its new place. -/
  section_eq : ∀ i, sections'[position i] = sections[i]
  /-- Classes of one form keep their order. -/
  classes : ∀ i j, i < j → sections[i].kind = .class → sections[j].kind = .class →
    sections[i].form = sections[j].form → position i < position j
  /-- Sections of one identity keep their order. -/
  identities : ∀ i j, i < j → sections[i].identity = sections[j].identity →
    position i < position j

namespace Reordering

variable {sections sections' : List Section} (r : Reordering sections sections')
include r

theorem perm : sections.Perm sections' := by
  have hperm : (List.ofFn sections.get).Perm (List.ofFn sections'.get) :=
    Lists.perm_ofFn r.position r.section_eq
  rwa [List.ofFn_get, List.ofFn_get] at hperm

/-- Of two sections of one identity the same one stands first in both orders. -/
theorem lt_iff_lt {i j : Fin sections.length} (h : sections[i].identity = sections[j].identity) :
    r.position i < r.position j ↔ i < j := by
  constructor
  · intro hlt
    rcases lt_trichotomy i j with hij | rfl | hji
    · exact hij
    · exact absurd hlt (lt_irrefl _)
    · exact absurd hlt (lt_asymm (r.identities j i hji h.symm))
  · exact fun hij => r.identities i j hij h

/-- Names mean the same in both orders. -/
theorem alike : (ClassPaths.ofSections sections).Alike (ClassPaths.ofSections sections') where
  usable := ClassPaths.usable_ofSections sections
  usable' := ClassPaths.usable_ofSections sections'
  mem_iff := by
    intro path
    simp only [ClassPaths.mem_entries_ofSections, r.perm.mem_iff]
  first_eq := by
    intro form
    have hlast : ∀ s : Section, ClassPaths.lastSegment s.path = s.lastSegment := by
      intro s
      rw [ClassPaths.lastSegment, List.getLast?_eq_some_getLast s.path_ne_nil, Option.getD_some]
      rfl
    have hfirst : ∀ ss : List Section, (ClassPaths.ofSections ss).firstWithForm? form =
        (ss.find? fun s => s.kind = .class ∧ s.form = form).map Section.path := by
      intro ss
      simp only [ClassPaths.firstWithForm?, ClassPaths.ofSections, Registry.ofList, List.find?_map,
        List.find?_filter, Function.comp_def, hlast, Section.form, decide_eq_true_eq]
      congr!
    rw [hfirst, hfirst, Lists.find?_eq_of_position r.position r.section_eq]
    intro i j hij hi hj
    obtain ⟨hi, hiform⟩ := of_decide_eq_true hi
    obtain ⟨hj, hjform⟩ := of_decide_eq_true hj
    exact r.classes i j hij hi hj (hiform.trans hjform.symm)

/-- The same constants are mentioned. -/
theorem perm_constantPaths :
    (Assembly.constantPaths sections).Perm (Assembly.constantPaths sections') :=
  Lists.perm_eraseDups (r.perm.flatMap_right _)

end Reordering

/-! ## Declarations but for the order of their constants -/

/-- Two declarations of one name whose documented members stand in the same places and are the
same, while their constants may be in another order. -/
structure Declaration.SameUpToConstants (d d' : Declaration) : Prop where
  /-- The packages agree. -/
  package : d.package = d'.package
  /-- The names agree. -/
  name : d.name = d'.name
  /-- The constants stand in the same places. -/
  places : d.members.map (fun m => m.kind.isConstant) = d'.members.map fun m => m.kind.isConstant
  /-- The documented members agree, in order and with all that belongs to them. -/
  documented : d.members.filter (fun m => !m.kind.isConstant) =
    d'.members.filter fun m => !m.kind.isConstant
  /-- The constants are the same. -/
  constants : (d.members.filter fun m => m.kind.isConstant).Perm
    (d'.members.filter fun m => m.kind.isConstant)

namespace Declaration

variable {d : Declaration} {names names' : List String}

/-- A declaration that is given constants in another order only differs in their order. -/
theorem sameUpToConstants (hd : ∀ m ∈ d.members, ∀ k ∈ m.kinds, k.isConstant = false)
    (h : names.Perm names') : (d.withConstants names).mergeOverloads.SameUpToConstants
      (d.withConstants names').mergeOverloads := by
  have hplaces : ∀ ns : List String,
      ((d.withConstants ns).mergeOverloads).members.map (fun m => m.kind.isConstant) =
        List.replicate (Member.merged d.members).length false ++
          List.replicate (d.newNames ns).length true := by
    -- The documented members stand in front and the constants behind them.
    intro ns
    have hconstant : (fun m : Member => m.kind.isConstant) ∘ constantMember = fun _ => true := rfl
    rw [mergeOverloads_withConstants, List.map_append, List.map_map, hconstant, List.map_const',
      List.map_eq_replicate_iff.2 (Member.isConstant_eq_false_of_mem_merged hd)]
  refine ⟨rfl, rfl, ?_, ?_, ?_⟩
  · rw [hplaces, hplaces, (d.perm_newNames h).length_eq]
  · rw [filter_not_isConstant hd, filter_not_isConstant hd]
  · rw [filter_isConstant hd, filter_isConstant hd]
    exact (d.perm_newNames h).map constantMember

/-- As many members are merged away whatever the order of the constants. -/
theorem mergedAway_perm (h : names.Perm names') :
    (d.withConstants names).mergedAway = (d.withConstants names').mergedAway := by
  have hbefore : ∀ ns, (d.withConstants ns).members.length = d.members.length + ns.length := by
    intro ns
    rw [withConstants, List.length_append, List.length_map]
  have hleft := (d.withConstants names).length_mergeOverloads
  have hright := (d.withConstants names').length_mergeOverloads
  rw [mergeOverloads_withConstants, hbefore, List.length_append, List.length_map] at hleft hright
  have hnames := h.length_eq
  have hnew := (d.perm_newNames h).length_eq
  omega

end Declaration

namespace Assembly

/-! ## What becomes of each section -/

/-- What each section of a page is made into in the end. -/
structure Fates (cfg : Conventions) (sections : List Section) (a : Assembly)
    (fate : Fin sections.length → Option Declaration) : Prop where
  /-- A section without a declaration is one that is dropped. -/
  kept : ∀ i, fate i = none ↔
    (assemble cfg (ClassPaths.ofSections sections) sections[i]).outcome = .ok none
  /-- A declaration has the identity of its section. -/
  identity : ∀ i, ∀ d ∈ fate i, (d.package, d.name) = sections[i].identity
  /-- The declarations of the page are those of its sections, in order. -/
  declarations : (List.ofFn fate).filterMap id = a.declarations
  /-- The dropped modules are the sections without one, in order. -/
  dropped : droppedNames sections (List.ofFn fate) = a.dropped

/-- The declaration of each section with the constants that it owns, before members are merged. -/
def given (sections : List Section) (made : Fin sections.length → Option Declaration)
    (i : Fin sections.length) : Option Declaration :=
  (made i).map fun d => d.withConstants (if Declaration.PathBefore made i d.path then []
    else Constant.namesOf (constantPaths sections) d.path)

variable {cfg : Conventions} {sections sections' : List Section}

theorem givenTo_ofFn (made : Fin sections.length → Option Declaration) :
    givenTo sections (List.ofFn made) = (List.ofFn (given sections made)).filterMap id := by
  rw [givenTo, Declaration.giveEach_ofFn]
  simp only [List.not_mem_nil, false_or]
  rfl

/-- A section ends as its declaration with its constants, merged. -/
theorem fates_ofMade {made : Fin sections.length → Option Declaration}
    (h : ∀ i, (assemble cfg (ClassPaths.ofSections sections) sections[i]).outcome = .ok (made i)) :
    Fates cfg sections (ofMade sections (List.ofFn made))
      fun i => (given sections made i).map Declaration.mergeOverloads where
  kept := by
    intro i
    rw [h i, Option.map_eq_none_iff, given, Option.map_eq_none_iff, Except.ok.injEq]
  identity := by
    intro i d hd
    obtain ⟨given, hgiven, rfl⟩ := Option.map_eq_some_iff.1 hd
    obtain ⟨base, hbase, rfl⟩ := Option.map_eq_some_iff.1 hgiven
    obtain ⟨hpackage, hname, -⟩ := assemble_eq_ok_some ((h i).trans (congrArg Except.ok hbase))
    exact Prod.ext hpackage hname
  declarations := by
    have hcomm : (List.ofFn fun i => (given sections made i).map Declaration.mergeOverloads) =
        (List.ofFn (given sections made)).map (Option.map Declaration.mergeOverloads) := by
      rw [List.map_ofFn]
      rfl
    rw [ofMade, givenTo_ofFn, hcomm]
    simp [List.map_filterMap, List.filterMap_map]
  dropped := by
    apply droppedNames_congr rfl
    rw [List.map_ofFn, List.map_ofFn]
    congr 1
    funext i
    simp [given]

/-- What a section was made into tells its identity from its path. -/
theorem identity_eq_of_path_eq {made : Fin sections.length → Option Declaration}
    (h : ∀ i, (assemble cfg (ClassPaths.ofSections sections) sections[i]).outcome = .ok (made i))
    {i j : Fin sections.length} {d d' : Declaration} (hd : made i = some d) (hd' : made j = some d')
    (hpath : d.path = d'.path) : sections[i].identity = sections[j].identity := by
  obtain ⟨hpackage, hname, -⟩ := assemble_eq_ok_some ((h i).trans (congrArg Except.ok hd))
  obtain ⟨hpackage', hname', -⟩ := assemble_eq_ok_some ((h j).trans (congrArg Except.ok hd'))
  obtain ⟨hfront, hlast⟩ := List.append_inj' hpath rfl
  rw [List.singleton_inj] at hlast
  apply Prod.ext
  · rw [← hpackage, ← hpackage', hfront]
  · rw [← hname, ← hname', hlast]

/-! ## Two orders -/

section

variable (r : Reordering sections sections') {made : Fin sections.length → Option Declaration}
  {made' : Fin sections'.length → Option Declaration}
  (h : ∀ i, (assemble cfg (ClassPaths.ofSections sections) sections[i]).outcome = .ok (made i))
  (h' : ∀ i, (assemble cfg (ClassPaths.ofSections sections') sections'[i]).outcome = .ok (made' i))
include r h h'

/-- In both orders a section is read alike. -/
theorem made_position (i : Fin sections.length) : made' (r.position i) = made i := by
  have hmade := h' (r.position i)
  rw [r.section_eq i, ← assemble_alike r.alike, h i] at hmade
  exact (Except.ok.inj hmade).symm

/-- In both orders the same section is the first one with its path. -/
theorem pathBefore_position {i : Fin sections.length} {d : Declaration} (hd : made i = some d) :
    Declaration.PathBefore made' (r.position i) d.path ↔
      Declaration.PathBefore made i d.path := by
  have hlt : ∀ j, (made j).map Declaration.path = some d.path →
      (r.position j < r.position i ↔ j < i) := by
    intro j hj
    obtain ⟨d', hd', hpath⟩ := Option.map_eq_some_iff.1 hj
    exact r.lt_iff_lt (identity_eq_of_path_eq h hd' hd hpath)
  constructor
  · rintro ⟨k, hk, hpath⟩
    obtain ⟨j, rfl⟩ := r.position.surjective k
    rw [made_position r h h'] at hpath
    exact ⟨j, (hlt j hpath).1 hk, hpath⟩
  · rintro ⟨j, hj, hpath⟩
    refine ⟨r.position j, (hlt j hpath).2 hj, ?_⟩
    rwa [made_position r h h']

/-- In both orders a section is given the same constants. -/
theorem given_position (i : Fin sections.length) :
    given sections made i = none ∧ given sections' made' (r.position i) = none ∨
    ∃ d names names', made i = some d ∧ names.Perm names' ∧
      given sections made i = some (d.withConstants names) ∧
      given sections' made' (r.position i) = some (d.withConstants names') := by
  cases hd : made i with
  | none =>
      left
      rw [given, given, made_position r h h', hd]
      exact ⟨rfl, rfl⟩
  | some d =>
      refine Or.inr ⟨d, _, _, rfl, ?_, by rw [given, hd]; rfl,
        by rw [given, made_position r h h', hd]; rfl⟩
      have hbefore := pathBefore_position r h h' hd
      by_cases hearlier : Declaration.PathBefore made i d.path
      · rw [if_pos hearlier, if_pos (hbefore.2 hearlier)]
      · rw [if_neg hearlier, if_neg (mt hbefore.1 hearlier)]
        exact (r.perm_constantPaths.filter _).map _

/-- In both orders a section ends alike. -/
theorem rel_fates (i : Fin sections.length) : Option.Rel Declaration.SameUpToConstants
    ((given sections made i).map Declaration.mergeOverloads)
    ((given sections' made' (r.position i)).map Declaration.mergeOverloads) := by
  rcases given_position r h h' i with ⟨hnone, hnone'⟩ | ⟨d, names, names', hd, hperm, hsome, hsome'⟩
  · rw [hnone, hnone']
    exact .none
  · rw [hsome, hsome']
    have hrows : ∀ m ∈ d.members, ∀ k ∈ m.kinds, k.isConstant = false := by
      obtain ⟨-, -, hlisted⟩ := assemble_eq_ok_some ((h i).trans (congrArg Except.ok hd))
      exact fun m hm => (hlisted m hm).isConstant_eq_false
    exact .some (Declaration.sameUpToConstants hrows hperm)

/-- In both orders as many constants are attached. -/
theorem attached_eq : (ofMade sections (List.ofFn made)).attached =
    (ofMade sections' (List.ofFn made')).attached := by
  have hpaths : (((List.ofFn made).filterMap id).map Declaration.path).Perm
      (((List.ofFn made').filterMap id).map Declaration.path) :=
    ((Lists.perm_ofFn r.position (made_position r h h')).filterMap id).map _
  have howned : Constant.isOwned ((List.ofFn made).filterMap id) =
      Constant.isOwned ((List.ofFn made').filterMap id) := by
    funext path
    rw [Bool.eq_iff_iff, Constant.isOwned_iff, Constant.isOwned_iff, hpaths.mem_iff]
  simp only [ofMade, howned]
  exact r.perm_constantPaths.countP_eq _

/-- In both orders as many members are merged away. -/
theorem mergedAway_eq : (ofMade sections (List.ofFn made)).mergedAway =
    (ofMade sections' (List.ofFn made')).mergedAway := by
  have hgiven : ∀ (ss : List Section) (ds : Fin ss.length → Option Declaration),
      (givenTo ss (List.ofFn ds)).map Declaration.mergedAway =
        (List.ofFn fun i => (given ss ds i).map Declaration.mergedAway).filterMap id := by
    intro ss ds
    have hcomm : (List.ofFn fun i => (given ss ds i).map Declaration.mergedAway) =
        (List.ofFn (given ss ds)).map (Option.map Declaration.mergedAway) := by
      rw [List.map_ofFn]
      rfl
    rw [givenTo_ofFn, hcomm]
    simp [List.map_filterMap, List.filterMap_map]
  have hperm : ((givenTo sections (List.ofFn made)).map Declaration.mergedAway).Perm
      ((givenTo sections' (List.ofFn made')).map Declaration.mergedAway) := by
    rw [hgiven, hgiven]
    apply List.Perm.filterMap
    apply Lists.perm_ofFn r.position
    intro i
    rcases given_position r h h' i with ⟨hnone, hnone'⟩ | ⟨d, names, names', -, hperm, hd, hd'⟩
    · rw [hnone, hnone']
    · rw [hd, hd', Option.map_some, Option.map_some, Declaration.mergedAway_perm hperm]
  have hsum : ∀ ds : List Declaration,
      Declaration.mergedAwayFrom ds = (ds.map Declaration.mergedAway).sum :=
    fun _ => List.foldr_map.symm
  show Declaration.mergedAwayFrom _ = Declaration.mergedAwayFrom _
  rw [hsum, hsum, hperm.sum_eq]

end

/-- A page can be read in both orders or in none. -/
theorem fails_reading_iff (r : Reordering sections sections') :
    (reading cfg sections).Fails ↔ (reading cfg sections').Fails := by
  simp only [reading, Logged.fails_mapAll, r.perm.mem_iff, assemble_alike r.alike]

variable (cfg) in
/-- **The order of the sections decides nothing else.** Two pages with the same sections, in which
those that a search cannot tell apart are in the same order, are both refused, or each section ends
in both without a declaration or with the same one, but for the order of its constants, and as many
constants are attached and as many members merged. -/
theorem order_ofSections (r : Reordering sections sections') :
    (∃ cause cause', (ofSections cfg sections).outcome = .error (.document cause) ∧
      (ofSections cfg sections').outcome = .error (.document cause')) ∨
    ∃ a a', (ofSections cfg sections).outcome = .ok a ∧
      (ofSections cfg sections').outcome = .ok a' ∧
      (∃ fate fate', Fates cfg sections a fate ∧ Fates cfg sections' a' fate' ∧
        ∀ i, Option.Rel Declaration.SameUpToConstants (fate i) (fate' (r.position i))) ∧
      a.attached = a'.attached ∧ a.mergedAway = a'.mergedAway := by
  by_cases hfails : (reading cfg sections).Fails
  · obtain ⟨e, he⟩ := hfails
    obtain ⟨e', he'⟩ := (fails_reading_iff r).1 ⟨e, he⟩
    obtain ⟨cause, -, hcause⟩ := refused_of_reading he
    obtain ⟨cause', -, hcause'⟩ := refused_of_reading he'
    exact Or.inl ⟨cause, cause', hcause, hcause'⟩
  · obtain ⟨l, hl⟩ := Logged.not_fails_iff.1 hfails
    obtain ⟨l', hl'⟩ := Logged.not_fails_iff.1 (mt (fails_reading_iff r).2 hfails)
    obtain ⟨made, rfl, h⟩ := Logged.exists_ofFn_of_mapAll hl
    obtain ⟨made', rfl, h'⟩ := Logged.exists_ofFn_of_mapAll hl'
    exact Or.inr ⟨_, _, outcome_ofSections_eq_ok_iff.2 ⟨_, hl, rfl⟩,
      outcome_ofSections_eq_ok_iff.2 ⟨_, hl', rfl⟩,
      ⟨_, _, fates_ofMade h, fates_ofMade h', rel_fates r h h'⟩,
      attached_eq r h h', mergedAway_eq r h h'⟩

/-- A table of one property. -/
def propertyTable (name description : String) : Table :=
  ⟨["properties", "type", "description"], [[name, "", description]]⟩

/-- Two classes whose descriptions mention one constant each. -/
def viewSections : List Section :=
  [.classAt "sublime" "View" [propertyTable "size" "sublime.View.LAST"],
    .classAt "sublime" "Region" [propertyTable "a" "sublime.View.FIRST"]]

/-- The two classes change their places. -/
def viewSwapped : Reordering viewSections viewSections.reverse where
  position := Fin.revPerm
  section_eq := Fin.forall_fin_two.2 ⟨rfl, rfl⟩
  classes := by decide
  identities := by decide

theorem order_ofSections_swapped :
    (ofSections {} viewSections).outcome.toOption.map
        (fun a => a.declarations.map Declaration.memberNames) =
      some [["size", "LAST", "FIRST"], ["a"]] ∧
    (ofSections {} viewSections.reverse).outcome.toOption.map
        (fun a => a.declarations.map Declaration.memberNames) =
      some [["a"], ["size", "FIRST", "LAST"]] ∧
    ∃ a a', (ofSections {} viewSections).outcome = .ok a ∧
      (ofSections {} viewSections.reverse).outcome = .ok a' ∧
      (∃ fate fate', Fates {} viewSections a fate ∧ Fates {} viewSections.reverse a' fate' ∧
        ∀ i, Option.Rel Declaration.SameUpToConstants (fate i) (fate' (viewSwapped.position i))) ∧
      a.attached = a'.attached ∧ a.mergedAway = a'.mergedAway := by
  refine ⟨rfl, rfl, ?_⟩
  rcases order_ofSections {} viewSwapped with ⟨cause, -, hcause, -⟩ | hsame
  · cases hcause
  · exact hsame

end Assembly

end TypedReference

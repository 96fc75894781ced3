/-
# Descriptions

The texts under a header "description" are kept as they stand and searched for constants, and that
is all that comes of them: two pages that differ in such texts only have the same classes and the
same documented members, and they are refused for the same reason.
-/
import TypedReference.Proofs.Assembly.Result

namespace TypedReference

/-! ## Pages that differ in descriptions -/

/-- The cells at a position of the rows are descriptions. -/
def Table.Describes (t : Table) (i : Nat) : Prop :=
  t.columns[i]?.map Table.lowered = some "description"

/-- Two tables with the same headers and rows of the same lengths that agree in every cell, unless
it is a description. -/
structure Table.SameButDescriptions (t t' : Table) : Prop where
  /-- The headers agree. -/
  columns : t.columns = t'.columns
  /-- The rows agree where they are not described. -/
  rows : List.Forall₂ (fun row row' => row.length = row'.length ∧
    ∀ i, ¬ t.Describes i → row[i]? = row'[i]?) t.rows t'.rows

/-- Two sections of the same kind and path whose tables agree up to descriptions. -/
structure Section.SameButDescriptions (s s' : Section) : Prop where
  /-- The kinds agree. -/
  kind : s.kind = s'.kind
  /-- The paths agree. -/
  path : s.path = s'.path
  /-- The tables agree up to descriptions. -/
  tables : List.Forall₂ Table.SameButDescriptions s.tables s'.tables

/-! ## What is left without descriptions -/

/-- The member without its description. -/
def Member.withoutDoc (m : Member) : Member := { m with doc := "" }

namespace Declaration

/-- The declaration without the descriptions of its members. -/
def withoutDocs (d : Declaration) : Declaration :=
  { d with members := d.members.map Member.withoutDoc }

/-- What of a declaration does not come from descriptions. -/
def documented (d : Declaration) : Declaration :=
  { d with members := (d.members.filter fun m => !m.kind.isConstant).map Member.withoutDoc }

end Declaration

/-- Merging pays no regard to descriptions. -/
theorem Member.addTo_withoutDoc (members : List Member) (m : Member) :
    (addTo members m).map withoutDoc = addTo (members.map withoutDoc) m.withoutDoc := by
  induction members with
  | nil => rfl
  | cons first rest ih =>
      have habsorb : (first.absorb m).withoutDoc = first.withoutDoc.absorb m.withoutDoc := by
        unfold absorb
        split
        · next h => rw [if_pos (show first.withoutDoc.overloads? m.withoutDoc from h)]; rfl
        · next h => rw [if_neg (show ¬ first.withoutDoc.overloads? m.withoutDoc from h)]
      rw [addTo, List.map_cons, addTo]
      by_cases hname : first.name = m.name
      · rw [if_pos hname, if_pos (show first.withoutDoc.name = m.withoutDoc.name from hname),
          List.map_cons, habsorb]
      · rw [if_neg hname, if_neg (show ¬ first.withoutDoc.name = m.withoutDoc.name from hname),
          List.map_cons, ih]

theorem Member.merged_withoutDoc (members : List Member) :
    (merged members).map withoutDoc = merged (members.map withoutDoc) := by
  induction members using List.reverseRecOn with
  | nil => rfl
  | append_singleton members m ih =>
      rw [List.map_append, merged_append, merged_append, List.foldl_cons, List.foldl_nil,
        addTo_withoutDoc, ih, List.map_singleton, List.foldl_cons, List.foldl_nil]

/-- Whatever constants it is given, a declaration keeps what its rows document. -/
theorem Declaration.documented_finished {d : Declaration}
    (h : ∀ m ∈ d.members, ∀ k ∈ m.kinds, k.isConstant = false) (names : List String) :
    ((d.withConstants names).mergeOverloads).documented = d.withoutDocs.mergeOverloads := by
  rw [documented, filter_not_isConstant h, Member.merged_withoutDoc]
  rfl

/-! ## Rows -/

section

variable {cfg : Conventions} {classes : ClassPaths}

/-- But for its description, a method comes from its signature and its result. -/
theorem methodOfRow_withoutDoc {isStatic : Bool} {row row' : List String}
    (hsignature : cell row 0 = cell row' 0) (hresult : cell row 1 = cell row' 1) :
    (methodOfRow cfg classes isStatic row).map (Option.map Member.withoutDoc) =
      (methodOfRow cfg classes isStatic row').map (Option.map Member.withoutDoc) := by
  rw [methodOfRow, methodOfRow, Logged.map_andThen, Logged.map_andThen, hsignature, hresult]
  congr 1
  funext sig?
  cases sig? with
  | none => rfl
  | some sig =>
      rw [Logged.map_map, Logged.map_map]
      rfl

/-- But for its description, a constructor comes from the signature in the first row. -/
theorem constructorOfRows_withoutDoc {owner : String} {rows rows' : List (List String)}
    (h : List.Forall₂ (fun row row' => cell row 0 = cell row' 0) rows rows') :
    (constructorOfRows cfg classes owner rows).map Member.withoutDoc =
      (constructorOfRows cfg classes owner rows').map Member.withoutDoc := by
  cases h with
  | nil => rfl
  | @cons row row' more more' hrow hmore =>
      have hempty : more.isEmpty = more'.isEmpty := by
        rw [Bool.eq_iff_iff, List.isEmpty_iff_length_eq_zero, List.isEmpty_iff_length_eq_zero,
          hmore.length_eq]
      simp only [constructorOfRows, Logged.map_andThen, hrow, hempty, hmore.length_eq]
      congr 1
      funext _
      congr 1
      funext sig?
      cases sig? <;> rfl

/-- But for its description, a property comes from its name and its type. -/
theorem propertyOfRow_withoutDoc {row row' : List String} (hname : cell row 0 = cell row' 0)
    (htype : cell row 1 = cell row' 1) :
    (propertyOfRow cfg classes row).map (Option.map Member.withoutDoc) =
      (propertyOfRow cfg classes row').map (Option.map Member.withoutDoc) := by
  unfold propertyOfRow
  rw [hname, htype]
  simp only
  split
  · rfl
  · rw [Logged.map_map, Logged.map_map]
    rfl

/-! ## Tables -/

/-- The first two columns of methods and properties, and the first one of constructors, hold no
descriptions. -/
theorem not_describes_of_role {t : Table} {role : TableRole} (h : t.role? = some role) :
    ¬ t.Describes 0 ∧ (role ≠ .constructors → ¬ t.Describes 1) := by
  have hcolumn : ∀ i, t.columns[i]?.map Table.lowered = (t.columns.map Table.lowered)[i]? :=
    fun i => (List.getElem?_map ..).symm
  unfold Table.role? TableRole.ofColumns? at h
  unfold Table.Describes
  rw [hcolumn, hcolumn]
  -- The role is read off the headers, so that in each case all of them are known.
  split at h
  · next hcolumns => rw [hcolumns]; simp
  · split at h
    · next hcolumns => rw [hcolumns]; simp
    · split at h
      · next hcolumns =>
        cases h
        rw [hcolumns]
        simp
      · split at h
        · next hcolumns => rw [hcolumns]; simp
        · cases h

theorem cell_eq {row row' : List String} {i : Nat} (h : row[i]? = row'[i]?) :
    cell row i = cell row' i := by
  rw [cell, cell, List.getD_eq_getElem?_getD, List.getD_eq_getElem?_getD, h]

/-- But for the descriptions of its members, what a table lists does not depend on descriptions. -/
theorem membersOfTable_withoutDoc {s s' : Section} {t t' : Table}
    (hs : s.SameButDescriptions s') (h : t.SameButDescriptions t') :
    (membersOfTable cfg classes s t).map (List.map Member.withoutDoc) =
      (membersOfTable cfg classes s' t').map (List.map Member.withoutDoc) := by
  have hname : s.dottedName = s'.dottedName := by rw [Section.dottedName, hs.path]; rfl
  -- Methods and properties are listed row by row in the same way.
  have hrows : ∀ {f f' : List String → Logged AssemblyFault (Option Member)},
      List.Forall₂ (fun row row' => (f row).map (Option.map Member.withoutDoc) =
        (f' row').map (Option.map Member.withoutDoc)) t.rows t'.rows →
      ((Logged.mapAll f t.rows).map (List.filterMap id)).map (List.map Member.withoutDoc) =
        ((Logged.mapAll f' t'.rows).map (List.filterMap id)).map (List.map Member.withoutDoc) := by
    intro f f' hrows
    have hcomm : (List.map Member.withoutDoc) ∘ (List.filterMap id) =
        (List.filterMap id) ∘ (List.map (Option.map Member.withoutDoc)) := by
      funext found
      simp [List.map_filterMap, List.filterMap_map]
    rw [Logged.map_map, Logged.map_map, hcomm, ← Logged.map_map, ← Logged.map_map,
      Logged.map_mapAll, Logged.map_mapAll, Logged.mapAll_congr hrows]
  unfold membersOfTable
  simp only [← h.columns, ← hs.kind, ← hname]
  cases hrole : TableRole.ofColumns? (t.columns.map Table.lowered) with
  | none => rfl
  | some role =>
      obtain ⟨hfirst, hsecond⟩ := not_describes_of_role hrole
      cases role with
      | methods ofClass =>
          apply hrows
          refine h.rows.imp ?_
          rintro row row' ⟨-, hcells⟩
          exact methodOfRow_withoutDoc (cell_eq (hcells 0 hfirst))
            (cell_eq (hcells 1 (hsecond (by simp))))
      | constructors =>
          have hcells := h.rows.imp fun row row' hrow => cell_eq (hrow.2 0 hfirst)
          have hconstructor :
              (constructorOfRows cfg classes s.dottedName t.rows).map Member.withoutDoc =
                (constructorOfRows cfg classes s.dottedName t'.rows).map Member.withoutDoc :=
            constructorOfRows_withoutDoc hcells
          have hcomm : List.map Member.withoutDoc ∘ (fun m => [m]) =
              (fun m => [m]) ∘ Member.withoutDoc := rfl
          simp only [Logged.map_map, hcomm]
          rw [← Logged.map_map, hconstructor, Logged.map_map]
      | properties =>
          apply hrows
          refine h.rows.imp ?_
          rintro row row' ⟨-, hcells⟩
          exact propertyOfRow_withoutDoc (cell_eq (hcells 0 hfirst))
            (cell_eq (hcells 1 (hsecond (by simp))))

/-! ## Sections -/

/-- Members without descriptions are enough to say what a declaration is without them. -/
theorem Section.make_withoutDocs (s : Section) (parts : List (List Member)) :
    (s.make parts).map (Option.map Declaration.withoutDocs) =
      s.make (parts.map (List.map Member.withoutDoc)) := by
  have hflatten : (parts.map (List.map Member.withoutDoc)).flatten =
      parts.flatten.map Member.withoutDoc := List.map_flatten.symm
  rw [make, make, hflatten, List.isEmpty_map]
  split <;> rfl

/-- But for the descriptions of its members, what a section is made into does not depend on
descriptions. -/
theorem assemble_withoutDocs {s s' : Section} (h : s.SameButDescriptions s') :
    (assemble cfg classes s).map (Option.map Declaration.withoutDocs) =
      (assemble cfg classes s').map (Option.map Declaration.withoutDocs) := by
  have hmake : s.make = s'.make := Section.make_congr h.kind h.path
  have htables : (Logged.mapAll (membersOfTable cfg classes s) s.tables).map
        (List.map (List.map Member.withoutDoc)) =
      (Logged.mapAll (membersOfTable cfg classes s') s'.tables).map
        (List.map (List.map Member.withoutDoc)) := by
    rw [Logged.map_mapAll, Logged.map_mapAll]
    exact Logged.mapAll_congr (h.tables.imp fun t t' ht => membersOfTable_withoutDoc h ht)
  rw [assemble_eq, assemble_eq, Logged.map_andThen, Logged.map_andThen]
  simp only [Section.make_withoutDocs]
  have hchain := congrArg (fun parts => parts.andThen s'.make) htables
  simpa only [Logged.andThen_map, hmake] using hchain

end

/-! ## Pages -/

namespace Assembly

/-- Attaching and merging keep what is documented, whatever constants there are. -/
theorem documented_givenTo {names : List String → List String} {ds : List Declaration}
    (h : ∀ d ∈ ds, ∀ m ∈ d.members, ∀ k ∈ m.kinds, k.isConstant = false)
    (earlier : List (List String)) :
    ((Declaration.giveEach names earlier ds).map Declaration.mergeOverloads).map
        Declaration.documented =
      (ds.map Declaration.withoutDocs).map Declaration.mergeOverloads := by
  induction ds generalizing earlier with
  | nil => rfl
  | cons d ds ih =>
      obtain ⟨hd, hds⟩ := List.forall_mem_cons.1 h
      rw [Declaration.giveEach, List.map_cons, List.map_cons, ih hds,
        Declaration.documented_finished hd, List.map_cons, List.map_cons]

/-- The declarations of a page document what its rows do. -/
theorem documented_ofMade {cfg : Conventions} {sections : List Section}
    {made : List (Option Declaration)} (h : (reading cfg sections).outcome = .ok made) :
    (ofMade sections made).declarations.map Declaration.documented =
      ((made.map (Option.map Declaration.withoutDocs)).filterMap id).map
        Declaration.mergeOverloads := by
  have hrows : ∀ d ∈ made.filterMap id, ∀ m ∈ d.members, ∀ k ∈ m.kinds,
      k.isConstant = false :=
    fun d hd m hm => (listed_of_mem_made h d hd m hm).isConstant_eq_false
  have hcomm : (made.map (Option.map Declaration.withoutDocs)).filterMap id =
      (made.filterMap id).map Declaration.withoutDocs := by
    simp [List.map_filterMap, List.filterMap_map]
  rw [hcomm]
  exact documented_givenTo hrows []

variable {cfg : Conventions} {sections sections' : List Section}

/-- Descriptions are no part of titles. -/
theorem sameTitles (h : List.Forall₂ Section.SameButDescriptions sections sections') :
    List.Forall₂ (fun s s' => s.kind = s'.kind ∧ s.path = s'.path) sections sections' :=
  h.imp fun _ _ hs => ⟨hs.kind, hs.path⟩

variable (cfg) in
/-- Without descriptions the two pages are read alike. -/
theorem reading_withoutDocs (h : List.Forall₂ Section.SameButDescriptions sections sections') :
    (reading cfg sections).map (List.map (Option.map Declaration.withoutDocs)) =
      (reading cfg sections').map (List.map (Option.map Declaration.withoutDocs)) := by
  rw [reading, reading, Logged.map_mapAll, Logged.map_mapAll, ← classPaths_congr (sameTitles h)]
  exact Logged.mapAll_congr (h.imp fun s s' hs => assemble_withoutDocs hs)

variable (cfg) in
/-- **Descriptions decide nothing else.** Two pages that differ in descriptions only are refused for
the same reason, or they have the same classes, drop the same modules, and document the same
members in the same declarations. -/
theorem documented_ofSections
    (h : List.Forall₂ Section.SameButDescriptions sections sections') :
    (∃ cause, (ofSections cfg sections).outcome = .error (.document cause) ∧
      (ofSections cfg sections').outcome = .error (.document cause)) ∨
    ∃ a a', (ofSections cfg sections).outcome = .ok a ∧
      (ofSections cfg sections').outcome = .ok a' ∧
      a.classPaths = a'.classPaths ∧ a.dropped = a'.dropped ∧
      a.declarations.map Declaration.documented = a'.declarations.map Declaration.documented := by
  rcases Logged.outcomes_of_map_eq (reading_withoutDocs cfg h) with
    ⟨e, he, he'⟩ | ⟨made, made', hmade, hmade', hsame⟩
  · obtain ⟨cause, rfl, hcause⟩ := refused_of_reading he
    exact Or.inl ⟨cause, hcause, (outcome_ofSections_eq_error cfg sections').2 he'⟩
  · have hnone : made.map Option.isNone = made'.map Option.isNone := by
      have hmap := congrArg (List.map Option.isNone) hsame
      simpa [Function.comp_def] using hmap
    refine Or.inr ⟨ofMade sections made, ofMade sections' made',
      outcome_ofSections_eq_ok_iff.2 ⟨made, hmade, rfl⟩,
      outcome_ofSections_eq_ok_iff.2 ⟨made', hmade', rfl⟩, classPaths_congr (sameTitles h),
      droppedNames_congr (dottedNames_congr (sameTitles h)) hnone, ?_⟩
    rw [documented_ofMade hmade, documented_ofMade hmade', hsame]

/-- A class with a property whose name is that of a constant, described by a text. -/
def sizeSections (description : String) : List Section :=
  [.classAt "sublime" "View" [⟨["Properties", "Type", "description"], [["SIZE", "", description]]⟩]]

theorem documented_ofSections_size :
    let page := sizeSections "Not sublime.View.SIZE but sublime.View.NEW"
    List.Forall₂ Section.SameButDescriptions page (sizeSections "") ∧
    (ofSections {} page).outcome.toOption.map (fun a => (a.attached, a.mergedAway)) =
      some (2, 1) ∧
    (ofSections {} (sizeSections "")).outcome.toOption.map (fun a => (a.attached, a.mergedAway)) =
      some (0, 0) ∧
    ∃ a a', (ofSections {} page).outcome = .ok a ∧
      (ofSections {} (sizeSections "")).outcome = .ok a' ∧
      a.classPaths = a'.classPaths ∧ a.dropped = a'.dropped ∧
      a.declarations.map Declaration.documented = a'.declarations.map Declaration.documented := by
  intro page
  have hsame : List.Forall₂ Section.SameButDescriptions page (sizeSections "") := by
    refine .cons ⟨rfl, rfl, .cons ⟨rfl, .cons ⟨rfl, ?_⟩ .nil⟩ .nil⟩ .nil
    intro i hi
    match i with
    | 0 | 1 => rfl
    | 2 => exact absurd rfl hi
    | i + 3 => rfl
  refine ⟨hsame, rfl, rfl, ?_⟩
  rcases documented_ofSections {} hsame with ⟨cause, hcause, -⟩ | hsame
  · cases hcause
  · exact hsame

end Assembly

end TypedReference

/-
# When a page cannot be assembled

A page is refused for the text of one of its tables and for nothing else: no registry is used out
of turn, no path is empty where a segment is needed, and no constant is without an owner. Which
tables are at fault is said exactly (`Table.Fatal`).
-/
import TypedReference.Proofs.Assembly.Phases
import TypedReference.Proofs.Registration
import TypedReference.Proofs.Text.Blank

namespace TypedReference

open Text

/-- There is nothing but blanks in a text. -/
def Text.AllBlank (l : List Char) : Prop := ∀ c ∈ l, isBlank c = true

/-- What a table lists, by its headers. -/
def Table.role? (t : Table) : Option TableRole :=
  TableRole.ofColumns? (t.columns.map Table.lowered)

section

variable {cfg : Conventions} {classes : ClassPaths}

variable (cfg classes) in
/-- A table for which the work stops. -/
inductive Table.Fatal (t : Table) : Prop
  /-- A table of constructors is empty. -/
  | noConstructor : t.role? = some .constructors → t.rows = [] → Fatal t
  /-- The first constructor cannot be read, or there is none in its row. -/
  | badConstructor {row : List String} {more : List (List String)} :
      t.role? = some .constructors → t.rows = row :: more →
      (readSignature cfg classes (cell row 0).toList).Fails ∨
        (readSignature cfg classes (cell row 0).toList).outcome = .ok none → Fatal t
  /-- A method cannot be read. -/
  | badMethod {ofClass : Bool} {row : List String} :
      t.role? = some (.methods ofClass) → row ∈ t.rows →
      (readSignature cfg classes (cell row 0).toList).Fails → Fatal t
  /-- The result of a method cannot be read. -/
  | badResult {ofClass : Bool} {row : List String} {sig : Signature} :
      t.role? = some (.methods ofClass) → row ∈ t.rows →
      (readSignature cfg classes (cell row 0).toList).outcome = .ok (some sig) →
      (typeOfText classes (cell row 1).toList).Fails → Fatal t
  /-- The type of a property with a name is there and cannot be read. -/
  | badProperty {row : List String} :
      t.role? = some .properties → row ∈ t.rows → ¬ AllBlank (cell row 0).toList →
      ¬ AllBlank (cell row 1).toList → (typeOfText classes (cell row 1).toList).Fails → Fatal t

/-! ## Rows -/

/-- A method is refused with its signature or, where there is one, with its result. -/
theorem fails_methodOfRow {isStatic : Bool} {row : List String} :
    (methodOfRow cfg classes isStatic row).Fails ↔
      (readSignature cfg classes (cell row 0).toList).Fails ∨
      ∃ sig, (readSignature cfg classes (cell row 0).toList).outcome = .ok (some sig) ∧
        (typeOfText classes (cell row 1).toList).Fails := by
  rw [methodOfRow, Logged.fails_andThen]
  refine or_congr Iff.rfl ?_
  constructor
  · rintro ⟨sig?, hsig, hfails⟩
    cases sig? with
    | none => exact absurd hfails (Logged.not_fails_ok _)
    | some sig => exact ⟨sig, hsig, Logged.fails_map.1 hfails⟩
  · rintro ⟨sig, hsig, hfails⟩
    exact ⟨some sig, hsig, Logged.fails_map.2 hfails⟩

/-- A constructor is refused when its row has no signature. Further rows do not matter. -/
theorem fails_constructorOfRows {owner : String} {row : List String} {more : List (List String)} :
    (constructorOfRows cfg classes owner (row :: more)).Fails ↔
      (readSignature cfg classes (cell row 0).toList).Fails ∨
      (readSignature cfg classes (cell row 0).toList).outcome = .ok none := by
  rw [constructorOfRows, Logged.fails_andThen]
  constructor
  · rintro (⟨e, he⟩ | ⟨-, -, hfails⟩)
    · cases he
    · rcases Logged.fails_andThen.1 hfails with hfails | ⟨sig?, hsig, hfails⟩
      · exact Or.inl hfails
      · cases sig? with
        | none => exact Or.inr hsig
        | some sig => exact absurd hfails (Logged.not_fails_ok _)
  · intro h
    refine Or.inr ⟨(), rfl, Logged.fails_andThen.2 ?_⟩
    rcases h with hfails | hnone
    · exact Or.inl hfails
    · exact Or.inr ⟨none, hnone, Logged.fails_fail _⟩

/-- A property is refused with its type, where both its name and its type are there. -/
theorem fails_propertyOfRow (h : classes.Usable) {row : List String} :
    (propertyOfRow cfg classes row).Fails ↔
      ¬ AllBlank (cell row 0).toList ∧ ¬ AllBlank (cell row 1).toList ∧
      (typeOfText classes (cell row 1).toList).Fails := by
  have hname : (trim (cell row 0).toList).isEmpty = true ↔ AllBlank (cell row 0).toList := by
    rw [List.isEmpty_iff, trim_eq_nil_iff, AllBlank]
  have htype : (condense (cell row 1).toList).isEmpty = true ↔ AllBlank (cell row 1).toList := by
    rw [List.isEmpty_iff, condense_eq_nil_iff, AllBlank]
  unfold propertyOfRow
  simp only
  split
  · next hempty =>
    rw [hname] at hempty
    simp [hempty]
  · next hempty =>
    rw [hname] at hempty
    rw [Logged.fails_map]
    -- Without a type the name decides, and no name is refused.
    split
    · next hblank =>
      rw [htype] at hblank
      simp [hblank, not_fails_resolveName h]
    · next hblank =>
      rw [htype] at hblank
      rw [typeOfText_condense]
      simp [hempty, hblank]

/-- A method is only refused for what stands in its row. -/
theorem faultsIn_methodOfRow (h : classes.Usable) {isStatic : Bool} (row : List String) :
    (methodOfRow cfg classes isStatic row).FaultsIn AssemblyFault.InPage := by
  apply (faultsIn_readSignature h _).andThen
  rintro (_ | sig) _
  · exact Logged.FaultsIn.ok none
  · exact (faultsIn_typeOfText h _).map

/-- A constructor is only refused for what stands in its rows, also when there is none. -/
theorem faultsIn_constructorOfRows (h : classes.Usable) {owner : String}
    (rows : List (List String)) :
    (constructorOfRows cfg classes owner rows).FaultsIn AssemblyFault.InPage := by
  cases rows with
  | nil => exact Logged.FaultsIn.fail ⟨_, rfl⟩
  | cons row more =>
      -- What is reported about further rows is no fault.
      have hreport : ∀ es, (Logged.reportAll es).FaultsIn AssemblyFault.InPage := by
        rintro es e he
        cases he
      apply (hreport _).andThen
      intro _ _
      apply (faultsIn_readSignature h _).andThen
      rintro (_ | sig) _
      · exact Logged.FaultsIn.fail ⟨_, rfl⟩
      · exact Logged.FaultsIn.ok _

/-- A property is only refused for what stands in its row. -/
theorem faultsIn_propertyOfRow (h : classes.Usable) (row : List String) :
    (propertyOfRow cfg classes row).FaultsIn AssemblyFault.InPage := by
  unfold propertyOfRow
  simp only
  split
  · exact Logged.FaultsIn.ok none
  · apply Logged.FaultsIn.map
    split
    · -- The type is read off the name, which is never refused.
      intro e he
      exact absurd ⟨e, he⟩ (not_fails_resolveName h _)
    · exact faultsIn_typeOfText h _

/-! ## Tables -/

/-- A table of methods is fatal when one of its rows is refused. -/
theorem fatal_iff_of_methods {isStatic ofClass : Bool} {t : Table}
    (hrole : t.role? = some (.methods ofClass)) :
    t.Fatal cfg classes ↔ ∃ row ∈ t.rows, (methodOfRow cfg classes isStatic row).Fails := by
  constructor
  · intro hfatal
    cases hfatal with
    | badMethod _ hrow hsig => exact ⟨_, hrow, fails_methodOfRow.2 (Or.inl hsig)⟩
    | badResult _ hrow hsig hresult =>
        exact ⟨_, hrow, fails_methodOfRow.2 (Or.inr ⟨_, hsig, hresult⟩)⟩
    | noConstructor hrole' _ | badConstructor hrole' _ _ | badProperty hrole' _ _ _ _ =>
        rw [hrole] at hrole'
        cases hrole'
  · rintro ⟨row, hrow, hfails⟩
    rcases fails_methodOfRow.1 hfails with hsig | ⟨sig, hsig, hresult⟩
    · exact .badMethod hrole hrow hsig
    · exact .badResult hrole hrow hsig hresult

/-- A table of constructors is fatal when it is empty or its first row is refused. -/
theorem fatal_iff_of_constructors {owner : String} {t : Table}
    (hrole : t.role? = some .constructors) :
    t.Fatal cfg classes ↔ (constructorOfRows cfg classes owner t.rows).Fails := by
  constructor
  · intro hfatal
    cases hfatal with
    | noConstructor _ hrows =>
        rw [hrows]
        exact Logged.fails_fail _
    | badConstructor _ hrows hsig =>
        rw [hrows]
        exact fails_constructorOfRows.2 hsig
    | badMethod hrole' _ _ | badResult hrole' _ _ _ | badProperty hrole' _ _ _ _ =>
        rw [hrole] at hrole'
        cases hrole'
  · intro hfails
    cases hrows : t.rows with
    | nil => exact .noConstructor hrole hrows
    | cons row more =>
        rw [hrows] at hfails
        exact .badConstructor hrole hrows (fails_constructorOfRows.1 hfails)

/-- A table of properties is fatal when one of its rows is refused. -/
theorem fatal_iff_of_properties (h : classes.Usable) {t : Table}
    (hrole : t.role? = some .properties) :
    t.Fatal cfg classes ↔ ∃ row ∈ t.rows, (propertyOfRow cfg classes row).Fails := by
  constructor
  · intro hfatal
    cases hfatal with
    | badProperty _ hrow hname htype hfails =>
        exact ⟨_, hrow, (fails_propertyOfRow h).2 ⟨hname, htype, hfails⟩⟩
    | noConstructor hrole' _ | badConstructor hrole' _ _ | badMethod hrole' _ _
    | badResult hrole' _ _ _ =>
        rw [hrole] at hrole'
        cases hrole'
  · rintro ⟨row, hrow, hfails⟩
    obtain ⟨hname, htype, hfails⟩ := (fails_propertyOfRow h).1 hfails
    exact .badProperty hrole hrow hname htype hfails

/-- A table with other headers is never fatal. -/
theorem not_fatal_of_other {t : Table} (hrole : t.role? = none) : ¬ t.Fatal cfg classes := by
  intro hfatal
  cases hfatal with
  | noConstructor hrole' _ | badConstructor hrole' _ _ | badMethod hrole' _ _
  | badResult hrole' _ _ _ | badProperty hrole' _ _ _ _ =>
      rw [hrole] at hrole'
      cases hrole'

/-- A table is refused exactly when it is fatal. -/
theorem fails_membersOfTable (h : classes.Usable) {s : Section} {t : Table} :
    (membersOfTable cfg classes s t).Fails ↔ t.Fatal cfg classes := by
  unfold membersOfTable
  simp only
  split
  · next hrole => rw [Logged.fails_map, Logged.fails_mapAll, fatal_iff_of_methods hrole]
  · next hrole => rw [Logged.fails_map, fatal_iff_of_constructors hrole]
  · next hrole => rw [Logged.fails_map, Logged.fails_mapAll, fatal_iff_of_properties h hrole]
  · next hrole =>
    refine iff_of_false ?_ (not_fatal_of_other hrole)
    rintro ⟨e, he⟩
    cases he

/-- A table is only refused for what stands in it. -/
theorem faultsIn_membersOfTable (h : classes.Usable) (s : Section) (t : Table) :
    (membersOfTable cfg classes s t).FaultsIn AssemblyFault.InPage := by
  unfold membersOfTable
  simp only
  split
  · exact (Logged.FaultsIn.mapAll fun row _ => faultsIn_methodOfRow h row).map
  · exact (faultsIn_constructorOfRows h t.rows).map
  · exact (Logged.FaultsIn.mapAll fun row _ => faultsIn_propertyOfRow h row).map
  · intro e he
    cases he

/-! ## Pages -/

/-- A section is refused when one of its tables is fatal. -/
theorem fails_assemble (h : classes.Usable) {s : Section} :
    (assemble cfg classes s).Fails ↔ ∃ t ∈ s.tables, t.Fatal cfg classes := by
  rw [assemble, Logged.fails_andThen, Logged.fails_mapAll]
  simp only [fails_membersOfTable h]
  -- Once the tables are read, a section is dropped or made into a declaration.
  refine or_iff_left ?_
  rintro ⟨parts, -, e, he⟩
  split at he <;> cases he

/-- A section is only refused for what stands in its tables. -/
theorem faultsIn_assemble (h : classes.Usable) (s : Section) :
    (assemble cfg classes s).FaultsIn AssemblyFault.InPage := by
  rw [assemble]
  apply (Logged.FaultsIn.mapAll fun t _ => faultsIn_membersOfTable h s t).andThen
  intro parts _ e he
  simp only at he
  split at he <;> cases he

end

namespace Assembly

variable (cfg : Conventions) (sections : List Section)

/-- After the sections are read, nothing stops the work. -/
theorem outcome_ofSections_eq_error {e : AssemblyFault} :
    (ofSections cfg sections).outcome = .error e ↔
      (Logged.mapAll (assemble cfg (ClassPaths.ofSections sections)) sections).outcome =
        .error e := by
  rw [ofSections, Logged.outcome_andThen_of_ok rfl]
  cases hmade : (Logged.mapAll (assemble cfg (ClassPaths.ofSections sections)) sections).outcome with
  | error e' =>
      rw [Logged.outcome_andThen_of_error hmade, Except.error.injEq, Except.error.injEq]
  | ok made =>
      -- The constants have owners, so attaching them does not fail either.
      obtain ⟨⟨ds, attached⟩, hds⟩ :=
        Logged.not_fails_iff.1 (not_fails_attachConstants (made.filterMap id) sections)
      rw [Logged.outcome_andThen_of_ok hmade, Logged.outcome_andThen_of_ok hds]
      constructor <;> (intro he; cases he)

/-- **When a page is refused.** Registration always succeeds. The assembly has a result or ends with
a fault of the page, and it ends with a fault exactly when some table is fatal. -/
theorem outcome_ofSections :
    ClassPaths.registerAll ((sections.filter fun s => s.kind = .class).map Section.path) =
        .ok (ClassPaths.ofSections sections) ∧
      ConstantPaths.registerAll
          (sections.flatMap fun s => s.tables.flatMap ConstantPaths.ofTable) =
        .ok (ConstantPaths.ofSections sections) ∧
      ((∃ a, (ofSections cfg sections).outcome = .ok a) ∨
        ∃ cause, (ofSections cfg sections).outcome = .error (.document cause)) ∧
      ((∃ cause, (ofSections cfg sections).outcome = .error (.document cause)) ↔
        ∃ s ∈ sections, ∃ t ∈ s.tables, t.Fatal cfg (ClassPaths.ofSections sections)) := by
  have husable := ClassPaths.usable_ofSections sections
  -- Whatever ends the work has been met in a section.
  have hpage : ∀ e, (ofSections cfg sections).outcome = .error e → ∃ cause, e = .document cause := by
    intro e he
    rw [outcome_ofSections_eq_error] at he
    exact Logged.FaultsIn.mapAll (fun s _ => faultsIn_assemble husable s) e he
  refine ⟨ClassPaths.registerAll_eq _, ConstantPaths.registerAll_eq _, ?_, ?_⟩
  · cases houtcome : (ofSections cfg sections).outcome with
    | ok a => exact Or.inl ⟨a, rfl⟩
    | error e =>
        obtain ⟨cause, rfl⟩ := hpage e houtcome
        exact Or.inr ⟨cause, rfl⟩
  · simp only [← fails_assemble husable]
    rw [← Logged.fails_mapAll]
    constructor
    · rintro ⟨cause, hcause⟩
      exact ⟨_, (outcome_ofSections_eq_error cfg sections).1 hcause⟩
    · rintro ⟨e, he⟩
      have he' := (outcome_ofSections_eq_error cfg sections).2 he
      obtain ⟨cause, rfl⟩ := hpage e he'
      exact ⟨cause, he'⟩

end Assembly

end TypedReference

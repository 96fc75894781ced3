/-
# Rows and tables

The rows of a section may stand in one table or in several ones with the same columns. Members are
listed row by row and constants are found description by description, so it makes no difference
where one table ends and the next one begins, except among constructors: there the first row of
every table counts.
-/
import TypedReference.Proofs.Assembly.Result

namespace TypedReference

/-! ## Tables -/

/-- Some tables, and the same tables with the rows of some of them spread over two. A table of
constructors is not touched. -/
inductive Table.Spread : List Table → List Table → Prop
  /-- There are no tables. -/
  | nil : Spread [] []
  /-- A table is kept as it is. -/
  | keep (t : Table) {ts ts' : List Table} : Spread ts ts' → Spread (t :: ts) (t :: ts')
  /-- The rows of a table are given to two tables with its columns. -/
  | split {columns : List String} (rows rows' : List (List String)) {ts ts' : List Table} :
      columns.map Table.lowered ≠ ["constructors", "description"] → Spread ts ts' →
      Spread (⟨columns, rows ++ rows'⟩ :: ts) (⟨columns, rows⟩ :: ⟨columns, rows'⟩ :: ts')

/-- Two sections that differ in how rows are spread over tables. -/
structure Section.SpreadOver (s s' : Section) : Prop where
  /-- The kinds agree. -/
  kind : s.kind = s'.kind
  /-- The paths agree. -/
  path : s.path = s'.path
  /-- The tables of the second one have the rows of the first one. -/
  tables : Table.Spread s.tables s'.tables

/-- A table has columns that mean nothing. -/
def Event.isUnknownColumns : Event → Bool
  | unknownColumns .. => true
  | _ => false

/-! ## Constants -/

/-- The constants of two tables with the same columns are those of one table with their rows. -/
theorem ConstantPaths.ofTable_append (columns : List String) (rows rows' : List (List String)) :
    ofTable ⟨columns, rows ++ rows'⟩ = ofTable ⟨columns, rows⟩ ++ ofTable ⟨columns, rows'⟩ := by
  unfold ofTable Table.columnValues Table.columnIndex?
  dsimp only
  cases columns.idxOf? (Table.lowered "description") with
  | none => rfl
  | some i => simp only [List.filterMap_append, List.flatMap_append]

/-- Constants are found in the same order however rows are spread. -/
theorem Table.Spread.flatMap_ofTable {ts ts' : List Table} (h : Table.Spread ts ts') :
    ts.flatMap ConstantPaths.ofTable = ts'.flatMap ConstantPaths.ofTable := by
  induction h with
  | nil => rfl
  | keep t _ ih => rw [List.flatMap_cons, List.flatMap_cons, ih]
  | split rows rows' _ _ ih =>
      rw [List.flatMap_cons, List.flatMap_cons, List.flatMap_cons, ih,
        ConstantPaths.ofTable_append, List.append_assoc]

section

variable {cfg : Conventions} {classes : ClassPaths}

/-! ## Members -/

/-- Constructors are listed under one header only. -/
theorem TableRole.eq_of_ofColumns?_eq_constructors {columns : List String}
    (h : ofColumns? columns = some .constructors) : columns = ["constructors", "description"] := by
  unfold ofColumns? at h
  split at h
  · cases h
  · split at h
    · cases h
    · split at h
      · next hcolumns => exact hcolumns
      · split at h <;> cases h

/-- Rows that are read one by one, first some and then others. -/
theorem rows_append {f : List String → Logged AssemblyFault (Option Member)}
    (rows rows' : List (List String)) :
    (Logged.mapAll f (rows ++ rows')).map (List.filterMap id) =
      ((Logged.mapAll f rows).map (List.filterMap id)).andThen fun ms =>
        ((Logged.mapAll f rows').map (List.filterMap id)).map (ms ++ ·) := by
  rw [Logged.mapAll_append, Logged.map_andThen, Logged.andThen_map]
  congr 1
  funext ms
  rw [Logged.map_map, Logged.map_map]
  congr 1
  funext ms'
  exact List.filterMap_append

variable (cfg classes) in
/-- Two tables with the same columns list what one table with their rows lists. Unknown columns are
reported twice. -/
theorem membersOfTable_append (s : Section) {columns : List String}
    (hne : columns.map Table.lowered ≠ ["constructors", "description"])
    (rows rows' : List (List String)) :
    Logged.Alike (fun e => !e.isUnknownColumns)
      (membersOfTable cfg classes s ⟨columns, rows ++ rows'⟩)
      ((membersOfTable cfg classes s ⟨columns, rows⟩).andThen fun ms =>
        (membersOfTable cfg classes s ⟨columns, rows'⟩).map (ms ++ ·)) := by
  unfold membersOfTable
  dsimp only
  cases hrole : TableRole.ofColumns? (columns.map Table.lowered) with
  | none =>
      -- Each of the two tables has its warning, and neither one counts.
      exact ⟨rfl, rfl⟩
  | some role =>
      cases role with
      | constructors =>
          exact absurd (TableRole.eq_of_ofColumns?_eq_constructors hrole) hne
      | methods ofClass | properties =>
          dsimp only
          rw [rows_append]
          exact .refl _

variable (cfg classes) in
/-- However rows are spread over tables, the tables list the same members. -/
theorem Table.Spread.members (s : Section) {ts ts' : List Table} (h : Table.Spread ts ts') :
    Logged.Alike (fun e => !e.isUnknownColumns)
      (Logged.collectAll (membersOfTable cfg classes s) ts)
      (Logged.collectAll (membersOfTable cfg classes s) ts') := by
  induction h with
  | nil => exact .refl _
  | keep t _ ih =>
      rw [Logged.collectAll_cons, Logged.collectAll_cons]
      exact (Logged.Alike.refl _).andThen fun ms => ih.map _
  | @split columns rows rows' ts ts' hne _ ih =>
      have hborder : Logged.collectAll (membersOfTable cfg classes s)
            (⟨columns, rows⟩ :: ⟨columns, rows'⟩ :: ts') =
          ((membersOfTable cfg classes s ⟨columns, rows⟩).andThen fun ms =>
            (membersOfTable cfg classes s ⟨columns, rows'⟩).map (ms ++ ·)).andThen fun ms =>
              (Logged.collectAll (membersOfTable cfg classes s) ts').map (ms ++ ·) := by
        rw [Logged.collectAll_cons, Logged.collectAll_cons, Logged.andThen_assoc]
        congr 1
        funext ms
        rw [Logged.map_andThen, Logged.andThen_map]
        congr 1
        funext ms'
        rw [Logged.map_map]
        congr 1
        funext rest
        exact (List.append_assoc ms ms' rest).symm
      rw [Logged.collectAll_cons, hborder]
      exact (membersOfTable_append cfg classes s hne rows rows').andThen fun ms => ih.map _

/-- A section is made into what its tables list together. -/
theorem assemble_eq_collectAll (s : Section) : assemble cfg classes s =
    (Logged.collectAll (membersOfTable cfg classes s) s.tables).andThen fun ms => s.make [ms] := by
  rw [assemble_eq, Logged.collectAll, Logged.andThen_map]
  congr 1
  funext parts
  rw [Section.make, Section.make, List.flatten_singleton]

/-- Where rows are spread otherwise, the same declaration is made. -/
theorem assemble_spread {s s' : Section} (h : s.SpreadOver s') :
    Logged.Alike (fun e => !e.isUnknownColumns) (assemble cfg classes s)
      (assemble cfg classes s') := by
  have htable : membersOfTable cfg classes s' = membersOfTable cfg classes s := by
    funext t
    simp only [membersOfTable, Section.dottedName, h.kind, h.path]
  rw [assemble_eq_collectAll, assemble_eq_collectAll, htable, ← Section.make_congr h.kind h.path]
  exact (h.tables.members cfg classes s).andThen fun ms => .refl _

end

/-! ## Pages -/

namespace Assembly

variable {sections sections' : List Section}

/-- The same constants are registered, in the same order. -/
theorem constants_spread (h : List.Forall₂ Section.SpreadOver sections sections') :
    ConstantPaths.ofSections sections = ConstantPaths.ofSections sections' := by
  unfold ConstantPaths.ofSections
  congr 1
  induction h with
  | nil => rfl
  | cons hs _ ih => rw [List.flatMap_cons, List.flatMap_cons, ih, hs.tables.flatMap_ofTable]

/-- **Where a table ends does not matter.** A page on which rows are spread over more tables with
the same columns, constructors apart, comes to the same: it is refused for the same reason, or the
same declarations, classes, constants, counts and dropped modules come of it. Warnings about unknown
columns, one for each table, are the only reports that can differ. -/
theorem ofSections_spread (cfg : Conventions)
    (h : List.Forall₂ Section.SpreadOver sections sections') :
    (ofSections cfg sections).outcome = (ofSections cfg sections').outcome ∧
      (ofSections cfg sections).events.filter (fun e => !e.isUnknownColumns) =
        (ofSections cfg sections').events.filter (fun e => !e.isUnknownColumns) := by
  have htitles : List.Forall₂ (fun s s' => s.kind = s'.kind ∧ s.path = s'.path)
      sections sections' := h.imp fun _ _ hs => ⟨hs.kind, hs.path⟩
  suffices halike : Logged.Alike (fun e => !e.isUnknownColumns) (ofSections cfg sections)
      (ofSections cfg sections') from ⟨halike.outcome, halike.events⟩
  unfold ofSections
  rw [classPaths_congr htitles, constants_spread h]
  refine (Logged.Alike.refl _).andThen fun _ => ?_
  refine (Logged.Alike.mapAll (h.imp fun s s' => assemble_spread)).andThen fun made => ?_
  rw [droppedNames_congr (dottedNames_congr htitles) rfl]
  exact .refl _

/-- A class whose tables are given, and a module with one table that is not understood. -/
def sizePage (tables notes : List Table) : List Section :=
  [.classAt "sublime" "View" tables, .moduleAt "sublime" notes]

/-- Two properties of one name, in one table, and two notes in another one. -/
def onePage : List Section :=
  sizePage [⟨["Properties", "Type", "description"],
      [["size", "", "Up to sublime.View.SIZE"], ["size", "", ""]]⟩]
    [⟨["Notes"], [["None."], ["Not yet."]]⟩]

/-- The same rows in four tables. -/
def spreadPage : List Section :=
  sizePage [⟨["Properties", "Type", "description"], [["size", "", "Up to sublime.View.SIZE"]]⟩,
      ⟨["Properties", "Type", "description"], [["size", "", ""]]⟩]
    [⟨["Notes"], [["None."]]⟩, ⟨["Notes"], [["Not yet."]]⟩]

theorem ofSections_spread_sizes :
    List.Forall₂ Section.SpreadOver onePage spreadPage ∧
      (ofSections {} onePage).outcome.toOption.map
          (fun a => (a.constants.entries, a.attached, a.mergedAway, a.dropped)) =
        some (["sublime.View.SIZE"], 1, 1, ["sublime"]) ∧
      (ofSections {} onePage).outcome = (ofSections {} spreadPage).outcome ∧
      (ofSections {} onePage).events.filter (fun e => !e.isUnknownColumns) =
        (ofSections {} spreadPage).events.filter (fun e => !e.isUnknownColumns) := by
  have hspread : List.Forall₂ Section.SpreadOver onePage spreadPage :=
    .cons ⟨rfl, rfl, .split [_] [_] (by decide) .nil⟩
      (.cons ⟨rfl, rfl, .split [_] [_] (by decide) .nil⟩ .nil)
  exact ⟨hspread, rfl, ofSections_spread {} hspread⟩

end Assembly

end TypedReference

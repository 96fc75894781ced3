/-
# The files of a page

On a page whose paths are made of names, two declarations are written into the same file exactly
when they have the same path. No page is refused for that: a class and a module can name the same
declaration, and so can two sections with one title, and then the later one is written over the
earlier.
-/
import TypedReference.Proofs.Assembly.Phases
import TypedReference.Proofs.Emission

namespace TypedReference

open Files Text

/-! ## Names of a page -/

/-- The path of a section is made of names. -/
def Section.IsNamed (s : Section) : Prop := ∀ segment ∈ s.path, isName segment.toList = true

/-- The path of the declaration that a section is made into. -/
def Section.declarationPath (s : Section) : List String := s.identity.1 ++ [s.identity.2]

/-- A module is capitalized, and its name stays a name. -/
theorem Section.IsNamed.declarationPath {s : Section} (h : s.IsNamed) :
    ∀ segment ∈ s.declarationPath, isName segment.toList = true := by
  rw [Section.declarationPath, identity]
  cases hkind : s.kind with
  | «class» =>
      have hpath : s.path.dropLast ++ [s.lastSegment] = s.path :=
        List.dropLast_append_getLast s.path_ne_nil
      rw [hpath]
      exact h
  | module =>
      intro segment hsegment
      rcases List.mem_append.1 hsegment with hmem | hlast
      · exact h segment hmem
      · rw [List.mem_singleton.1 hlast, String.toList_ofList]
        exact isName_capitalized (h _ (List.getLast_mem s.path_ne_nil))

namespace Assembly

variable {cfg : Conventions} {sections : List Section} {a : Assembly}

/-- What sections are made into has the paths of those that are kept, in order. -/
theorem sublist_of_assemble {classes : ClassPaths} {made : List (Option Declaration)}
    (h : List.Forall₂ (fun s d? => (assemble cfg classes s).outcome = .ok d?) sections made) :
    ((made.filterMap id).map Declaration.path).Sublist
      (sections.map Section.declarationPath) := by
  induction h with
  | nil => exact List.Sublist.refl _
  | @cons s d? sections made hs _ ih =>
      cases d? with
      | none => exact ih.cons _
      | some d =>
          obtain ⟨hpackage, hname, -⟩ := assemble_eq_ok_some hs
          have hpath : d.path = s.declarationPath := by
            rw [Declaration.path, hpackage, hname, Section.declarationPath]
          rw [List.filterMap_cons_some (rfl : id (some d) = some d), List.map_cons, List.map_cons,
            hpath]
          exact ih.cons_cons _

/-- The paths of the declarations are those of sections, in order. -/
theorem sublist_paths (h : (ofSections cfg sections).outcome = .ok a) :
    (a.declarations.map Declaration.path).Sublist (sections.map Section.declarationPath) := by
  obtain ⟨made, hmade, hfinishes⟩ := forall₂_finishes_ofSections h
  have hpaths : (made.filterMap id).map Declaration.path =
      a.declarations.map Declaration.path := by
    rw [← List.forall₂_eq_eq_eq, List.forall₂_map_left_iff, List.forall₂_map_right_iff]
    exact hfinishes.imp fun d d' hd => hd.path.symm
  rw [← hpaths]
  exact sublist_of_assemble (Logged.outcome_mapAll_eq_ok_iff.1 hmade)

/-- Sections with paths of names are made into declarations with paths of names. -/
theorem isNamed_of_mem (hnamed : ∀ s ∈ sections, s.IsNamed)
    (h : (ofSections cfg sections).outcome = .ok a) : ∀ d ∈ a.declarations, d.IsNamed := by
  intro d hd
  obtain ⟨s, hs, hpath⟩ := List.mem_map.1 ((sublist_paths h).subset (List.mem_map_of_mem hd))
  rw [Declaration.IsNamed, ← hpath]
  exact (hnamed s hs).declarationPath

/-- **One file for each path.** On a page whose paths are made of names, the files of the
declarations are distinct exactly when their paths are, and they are when no two sections have one
identity. Whatever is emitted, the last declaration of each path can be read back from its file; if
the paths are distinct, every declaration can, and the files lie at as many places as there are
declarations. -/
theorem files_ofSections (hnamed : ∀ s ∈ sections, s.IsNamed)
    (h : (ofSections cfg sections).outcome = .ok a) :
    (∀ root, (a.declarations.map (Declaration.filePath root)).Nodup ↔
      (a.declarations.map Declaration.path).Nodup) ∧
    ((sections.map Section.declarationPath).Nodup →
      (a.declarations.map Declaration.path).Nodup) ∧
    ∀ o t written, (emit o a.declarations t).outcome = .ok written →
      written = a.declarations.map (Declaration.filePath o.rootPath) ∧
      (∀ before d after, a.declarations = before ++ d :: after →
        d.path ∉ after.map Declaration.path → d.IsReadIn o (emit o a.declarations t).tree) ∧
      ((a.declarations.map Declaration.path).Nodup →
        (∀ d ∈ a.declarations, d.IsReadIn o (emit o a.declarations t).tree) ∧
        ∃ places : List Place, places.Nodup ∧
          List.Forall₂ (fun path place => (emit o a.declarations t).tree.place path = .ok place)
            written places) := by
  have hnames := isNamed_of_mem hnamed h
  refine ⟨fun root => ?_, (sublist_paths h).nodup, ?_⟩
  · exact nodup_map_iff fun d hd d' hd' =>
      Declaration.filePath_inj (hnames d hd) (hnames d' hd') root
  · intro o t written hwritten
    obtain ⟨rfl, hemitted⟩ := emit_eq_ok hwritten
    refine ⟨rfl, ?_, ?_⟩
    · exact fun before d after hsplit hpath => (hemitted.of_last hnames hsplit hpath).2
    · intro hnodup
      have hgoals : (a.declarations.map (Declaration.fileGoal o)).Nodup :=
        (nodup_map_iff fun d hd d' hd' =>
          Declaration.fileGoal_inj (hnames d hd) (hnames d' hd') o).2 hnodup
      refine ⟨fun d hd => (hemitted.of_nodup hnames hnodup d hd).2, _, hgoals, ?_⟩
      rw [List.forall₂_map_left_iff, List.forall₂_map_right_iff, List.forall₂_same]
      exact fun d hd => (hemitted.of_nodup hnames hnodup d hd).1

/-- Two classes of one package. -/
def classPage : List Section := [.classAt "sublime" "View" [], .classAt "sublime" "Window" []]

/-- Declarations are written without being checked. -/
def unchecked : OutputOptions := { validate := false }

theorem files_ofSections_classPage : (∀ s ∈ classPage, s.IsNamed) ∧
    ∃ a d d', (ofSections {} classPage).outcome = .ok a ∧ a.declarations = [d, d'] ∧
      (a.declarations.map Declaration.path).Nodup ∧
      ∃ written places, (emit unchecked a.declarations .empty).outcome = .ok written ∧
        written.map Path.text = ["externs/sublime/View.json", "externs/sublime/Window.json"] ∧
        written.Nodup ∧ places.Nodup ∧
        List.Forall₂ (fun path place =>
          (emit unchecked a.declarations .empty).tree.place path = .ok place) written places ∧
        d.IsReadIn unchecked (emit unchecked a.declarations .empty).tree ∧
        d'.IsReadIn unchecked (emit unchecked a.declarations .empty).tree := by
  have hnamed : ∀ s ∈ classPage, s.IsNamed := by
    simp only [Section.IsNamed]
    decide
  obtain ⟨hfiles, hpaths, hemit⟩ :=
    files_ofSections hnamed (rfl : (ofSections {} classPage).outcome = .ok _)
  obtain ⟨hwritten, hlast, hall⟩ := hemit unchecked .empty _ rfl
  have hnodup := hpaths (by decide)
  obtain ⟨hread, places, hplaces, hlead⟩ := hall hnodup
  exact ⟨hnamed, _, _, _, rfl, rfl, hnodup, _, places, rfl, rfl, (hfiles _).2 hnodup, hplaces,
    hlead, hread _ (by simp), hlast [_] _ [] rfl (by simp)⟩

/-- A class and a module that name the same declaration. -/
def pluginPage : List Section :=
  [.classAt "plugin" "Plugin" [], .moduleAt "plugin"
    [⟨["properties", "type", "description"], [["version", "", "The version."]]⟩]]

/-- The class and the module are written into one file: two paths are given, and one file is
left. -/
theorem not_nodup_files_pluginPage : (∀ s ∈ pluginPage, s.IsNamed) ∧
    ∃ a, (ofSections {} pluginPage).outcome = .ok a ∧
      ¬ (a.declarations.map (Declaration.filePath (Path.ofText "externs"))).Nodup ∧
      (emit {} a.declarations .empty).outcome.toOption.map List.length = some 2 ∧
      (emit {} a.declarations .empty).tree.files.map Prod.fst =
        ["externs/plugin/Plugin.json"] := by
  refine ⟨?_, _, rfl, by decide, by decide +kernel, by decide +kernel⟩
  simp only [Section.IsNamed]
  decide

end Assembly

end TypedReference

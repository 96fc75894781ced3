/-
# Files below the directory of all packages

Titles are read as paths of names, so whatever a page is made into stays below the directory of all
packages: each segment of a package is a directory of its own, and the name is that of a file. Since
no name has a dot in it, a file never stands where a directory is needed, and an emission that
checks nothing comes to its end, if the directory of all packages can be made and is empty then.
-/
import TypedReference.Generation
import TypedReference.Proofs.Assembly.Files
import TypedReference.Proofs.Completion
import TypedReference.Proofs.Logged

namespace TypedReference

open Files Text

/-! ## Titles -/

namespace Page

/-- The segments of a title are names. -/
theorem Title.isName_of_mem {l : List Char} {title : Title} (h : Title.ofText? l = some title) :
    ∀ segment ∈ title.path, isName segment.toList = true := by
  rw [Title.ofText?] at h
  split at h
  · next name word _ =>
    split at h
    · cases h
    · split at h
      · next hnames =>
        cases h
        intro segment hsegment
        obtain ⟨part, hpart, rfl⟩ := List.mem_map.1 hsegment
        rw [String.toList_ofList]
        exact List.all_eq_true.1 hnames part hpart
      · cases h
  · cases h

/-- The sections of a page have paths of names. -/
theorem isNamed_of_mem_sections {cfg : Conventions} {tree : List Markup.Node} {s : Section}
    (h : s ∈ sections cfg tree) : s.IsNamed := by
  obtain ⟨reading, hreading, hmade⟩ := List.mem_filterMap.1 h
  obtain ⟨⟨title, following⟩, -, rfl⟩ := List.mem_map.1 hreading
  unfold readSection at hmade
  simp only at hmade
  split at hmade
  · cases hmade
  · next kind path path_ne_nil htitle =>
    cases hmade
    exact Title.isName_of_mem htitle

end Page

/-! ## Assemblies -/

namespace Assembly

variable {cfg : Conventions} {a : Assembly}

/-- No declaration has two members of one name. -/
theorem sharing?_eq_none_of_mem {sections : List Section}
    (h : (ofSections cfg sections).outcome = .ok a) : ∀ d ∈ a.declarations, d.sharing? = none := by
  intro d hd
  obtain ⟨s, -, base, -, hfinishes⟩ := exists_section_of_mem h hd
  exact Declaration.sharing?_eq_none.2 hfinishes.nodup_memberNames

/-- A page is made into what the sections of its tree are made into. -/
theorem outcome_ofText_eq_ok_iff {text : String} : (ofText cfg text).outcome = .ok a ↔
    ∃ tree, Markup.treeOfPage text = .ok tree ∧
      (ofSections cfg (Page.sections cfg tree)).outcome = .ok a := by
  unfold ofText sectionsOfText
  cases Markup.treeOfPage text with
  | error fault => simp [Logged.andThen, Logged.fail]
  | ok tree =>
      rw [Logged.outcome_andThen_of_ok rfl, Logged.outcome_andThen_of_ok (Logged.outcome_report _),
        Logged.widen]
      cases hmade : (ofSections cfg (Page.sections cfg tree)).outcome with
      | error fault => simp [hmade, Except.mapError]
      | ok a' => simp [hmade, Except.mapError]

/-- The files of the declarations lie below the directory of all packages, whatever that is, and
none is in the way of another. -/
structure Contained (a : Assembly) : Prop where
  /-- Packages and names are made of names: they start with an ASCII letter or an underscore and
  hold word characters only. -/
  names : ∀ d ∈ a.declarations, ∀ segment ∈ d.package ++ [d.name],
    isName segment.toList = true ∧ segment ≠ "" ∧ '.' ∉ segment.toList ∧ '/' ∉ segment.toList
  /-- Each segment of the package is a directory, and the name is that of the file. -/
  path : ∀ d ∈ a.declarations, ∀ root : Files.Path,
    d.filePath root = root.below (d.package ++ [d.name ++ ".json"])
  /-- The files lie below the directory of all packages. -/
  place : ∀ d ∈ a.declarations, ∀ root : Files.Path,
    (d.filePath root).goal = root.goal.below (d.package ++ [d.name ++ ".json"])
  /-- No path that is needed as a directory is that of a file. -/
  apart : ∀ d ∈ a.declarations, ∀ d' ∈ a.declarations, ∀ (root : Files.Path) (parts : List String),
    parts <+: (d.filePath root).parent.parts → Files.Path.mk root.anchor parts ≠ d'.filePath root
  /-- No place below the directory of all packages is needed both for a directory and a file. -/
  placesApart : ∀ d ∈ a.declarations, ∀ d' ∈ a.declarations,
    ∀ (root : Files.Path) (inner : List String), inner <+: d.package →
      root.goal.below inner ≠ (d'.filePath root).goal
  /-- An emission that checks nothing comes to its end, where the paths can be paths, if the
  directory of all packages is empty or can be made and is empty then. -/
  emitted : ∀ (o : OutputOptions) (t : FileTree), o.validate = false → t.Vacant o.rootPath →
    (∀ d ∈ a.declarations, (d.filePath o.rootPath).IsAccepted) →
    (emit o a.declarations t).outcome = .ok (a.declarations.map (Declaration.filePath o.rootPath))

/-- **Files stay below their directory.** Whatever a page is made into lies in files below the
directory of all packages, one directory for each segment of a package, and none of them is in the
way of another. -/
theorem contained_ofTree {tree : List Markup.Node}
    (h : (ofSections cfg (Page.sections cfg tree)).outcome = .ok a) :
    a.Contained ∧ ∀ text, Markup.treeOfPage text = .ok tree →
      (ofText cfg text).outcome = .ok a := by
  have hnamed : ∀ d ∈ a.declarations, d.IsNamed :=
    isNamed_of_mem (fun s hs => Page.isNamed_of_mem_sections hs) h
  refine ⟨⟨?names, ?path, ?place, ?apart, ?placesApart, ?emitted⟩,
    fun text htext => outcome_ofText_eq_ok_iff.2 ⟨tree, htext, h⟩⟩
  case names =>
    intro d hd segment hsegment
    have hname : isName segment.toList = true := hnamed d hd segment hsegment
    refine ⟨hname, ?_, not_mem_of_isName hname (by decide), not_mem_of_isName hname (by decide)⟩
    rintro rfl
    exact absurd hname (by decide)
  case path => exact fun d hd root => (hnamed d hd).filePath_eq root
  case place => exact fun d hd root => (hnamed d hd).goal_filePath root
  case apart =>
    intro d hd d' hd' root parts hparts hsame
    rw [(hnamed d hd).parent_parts_filePath] at hparts
    rw [(hnamed d' hd').filePath_eq, Files.Path.mk.injEq, eq_self, true_and] at hsame
    rw [hsame, List.prefix_append_right_inj] at hparts
    exact (hnamed d hd).not_fileParts_in_package d' hparts
  case placesApart =>
    intro d hd d' hd' root inner hinner hsame
    have hgoal : (d'.filePath root).goal = root.goal.below d'.fileParts :=
      (hnamed d' hd').goal_filePath root
    rw [hgoal, Place.below_inj] at hsame
    exact (hnamed d hd).not_fileParts_in_package d' (hsame ▸ hinner)
  case emitted =>
    intro o t hvalidate hvacant haccepted
    have hds : ∀ d ∈ a.declarations,
        d.rejection? o = none ∧ d.IsNamed ∧ (d.filePath o.rootPath).IsAccepted := by
      intro d hd
      refine ⟨?_, hnamed d hd, haccepted d hd⟩
      rw [Declaration.rejection?, sharing?_eq_none_of_mem h d hd, hvalidate]
      rfl
    rw [(emit_eq_emitEach o a.declarations t).1]
    exact (emitEach_of_clear (Clear.of_vacant hvacant) hds).1

/-- The tree of a page with a class and a class inside it. -/
def nestedPage : List Markup.Node :=
  [.element "h2" [.text none "plugin.Plugin Class".toList],
    .element "h2" [.text none "plugin.Plugin.Inner Class".toList]]

theorem contained_ofTree_nestedPage : ∃ a,
    (ofSections {} (Page.sections {} nestedPage)).outcome = .ok a ∧ a.Contained ∧
    unchecked.validate = false ∧ FileTree.empty.Vacant unchecked.rootPath ∧
    (∀ d ∈ a.declarations, (d.filePath unchecked.rootPath).IsAccepted) ∧
    (emit unchecked a.declarations .empty).outcome =
      .ok (a.declarations.map (Declaration.filePath unchecked.rootPath)) ∧
    a.declarations.map (fun d => (d.filePath unchecked.rootPath).text) =
      ["externs/plugin/Plugin.json", "externs/plugin/Plugin/Inner.json"] := by
  have hruns : (match (ofSections {} (Page.sections {} nestedPage)).outcome with
      | .ok a => decide ((∀ d ∈ a.declarations, (d.filePath unchecked.rootPath).IsAccepted) ∧
          a.declarations.map (fun d => (d.filePath unchecked.rootPath).text) =
            ["externs/plugin/Plugin.json", "externs/plugin/Plugin/Inner.json"])
      | .error _ => false) = true := by decide +kernel
  have hvacant : FileTree.empty.Vacant unchecked.rootPath := by
    refine .of_names (by decide +kernel) (by decide +kernel) ?_ ?_
    · intro parts _ bytes hfile
      rw [FileTree.get?_empty] at hfile
      split at hfile <;> cases hfile
    · intro names hnames
      rw [FileTree.get?_empty, if_neg]
      simp [Place.below, hnames]
  split at hruns
  · next a ha =>
    obtain ⟨haccepted, hpaths⟩ := of_decide_eq_true hruns
    obtain ⟨hcontained, -⟩ := contained_ofTree ha
    exact ⟨a, ha, hcontained, rfl, hvacant, haccepted,
      hcontained.emitted unchecked .empty rfl hvacant haccepted, hpaths⟩
  · cases hruns

/-- The tree of a page with one class. -/
def titlePage : List Markup.Node := [.element "h2" [.text none "plugin.Plugin Class".toList]]

/-- The way to the directory of all packages leads through it, to where a file would stand. -/
def roundabout : OutputOptions := { root := "out/plugin/Plugin.json/../..", validate := false }

/-- The directory of all packages would lie below a file. -/
def obstructed : OutputOptions := { root := "notes/out", validate := false }

/-- A tree with that file. -/
def notesTree : FileTree := .ofFiles [("notes", "".toUTF8)]

/-- A directory of all packages that is merely absent will not do: in the first tree the way to it
takes up the place of the file, and in the second it cannot be made. -/
theorem not_emitted_titlePage : ∃ a,
    (ofSections {} (Page.sections {} titlePage)).outcome = .ok a ∧
    (∀ d ∈ a.declarations, (d.filePath roundabout.rootPath).IsAccepted ∧
      (d.filePath obstructed.rootPath).IsAccepted) ∧
    FileTree.empty.find? roundabout.rootPath = none ∧
    (emit roundabout a.declarations .empty).outcome =
      .error (.files ⟨.isDirectory, "out/plugin/Plugin.json/../../plugin/Plugin.json"⟩) ∧
    notesTree.find? obstructed.rootPath = none ∧
    (emit obstructed a.declarations notesTree).outcome =
      .error (.files ⟨.notDirectory, "notes/out/plugin"⟩) := by
  have hruns : (match (ofSections {} (Page.sections {} titlePage)).outcome with
      | .ok a => decide ((∀ d ∈ a.declarations, (d.filePath roundabout.rootPath).IsAccepted ∧
          (d.filePath obstructed.rootPath).IsAccepted) ∧
        (emit roundabout a.declarations .empty).fileFault? =
          some ⟨.isDirectory, "out/plugin/Plugin.json/../../plugin/Plugin.json"⟩ ∧
        (emit obstructed a.declarations notesTree).fileFault? =
          some ⟨.notDirectory, "notes/out/plugin"⟩)
      | .error _ => false) = true := by decide +kernel
  split at hruns
  · next a ha =>
    obtain ⟨haccepted, hroundabout, hobstructed⟩ := of_decide_eq_true hruns
    exact ⟨a, ha, haccepted, rfl, Effect.fileFault?_eq_some_iff.1 hroundabout, rfl,
      Effect.fileFault?_eq_some_iff.1 hobstructed⟩
  · cases hruns

end Assembly

end TypedReference

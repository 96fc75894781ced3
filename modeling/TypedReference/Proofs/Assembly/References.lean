/-
# References within a page

A type refers to classes of the page only, whatever the tables say: names are given fixed types or
registered classes, and no class is without its declaration.
-/
import TypedReference.Proofs.Assembly.Phases

namespace TypedReference.Assembly

/-- **No reference dangles.** Every class path that occurs in a type of a declaration is the path
of a declaration of the page, and that of a class section. -/
theorem references_ofSections {cfg : Conventions} {sections : List Section} {a : Assembly}
    (h : (ofSections cfg sections).outcome = .ok a) :
    ∀ d ∈ a.declarations, ∀ path ∈ d.references,
      (∃ d' ∈ a.declarations, d'.path = path) ∧
      ∃ s ∈ sections, s.kind = .class ∧ s.path = path := by
  intro d hd path hpath
  obtain ⟨m, hm, k, hk, t, ht, hpath⟩ := Declaration.mem_references.1 hpath
  have hfits := fits_references_of_mem (fun path => ClassPaths.mem_entries_ofSections.1) h
    d hd m hm k hk
  obtain ⟨s, hs, hclass, hpath⟩ := hfits.types t ht path hpath
  refine ⟨?_, s, hs, hclass, hpath⟩
  rw [← hpath]
  exact exists_declaration_of_class h hs hclass

/-- A window whose constructor takes a view and arrays of views, and a module without members. -/
def windowSections : List Section :=
  [⟨.class, ["sublime", "View"], [], by decide⟩,
    ⟨.module, ["sublime"], [], by decide⟩,
    ⟨.class, ["sublime", "Window"],
      [⟨["Constructors", "Description"], [["Window(view, <[views]>)", "Opens sublime.View.X"]]⟩],
      by decide⟩]

theorem references_ofSections_window :
    ∃ a, (ofSections {} windowSections).outcome = .ok a ∧
      a.declarations.map Declaration.references =
        [[], [["sublime", "View"], ["sublime", "View"]]] ∧
      ∀ d ∈ a.declarations, ∀ path ∈ d.references,
        (∃ d' ∈ a.declarations, d'.path = path) ∧
        ∃ s ∈ windowSections, s.kind = .class ∧ s.path = path := by
  refine ⟨_, rfl, ?_, references_ofSections rfl⟩
  rfl

end TypedReference.Assembly

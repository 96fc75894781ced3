/-
# Declarations of a page can be written

What a page is made into has no two members of one name and meets the schema, as long as its members
have names. Each part of the schema is met for a reason of its own: arguments are given names and
counted depths when they are read, references name classes of the page, and packages consist of the
segments of section paths.
-/
import TypedReference.Proofs.Assembly.Phases
import TypedReference.Proofs.DeclarationFormat
import TypedReference.Proofs.Rejection

namespace TypedReference

open Text

/-- Sections whose paths have no empty segment have identities without one. -/
theorem Section.identity_ne_empty {s : Section} (h : ∀ segment ∈ s.path, segment ≠ "") :
    (∀ segment ∈ s.identity.1, segment ≠ "") ∧ s.identity.2 ≠ "" := by
  have hlast : s.lastSegment ≠ "" := h _ (List.getLast_mem s.path_ne_nil)
  unfold identity
  split
  · refine ⟨?_, hlast⟩
    intro segment hsegment
    exact h segment (((List.dropLast_sublist s.path).subset hsegment))
  · refine ⟨h, ?_⟩
    intro hempty
    apply capitalized_ne_nil (l := s.lastSegment.toList)
    · intro hnil
      exact hlast (String.toList_eq_nil_iff.1 hnil)
    · exact String.ofList_eq_empty_iff.1 hempty

namespace Assembly

/-- **Declarations can be written.** Where no segment of a section path is empty, no declaration has
two members of one name, and the schema accepts a declaration exactly when all its members have
names. The path and every signature of a declaration are acceptable in any case. -/
theorem acceptable_ofSections {cfg : Conventions} {sections : List Section} {a : Assembly}
    (hpaths : ∀ s ∈ sections, ∀ segment ∈ s.path, segment ≠ "")
    (h : (ofSections cfg sections).outcome = .ok a) :
    ∀ d ∈ a.declarations,
      d.sharing? = none ∧
      (declarationViolation? d.toDatum = none ↔ ∀ m ∈ d.members, m.name ≠ "") ∧
      (∀ segment ∈ d.path, segment ≠ "") ∧
      ∀ m ∈ d.members, ∀ k ∈ m.kinds,
        Schema.violation? Part.schema (.ref .kind) k.toDatum = none := by
  intro d hd
  obtain ⟨s, hs, base, hbase, hfinishes⟩ := exists_section_of_mem h hd
  -- The path is that of a section, and the references are paths of class sections.
  obtain ⟨hpackage, hname, -⟩ := assemble_eq_ok_some hbase
  obtain ⟨hpackage_ne, hname_ne⟩ := Section.identity_ne_empty (hpaths s hs)
  have hfits : ∀ m ∈ d.members, ∀ k ∈ m.kinds, k.Fits ApiType.Grounded :=
    fits_references_of_mem (ClassPaths.usable_ofSections sections).ne_nil h d hd
  have hpath : ∀ segment ∈ d.path, segment ≠ "" := by
    rw [hfinishes.path, Declaration.path, hpackage, hname, List.forall_mem_append,
      List.forall_mem_singleton]
    exact ⟨hpackage_ne, hname_ne⟩
  refine ⟨Declaration.sharing?_eq_none.2 hfinishes.nodup_memberNames, ?_, hpath, ?_⟩
  · rw [Declaration.path, List.forall_mem_append, List.forall_mem_singleton] at hpath
    rw [declarationViolation?_toDatum]
    constructor
    · rintro ⟨-, -, hmembers⟩ m hm
      exact (hmembers m hm).1
    · intro hnames
      exact ⟨hpath.1, hpath.2, fun m hm => ⟨hnames m hm, hfits m hm⟩⟩
  · intro m hm k hk
    exact (MemberKind.accepts_toDatum k).2 (hfits m hm k hk)

/-- A class with a constructor that mentions a constant of the class, and a module with two
properties. -/
def pluginSections : List Section :=
  [⟨.class, ["plugin", "Listener"],
      [⟨["constructors", "description"], [["Listener(<[listeners]>)", "plugin.Listener.NEW"]]⟩],
      by decide⟩,
    ⟨.module, ["plugin"],
      [⟨["properties", "type", "description"], [["listener", "", ""], ["is_loaded", "", ""]]⟩],
      by decide⟩]

theorem acceptable_ofSections_plugin :
    (∀ s ∈ pluginSections, ∀ segment ∈ s.path, segment ≠ "") ∧
    ∃ a, (ofSections {} pluginSections).outcome = .ok a ∧
      a.declarations.map Declaration.memberNames =
        [["Listener", "NEW"], ["listener", "is_loaded"]] ∧
      ∀ d ∈ a.declarations,
        d.sharing? = none ∧
        (declarationViolation? d.toDatum = none ↔ ∀ m ∈ d.members, m.name ≠ "") ∧
        (∀ segment ∈ d.path, segment ≠ "") ∧
        ∀ m ∈ d.members, ∀ k ∈ m.kinds,
          Schema.violation? Part.schema (.ref .kind) k.toDatum = none := by
  have hpaths : ∀ s ∈ pluginSections, ∀ segment ∈ s.path, segment ≠ "" := by decide
  exact ⟨hpaths, _, rfl, rfl, acceptable_ofSections hpaths rfl⟩

end Assembly

end TypedReference

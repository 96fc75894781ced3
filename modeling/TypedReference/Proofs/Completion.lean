/-
# Emissions that come to their end

A name has no dot in it, and the file of a declaration has one. So below the directory of all
packages no file of a declaration stands where another one needs a directory, and whatever else is
there, declarations with paths of names can be written as long as files and directories keep apart
in this way.
-/
import TypedReference.Proofs.Emission
import TypedReference.Proofs.Files.Making

namespace TypedReference

open Files Text

/-! ## Files and directories kept apart -/

/-- Nothing is in the way of files of declarations below a directory. -/
structure Clear (root : Files.Path) (t : FileTree) : Prop where
  /-- The directory is there or can be made. -/
  makes : (t.ensureDirectory root).fault? = none
  /-- The way to the directory does not lead through it. -/
  direct : ∀ parts, parts <+: root.parts → ∀ names, names ≠ [] →
    (Files.Path.mk root.anchor parts).goal ≠ root.goal.below names
  /-- Below it, names with a dot are those of files and all others those of directories. -/
  apart : ∀ names name e, t.get? (root.goal.below (names ++ [name])) = some e →
    (e = .directory ↔ '.' ∉ name.toList)

/-- Nothing is in the way in a directory that is empty once it has been made. -/
theorem Clear.of_vacant {root : Files.Path} {t : FileTree} (h : t.Vacant root) : Clear root t where
  makes := h.makes
  direct := by
    intro parts hparts names hnames hsame
    have hdirectory :=
      FileTree.get?_of_outer (FileTree.isDirectory_ensureDirectory h.makes) hparts
    rw [hsame, h.empty names hnames] at hdirectory
    cases hdirectory
  apart := by
    intro names name e he
    have hthere := FileTree.get?_ensureDirectory t root he
    rw [h.empty _ (by simp)] at hthere
    cases hthere

/-! ## One declaration -/

/-- The name of a file has a dot in it. -/
theorem Declaration.dot_mem_fileName (d : Declaration) : '.' ∈ (d.name ++ ".json").toList := by
  rw [String.toList_append]
  exact List.mem_append_right _ (by decide)

/-- The segments of a package have none. -/
theorem Declaration.IsNamed.dot_not_mem {d : Declaration} (h : d.IsNamed) {segment : String}
    (hsegment : segment ∈ d.package) : '.' ∉ segment.toList :=
  not_mem_of_isName (h segment (List.mem_append_left _ hsegment)) (by decide)

/-- The directories around a file are those of the package below the directory of all packages. -/
theorem Declaration.IsNamed.parent_parts_filePath {d : Declaration} (h : d.IsNamed)
    (root : Files.Path) : (d.filePath root).parent.parts = root.parts ++ d.package := by
  rw [h.filePath_eq, Files.Path.parent, Declaration.fileParts, ← List.append_assoc,
    List.dropLast_concat]

/-- No file lies where a directory of a package does. -/
theorem Declaration.IsNamed.not_fileParts_in_package {d : Declaration} (h : d.IsNamed)
    (d' : Declaration) : ¬ d'.fileParts <+: d.package := by
  intro hway
  have hmem : d'.name ++ ".json" ∈ d.package := hway.subset (by simp [Declaration.fileParts])
  exact h.dot_not_mem hmem d'.dot_mem_fileName

namespace Clear

variable {root : Files.Path} {t t' : FileTree} {d : Declaration} (hclear : Clear root t)
  (hnamed : d.IsNamed)
include hclear hnamed

/-- The directories around the file of a declaration that lie below the directory of all packages
are those of its package. -/
theorem mem_package_of_around {names : List String} {name : String}
    (h : FileTree.Around root.anchor (root.parts ++ d.package).reverse
      (root.goal.below (names ++ [name]))) : name ∈ d.package := by
  obtain ⟨outer, hway, hsame⟩ := FileTree.around_reverse_iff.1 h
  rcases FileTree.prefix_append_cases hway with hroot | ⟨inner, -, hpackage, hparts⟩
  · exact absurd hsame.symm (hclear.direct _ hroot _ (by simp))
  · have hdots : ∀ segment ∈ inner, segment ≠ ".." ∧ segment ≠ "." := fun segment hsegment =>
      hnamed.fileParts_ne_dots segment (List.mem_append_left _ (hpackage.subset hsegment))
    have hgoal : (Files.Path.mk root.anchor (root.parts ++ inner)).goal = root.goal.below inner :=
      Files.Path.goal_below hdots root
    rw [hparts, hgoal, Place.below_inj] at hsame
    exact hpackage.subset (by simp [← hsame])

/-- Nothing is in the way of the file of a declaration. -/
theorem fault?_writeWithin (haccepted : (d.filePath root).IsAccepted) (bytes : ByteArray) :
    (t.writeWithin (d.filePath root) bytes).fault? = none := by
  have hpath : d.filePath root = root.below (d.package ++ [d.name ++ ".json"]) :=
    hnamed.filePath_eq root
  rw [hpath] at haccepted ⊢
  refine FileTree.fault?_writeBelow hnamed.fileParts_ne_dots haccepted hclear.makes ?_ ?_ bytes
  · -- No file has the name of a segment of the package.
    intro inner hinner hway bytes hfile
    obtain ⟨names, name, rfl⟩ := (List.eq_nil_or_concat' inner).resolve_left hinner
    have hname : name ∈ d.package := hway.subset (by simp)
    cases (hclear.apart names name _ hfile).2 (hnamed.dot_not_mem hname)
  · -- No directory has the name of a file, and none is made that has.
    intro hdirectory
    rcases (FileTree.ensureAt_spec t root.anchor (root.parts ++ d.package).reverse).1
      (root.goal.below (d.package ++ [d.name ++ ".json"])) with hsame | ⟨haround, -⟩
    · exact (hclear.apart _ _ _ (hsame.symm.trans hdirectory)).1 rfl d.dot_mem_fileName
    · exact hnamed.dot_not_mem (hclear.mem_package_of_around hnamed haround) d.dot_mem_fileName

/-- Once the file of a declaration has been written, nothing is in the way of others. -/
theorem of_wrote {bytes : ByteArray} (h : t.Wrote (d.filePath root) bytes t') : Clear root t' where
  makes := by
    have hpath := hnamed.filePath_eq root
    have hplace : t'.place ⟨root.anchor, root.parts ++ d.fileParts⟩ = .ok (d.filePath root).goal :=
      hpath ▸ h.place
    have hthere : t'.isDirectory root = true :=
      FileTree.isDirectory_of_place hplace (by simp [Declaration.fileParts])
    rw [FileTree.ensureDirectory_of_isDirectory hthere]
  direct := hclear.direct
  apart := by
    intro names name e he
    have hgoal : (d.filePath root).goal = root.goal.below d.fileParts := hnamed.goal_filePath root
    by_cases hfile : root.goal.below (names ++ [name]) = (d.filePath root).goal
    · rw [hfile, h.file] at he
      rw [hgoal, Place.below_inj] at hfile
      obtain ⟨-, hname⟩ := List.append_inj' hfile rfl
      cases he
      rw [List.singleton_inj.1 hname]
      exact iff_of_false (by simp) fun hno => hno d.dot_mem_fileName
    · rcases h.others _ hfile with hsame | ⟨haround, -, hnew⟩
      · exact hclear.apart names name e (hsame.symm.trans he)
      · rw [hnew] at he
        cases he
        rw [hnamed.parent_parts_filePath, hnamed.filePath_eq] at haround
        have hname := hclear.mem_package_of_around hnamed haround
        exact iff_of_true rfl (hnamed.dot_not_mem hname)

end Clear

/-! ## All declarations -/

variable {o : OutputOptions} {t : FileTree} {ds : List Declaration}

/-- **Emissions come to their end.** Where nothing is in the way of files of declarations,
declarations that are not rejected, with paths of names that can be paths, are all written, and
nothing is in the way of others afterwards. -/
theorem emitEach_of_clear (hclear : Clear o.rootPath t)
    (hds : ∀ d ∈ ds, d.rejection? o = none ∧ d.IsNamed ∧ (d.filePath o.rootPath).IsAccepted) :
    (emitEach o ds t).outcome = .ok (ds.map (Declaration.filePath o.rootPath)) ∧
      Clear o.rootPath (emitEach o ds t).tree := by
  -- The induction is on the declarations; each finds the files that the ones before it left.
  induction ds generalizing t with
  | nil => exact ⟨rfl, hclear⟩
  | cons d ds ih =>
      obtain ⟨⟨haccepted, hnamed, hpath⟩, hds⟩ := List.forall_mem_cons.1 hds
      obtain ⟨hone, hwrote⟩ := emitOne_of_fault?_eq_none haccepted
        (hclear.fault?_writeWithin hnamed hpath (d.fileText o.indent).toUTF8)
      obtain ⟨houtcome, htree⟩ := emitEach_cons_of_ok hone ds
      obtain ⟨hrest, hclear'⟩ := ih (hclear.of_wrote hnamed hwrote) hds
      rw [houtcome, htree, hrest]
      exact ⟨rfl, hclear'⟩

end TypedReference

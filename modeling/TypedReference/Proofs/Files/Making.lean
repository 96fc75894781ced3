/-
# Directories that can be made

Below a directory that is there or can be made, any further directory can be made as long as no
file stands on the way to it and its path is one that a path can be. A file can then be written
there, unless a directory stands in its place.
-/
import Mathlib.Data.List.Induction
import TypedReference.Proofs.Files.Tree
import TypedReference.Proofs.Text.Split

namespace TypedReference.Files

open Text

/-! ## Paths and places below others -/

/-- The place of some names below a place. -/
def Place.below (p : Place) (names : List String) : Place := ⟨p.base, p.names ++ names⟩

/-- The path of some parts below a path. -/
def Path.below (p : Path) (parts : List String) : Path := ⟨p.anchor, p.parts ++ parts⟩

theorem Place.below_inj {p : Place} {names names' : List String} :
    p.below names = p.below names' ↔ names = names' := by
  rw [below, below, Place.mk.injEq, eq_self, true_and, List.append_right_inj]

/-- Going down by a name and up again leads back. -/
theorem Place.up_child (p : Place) (name : String) : (p.child name).up = p := by
  obtain ⟨base, names⟩ := p
  cases names with
  | nil => cases base <;> rfl
  | cons first rest =>
      have hdrop : (first :: rest ++ [name]).dropLast = first :: rest := List.dropLast_concat
      cases base <;> exact congrArg (Place.mk _) hdrop

theorem Place.below_concat (p : Place) (names : List String) (name : String) :
    p.below (names ++ [name]) = (p.below names).child name := by
  rw [below, below, child, List.append_assoc]

/-- Names lead below the goal of a path. -/
theorem Path.goal_below {names : List String} (h : ∀ name ∈ names, name ≠ ".." ∧ name ≠ ".")
    (p : Path) : (p.below names).goal = p.goal.below names := by
  rw [goal, below, Place.along_append, Place.along_of_names h]
  rfl

/-- A path can be one, as far as its length and its characters go. -/
def Path.IsAccepted (p : Path) : Prop :=
  FileTree.textCause? p.text = none ∧ ∀ part ∈ p.parts, part.utf8ByteSize ≤ FileTree.maxNameBytes

instance (p : Path) : Decidable p.IsAccepted := inferInstanceAs (Decidable (_ ∧ _))

/-- A text that can be a path has no zero character and is not too long. -/
theorem FileTree.textCause?_eq_none_iff {s : String} :
    FileTree.textCause? s = none ↔ '\x00' ∉ s.toList ∧ s.utf8ByteSize ≤ FileTree.maxPathBytes := by
  rw [textCause?]
  split
  · next hzero => simp [List.contains_iff_mem.1 hzero]
  · next hzero =>
    rw [Bool.not_eq_true] at hzero
    rw [and_iff_right (by simpa using hzero)]
    split
    · next hlong => simp [hlong]
    · next hshort => simp [Nat.le_of_not_lt hshort]

/-- What stands in front of a text that can be a path can be one. -/
theorem FileTree.textCause?_of_start {s s' : String} (hway : s.toList <+: s'.toList)
    (h : FileTree.textCause? s' = none) : FileTree.textCause? s = none := by
  obtain ⟨more, hmore⟩ := hway
  have happend : s' = s ++ String.ofList more := by
    rw [← String.toList_inj, String.toList_append, String.toList_ofList, hmore]
  obtain ⟨hzero, hlength⟩ := FileTree.textCause?_eq_none_iff.1 h
  rw [happend, String.utf8ByteSize_append] at hlength
  refine FileTree.textCause?_eq_none_iff.2 ⟨fun hmem => hzero ?_, by omega⟩
  rw [← hmore]
  exact List.mem_append_left _ hmem

/-- A path that leads a part of the way can be one if the whole can. -/
theorem FileTree.textCause?_text_of_outer {anchor : Anchor} {parts parts' : List String}
    (hway : parts <+: parts') (h : FileTree.textCause? (Path.mk anchor parts').text = none) :
    FileTree.textCause? (Path.mk anchor parts).text = none := by
  by_cases hempty : anchor = .relative ∧ parts = []
  · rw [Path.text, if_pos hempty]
    decide
  · have hempty' : ¬ (anchor = .relative ∧ parts' = []) := by
      rintro ⟨hanchor, rfl⟩
      exact hempty ⟨hanchor, List.prefix_nil.1 hway⟩
    rw [Path.text, if_neg hempty'] at h
    rw [Path.text, if_neg hempty]
    refine FileTree.textCause?_of_start ?_ h
    rw [String.toList_append, String.toList_append, String.toList_intercalate,
      String.toList_intercalate, List.prefix_append_right_inj]
    exact joinWith_start (hway.map String.toList)

theorem Path.IsAccepted.of_outer {anchor : Anchor} {parts parts' : List String}
    (h : (Path.mk anchor parts').IsAccepted) (hway : parts <+: parts') :
    (Path.mk anchor parts).IsAccepted :=
  ⟨FileTree.textCause?_text_of_outer hway h.1, fun part hpart => h.2 part (hway.subset hpart)⟩

namespace FileTree

variable {t t' : FileTree} {p root : Path} {names : List String} {name : String}

/-! ## The way to a directory -/

/-- Parts lead on from where the ones before them lead. -/
theorem walk_append_eq_ok_iff {place goal : Place} {parts parts' : List String} :
    t.walk place (parts ++ parts') = .ok goal ↔
      ∃ between, t.walk place parts = .ok between ∧ t.walk between parts' = .ok goal := by
  induction parts generalizing place with
  | nil => simp [walk]
  | cons part parts ih =>
      rw [List.cons_append, walk_cons_eq_ok_iff, ih]
      constructor
      · rintro ⟨hdirectory, hlength, between, hwalk, hrest⟩
        exact ⟨between, walk_cons_eq_ok_iff.2 ⟨hdirectory, hlength, hwalk⟩, hrest⟩
      · rintro ⟨between, hwalk, hrest⟩
        obtain ⟨hdirectory, hlength, hwalk⟩ := walk_cons_eq_ok_iff.1 hwalk
        exact ⟨hdirectory, hlength, between, hwalk, hrest⟩

/-- Whatever a path leads to, what is in front of its last parts leads to a directory. -/
theorem isDirectory_of_place {anchor : Anchor} {parts parts' : List String} {goal : Place}
    (h : t.place ⟨anchor, parts ++ parts'⟩ = .ok goal) (hparts : parts' ≠ []) :
    t.isDirectory ⟨anchor, parts⟩ = true := by
  obtain ⟨htext, hwalk⟩ := place_eq_ok_iff.1 h
  obtain ⟨between, hwalk, hrest⟩ := walk_append_eq_ok_iff.1 hwalk
  have hgoal : between = (Path.mk anchor parts).goal := eq_along_of_walk hwalk
  obtain ⟨part, more, rfl⟩ := List.exists_cons_of_ne_nil hparts
  have hdirectory := (walk_cons_eq_ok_iff.1 hrest).1
  rw [hgoal] at hwalk hdirectory
  exact isDirectory_eq_true_iff.2 ⟨place_eq_ok_iff.2
    ⟨textCause?_text_of_outer (List.prefix_append parts _) htext, hwalk⟩, hdirectory⟩

/-- All directories on the way to a directory are there. -/
theorem get?_of_outer {anchor : Anchor} {parts parts' : List String}
    (h : t.isDirectory ⟨anchor, parts'⟩ = true) (hway : parts <+: parts') :
    t.get? (Path.mk anchor parts).goal = some .directory := by
  obtain ⟨more, rfl⟩ := hway
  by_cases hmore : more = []
  · rw [hmore, List.append_nil] at h
    exact (isDirectory_eq_true_iff.1 h).2
  · exact (isDirectory_eq_true_iff.1
      (isDirectory_of_place (isDirectory_eq_true_iff.1 h).1 hmore)).2

/-- A way ends where nothing is or where a file is, unless a name on it is too long. -/
theorem walk_eq_error {place : Place} {parts : List String} {cause : FileCause}
    (h : t.walk place parts = .error cause)
    (hlengths : ∀ part ∈ parts, part.utf8ByteSize ≤ maxNameBytes) :
    cause = .missing ∨
      ∃ outer bytes, outer <+: parts ∧ t.get? (place.along outer) = some (.file bytes) := by
  induction parts generalizing place with
  | nil => cases h
  | cons part parts ih =>
      obtain ⟨hlength, hlengths⟩ := List.forall_mem_cons.1 hlengths
      cases hentry : t.get? place with
      | none =>
          rw [walk, hentry] at h
          cases h
          exact Or.inl rfl
      | some e =>
          cases e with
          | file bytes => exact Or.inr ⟨[], bytes, List.nil_prefix, hentry⟩
          | directory =>
              have hnext : t.walk (place.step part) parts = .error cause := by
                rw [walk, hentry] at h
                simp only [if_neg (Nat.not_lt.2 hlength)] at h
                rw [Place.step]
                split at h
                · next hup => rwa [if_pos hup]
                · next hup =>
                  rw [if_neg hup]
                  split at h
                  · next hstay => rwa [if_pos hstay]
                  · next hstay => rwa [if_neg hstay]
              rcases ih hnext hlengths with hmissing | ⟨outer, bytes, houter, hfile⟩
              · exact Or.inl hmissing
              · exact Or.inr ⟨part :: outer, bytes, by simpa using houter, hfile⟩

/-! ## Making one directory -/

/-- A directory that is there need not be made. -/
theorem settle_of_isDirectory (h : t.isDirectory p = true) (f : FileFault) :
    t.settle p (.error f) = ⟨t, none⟩ := by
  rw [settle, if_pos h]

/-- Unless the one around it is missing, a directory is made at once or never. -/
theorem ensureDirectory_of_not_missing
    (h : ∀ f, t.makeDirectory p = .error f → f.cause ≠ .missing) :
    t.ensureDirectory p = t.settle p (t.makeDirectory p) := by
  have hpath : p = ⟨p.anchor, p.parts.reverse.reverse⟩ := by rw [List.reverse_reverse]
  rw [ensureDirectory]
  cases hparts : p.parts.reverse with
  | nil =>
      rw [hparts, List.reverse_nil] at hpath
      rw [ensureAt, ← hpath]
  | cons part outer =>
      rw [hparts] at hpath
      rw [ensureAt]
      simp only
      rw [← hpath]
      split
      · next path hmissing => exact absurd rfl (h _ hmissing)
      · rfl

/-- If the one around it is missing, that one is made first. -/
theorem ensureDirectory_of_missing {f : FileFault}
    (h : t.makeDirectory (root.below (names ++ [name])) = .error f) (hcause : f.cause = .missing)
    (hmade : (t.ensureDirectory (root.below names)).fault? = none) :
    t.ensureDirectory (root.below (names ++ [name])) =
      (t.ensureDirectory (root.below names)).tree.settle (root.below (names ++ [name]))
        ((t.ensureDirectory (root.below names)).tree.makeDirectory
          (root.below (names ++ [name]))) := by
  have hparts : (root.below (names ++ [name])).parts.reverse =
      name :: (root.below names).parts.reverse := by
    simp [Path.below]
  have hpath : root.below (names ++ [name]) = ⟨(root.below (names ++ [name])).anchor,
      (name :: (root.below names).parts.reverse).reverse⟩ := by
    rw [← hparts, List.reverse_reverse]
  have hanchor : (root.below (names ++ [name])).anchor = (root.below names).anchor := rfl
  obtain ⟨cause, path⟩ := f
  simp only at hcause
  subst hcause
  rw [ensureDirectory, hparts, ensureAt]
  simp only
  rw [← hpath, h, hanchor, ← ensureDirectory]
  simp only [hmade, Option.isSome_none, Bool.false_eq_true, if_false]

/-- A directory that is there is left as it is. -/
theorem ensureDirectory_of_isDirectory (h : t.isDirectory p = true) :
    t.ensureDirectory p = ⟨t, none⟩ := by
  obtain ⟨hplace, hdirectory⟩ := isDirectory_eq_true_iff.1 h
  have hoccupied : t.makeDirectory p = .error ⟨.occupied, p.text⟩ := by
    rw [makeDirectory, hplace]
    simp [hdirectory]
  rw [ensureDirectory_of_not_missing, hoccupied, settle_of_isDirectory h]
  intro f hf
  rw [hoccupied] at hf
  cases hf
  simp

/-! ## Making directories below one -/

/-- Nothing is lost when a directory is made. -/
theorem get?_ensureDirectory (t : FileTree) (p : Path) {q : Place} {e : Entry}
    (h : t.get? q = some e) : (t.ensureDirectory p).tree.get? q = some e :=
  ((ensureAt_spec t p.anchor p.parts.reverse).1 q).get?_eq_some h

/-- No file is new when a directory is made. -/
theorem file_of_ensureDirectory {q : Place} {bytes : ByteArray}
    (h : (t.ensureDirectory p).tree.get? q = some (.file bytes)) :
    t.get? q = some (.file bytes) := by
  rcases (ensureAt_spec t p.anchor p.parts.reverse).1 q with hsame | ⟨-, -, hnew⟩
  · exact hsame.symm.trans h
  · exact absurd (hnew.symm.trans h) (by simp)

/-- A directory that has been made is there. -/
theorem isDirectory_ensureDirectory (h : (t.ensureDirectory p).fault? = none) :
    (t.ensureDirectory p).tree.isDirectory p = true := by
  have hmade := (ensureAt_spec t p.anchor p.parts.reverse).2 h
  rwa [List.reverse_reverse] at hmade

/-- No file stands on the way to a directory that can be made. -/
theorem not_file_of_outer (h : (t.ensureDirectory p).fault? = none) {parts : List String}
    (hway : parts <+: p.parts) (bytes : ByteArray) :
    t.get? (Path.mk p.anchor parts).goal ≠ some (.file bytes) := by
  intro hfile
  have hdirectory := get?_of_outer (isDirectory_ensureDirectory h) hway
  rw [get?_ensureDirectory t p hfile] at hdirectory
  cases hdirectory

section

variable (hnames : ∀ n ∈ names ++ [name], n ≠ ".." ∧ n ≠ ".")
include hnames

/-- What is put below a directory is put into one. -/
theorem get?_up_below (hdirectory : t.isDirectory (root.below names) = true) :
    t.get? (root.goal.below (names ++ [name])).up = some .directory := by
  rw [Place.below_concat, Place.up_child, ← Path.goal_below fun n hn =>
    hnames n (List.mem_append_left _ hn)]
  exact (isDirectory_eq_true_iff.1 hdirectory).2

variable (haccepted : (root.below (names ++ [name])).IsAccepted)
include haccepted

/-- From a directory a name leads on. -/
theorem place_below (hdirectory : t.isDirectory (root.below names) = true) :
    t.place (root.below (names ++ [name])) = .ok (root.goal.below (names ++ [name])) := by
  obtain ⟨hplace, hthere⟩ := isDirectory_eq_true_iff.1 hdirectory
  have hname := hnames name (by simp)
  have hlength : name.utf8ByteSize ≤ maxNameBytes := haccepted.2 name (by simp [Path.below])
  have hstep : (root.below names).goal.step name = root.goal.below (names ++ [name]) := by
    rw [Path.goal_below fun n hn => hnames n (List.mem_append_left _ hn), Place.below_concat,
      Place.step, if_neg hname.1, if_neg hname.2]
  refine place_eq_ok_iff.2 ⟨haccepted.1, ?_⟩
  have hparts : (root.below (names ++ [name])).parts = (root.below names).parts ++ [name] := by
    rw [Path.below, Path.below, List.append_assoc]
  rw [hparts, walk_append_eq_ok_iff]
  refine ⟨_, (place_eq_ok_iff.1 hplace).2, walk_cons_eq_ok_iff.2 ⟨hthere, hlength, ?_⟩⟩
  rw [hstep, walk]

/-- In a directory another one can be made, unless a file is there. -/
theorem fault?_settle (hdirectory : t.isDirectory (root.below names) = true)
    (hfree : ∀ bytes, t.get? (root.goal.below (names ++ [name])) ≠ some (.file bytes)) :
    (t.settle (root.below (names ++ [name]))
      (t.makeDirectory (root.below (names ++ [name])))).fault? = none := by
  have hplace := place_below hnames haccepted hdirectory
  have hup := get?_up_below hnames hdirectory
  cases hentry : t.get? (root.goal.below (names ++ [name])) with
  | none =>
      rw [makeDirectory, hplace]
      simp [hentry, hup, settle]
  | some e =>
      cases e with
      | file bytes => exact absurd hentry (hfree bytes)
      | directory =>
          have hthere : t.isDirectory (root.below (names ++ [name])) = true := by
            rw [isDirectory_eq_true_iff, Path.goal_below hnames]
            exact ⟨hplace, hentry⟩
          rw [makeDirectory, hplace]
          simp only [hentry, Option.isSome_some, if_true]
          rw [settle_of_isDirectory hthere]

/-- In a directory a file can be written, unless a directory is there. -/
theorem exists_write (hdirectory : t.isDirectory (root.below names) = true)
    (hfree : t.get? (root.goal.below (names ++ [name])) ≠ some .directory) (bytes : ByteArray) :
    ∃ t', t.write (root.below (names ++ [name])) bytes = .ok t' := by
  have hplace := place_below hnames haccepted hdirectory
  have hup := get?_up_below hnames hdirectory
  rw [write, hplace]
  simp only [hup, Option.isSome_some, if_true]
  exact ⟨_, rfl⟩

end

/-- What leads a part of the way leads at most to the end of the first half, or beyond. -/
theorem prefix_append_cases {α : Type} {l first second : List α} (h : l <+: first ++ second) :
    l <+: first ∨ ∃ inner, inner ≠ [] ∧ inner <+: second ∧ l = first ++ inner := by
  rcases List.prefix_or_prefix_of_prefix h (List.prefix_append first second) with
    hshort | ⟨inner, rfl⟩
  · exact Or.inl hshort
  · by_cases hinner : inner = []
    · rw [hinner, List.append_nil]
      exact Or.inl (List.prefix_refl first)
    · exact Or.inr ⟨inner, hinner, (List.prefix_append_right_inj first).1 h, rfl⟩

section

variable (hnames : ∀ n ∈ names, n ≠ ".." ∧ n ≠ ".") (haccepted : (root.below names).IsAccepted)
  (hroot : (t.ensureDirectory root).fault? = none)
  (hfree : ∀ pre, pre ≠ [] → pre <+: names → ∀ bytes,
    t.get? (root.goal.below pre) ≠ some (.file bytes))
include hnames hroot hfree

/-- No file stands anywhere on the way. -/
theorem not_file_of_outer_below {parts : List String} (hparts : parts <+: root.parts ++ names)
    (bytes : ByteArray) : t.get? (Path.mk root.anchor parts).goal ≠ some (.file bytes) := by
  rcases prefix_append_cases hparts with hway | ⟨inner, hinner, hway, rfl⟩
  · exact not_file_of_outer hroot hway bytes
  · have hgoal : (Path.mk root.anchor (root.parts ++ inner)).goal = root.goal.below inner :=
      Path.goal_below (fun n hn => hnames n (hway.subset hn)) root
    rw [hgoal]
    exact hfree inner hinner hway bytes

include haccepted

/-- A directory is only not made at once if the one around it is missing. -/
theorem makeDirectory_below_error {f : FileFault}
    (h : t.makeDirectory (root.below names) = .error f) :
    f.cause = .missing ∨ t.isDirectory (root.below names) = true := by
  have hclear {parts : List String} (hparts : parts <+: root.parts ++ names) :=
    not_file_of_outer_below hnames hroot hfree hparts
  rw [makeDirectory] at h
  split at h
  · next f' hplace =>
    cases h
    rw [place, placeFrom, haccepted.1] at hplace
    simp only at hplace
    cases hwalk : t.walk (.ofAnchor (root.below names).anchor) (root.below names).parts with
    | ok goal =>
        rw [hwalk] at hplace
        cases hplace
    | error cause =>
        rw [hwalk] at hplace
        cases hplace
        rcases walk_eq_error hwalk haccepted.2 with rfl | ⟨outer, bytes, houter, hfile⟩
        · exact Or.inl rfl
        · exact absurd hfile (hclear houter bytes)
  · next goal hplace =>
    have hgoal := eq_goal_of_place hplace
    rw [hgoal] at h hplace
    cases hentry : t.get? (root.below names).goal with
    | none =>
        rw [hentry] at h
        simp only [Option.isSome_none, Bool.false_eq_true, if_false] at h
        split at h
        · cases h
        · cases h
          exact Or.inl rfl
    | some e =>
        cases e with
        | file bytes => exact absurd hentry (hclear (List.prefix_refl _) bytes)
        | directory => exact Or.inr (isDirectory_eq_true_iff.2 ⟨hplace, hentry⟩)

/-- **Directories below one.** Where a directory can be made, so can those below it, unless a file
stands on the way. -/
theorem fault?_ensureBelow : (t.ensureDirectory (root.below names)).fault? = none := by
  -- The induction goes from the outermost name inwards, as each directory is made in another.
  induction names using List.reverseRecOn with
  | nil =>
      have hself : root.below [] = root := by rw [Path.below, List.append_nil]
      rw [hself]
      exact hroot
  | append_singleton outer name ih =>
      have hway : root.parts ++ outer <+: root.parts ++ (outer ++ [name]) :=
        (List.prefix_append_right_inj root.parts).2 (List.prefix_append outer [name])
      have houter := ih (fun n hn => hnames n (List.mem_append_left _ hn))
        (Path.IsAccepted.of_outer haccepted hway)
        fun inner hinner hbefore => hfree inner hinner (hbefore.trans (List.prefix_append outer _))
      cases hmake : t.makeDirectory (root.below (outer ++ [name])) with
      | ok t' =>
          rw [ensureDirectory_of_not_missing (by simp [hmake]), hmake, settle]
      | error f =>
          rcases makeDirectory_below_error hnames haccepted hroot hfree hmake with
            hmissing | hthere
          · rw [ensureDirectory_of_missing hmake hmissing houter]
            refine fault?_settle hnames haccepted (isDirectory_ensureDirectory houter) ?_
            intro bytes hfile
            exact hfree _ (by simp) (List.prefix_refl _) bytes (file_of_ensureDirectory hfile)
          · rw [ensureDirectory_of_isDirectory hthere]

end

/-- **Files below a directory.** Where a directory can be made, a file can be written below it,
unless another file stands on the way or a directory in its place. -/
theorem fault?_writeBelow (hnames : ∀ n ∈ names ++ [name], n ≠ ".." ∧ n ≠ ".")
    (haccepted : (root.below (names ++ [name])).IsAccepted)
    (hroot : (t.ensureDirectory root).fault? = none)
    (hfree : ∀ inner, inner ≠ [] → inner <+: names → ∀ bytes,
      t.get? (root.goal.below inner) ≠ some (.file bytes))
    (hplace : (t.ensureDirectory (root.below names)).tree.get?
      (root.goal.below (names ++ [name])) ≠ some .directory) (bytes : ByteArray) :
    (t.writeWithin (root.below (names ++ [name])) bytes).fault? = none := by
  have hway : root.parts ++ names <+: root.parts ++ (names ++ [name]) :=
    (List.prefix_append_right_inj root.parts).2 (List.prefix_append names [name])
  have hparent : (root.below (names ++ [name])).parent = root.below names := by
    rw [Path.parent, Path.below, Path.below, ← List.append_assoc, List.dropLast_concat]
  have hmade : (t.ensureDirectory (root.below names)).fault? = none :=
    fault?_ensureBelow (fun n hn => hnames n (List.mem_append_left _ hn))
      (Path.IsAccepted.of_outer haccepted hway) hroot hfree
  obtain ⟨t', hwrite⟩ :=
    exists_write hnames haccepted (isDirectory_ensureDirectory hmade) hplace bytes
  rw [writeWithin, hparent]
  simp [hmade, hwrite]

/-! ## Empty directories -/

/-- Without any file there are only the directories that are always there. -/
theorem get?_empty (q : Place) :
    FileTree.empty.get? q = if q.names = [] then some .directory else none := rfl

/-- A directory is there or can be made, and is empty then. -/
structure Vacant (root : Path) (t : FileTree) : Prop where
  /-- It is there or can be made. -/
  makes : (t.ensureDirectory root).fault? = none
  /-- It is empty then. -/
  empty : ∀ names, names ≠ [] →
    (t.ensureDirectory root).tree.get? (root.goal.below names) = none

namespace Vacant

/-- A directory that is there and empty is vacant. -/
theorem of_isDirectory (h : t.isDirectory root = true)
    (hempty : ∀ names, names ≠ [] → t.get? (root.goal.below names) = none) : Vacant root t := by
  have hsame := ensureDirectory_of_isDirectory h
  exact ⟨by rw [hsame], fun names hnames => by rw [hsame, hempty names hnames]⟩

/-- A path of names on which no file stands is that of a vacant directory if nothing is below it. -/
theorem of_names (hnames : ∀ part ∈ root.parts, part ≠ ".." ∧ part ≠ ".")
    (haccepted : root.IsAccepted)
    (hfree : ∀ parts, parts <+: root.parts → ∀ bytes,
      t.get? (Path.mk root.anchor parts).goal ≠ some (.file bytes))
    (hempty : ∀ names, names ≠ [] → t.get? (root.goal.below names) = none) : Vacant root t := by
  -- The path starts at a directory that is always there.
  have hstart : t.isDirectory ⟨root.anchor, []⟩ = true := by
    refine isDirectory_eq_true_iff.2 ⟨place_eq_ok_iff.2 ⟨?_, rfl⟩, ?_⟩
    · exact textCause?_text_of_outer List.nil_prefix haccepted.1
    · cases root.anchor <;> rfl
  have hgoal {parts : List String} (hparts : parts <+: root.parts) :
      (Path.mk root.anchor parts).goal = (Path.mk root.anchor []).goal.below parts :=
    Path.goal_below (fun part hpart => hnames part (hparts.subset hpart)) ⟨root.anchor, []⟩
  have hmakes : (t.ensureDirectory ((Path.mk root.anchor []).below root.parts)).fault? = none := by
    refine fault?_ensureBelow hnames haccepted ?_ ?_
    · rw [ensureDirectory_of_isDirectory hstart]
    · intro inner _ hinner bytes
      rw [← hgoal hinner]
      exact hfree inner hinner bytes
  refine ⟨hmakes, fun names hne => ?_⟩
  rcases (ensureAt_spec t root.anchor root.parts.reverse).1 (root.goal.below names) with
    hsame | ⟨haround, -⟩
  · exact hsame.trans (hempty names hne)
  · -- What leads only a part of the way does not lead beyond its end.
    obtain ⟨outer, hway, hgoals⟩ := around_reverse_iff.1 haround
    have hroot : root.goal = (Path.mk root.anchor []).goal.below root.parts :=
      hgoal (List.prefix_refl root.parts)
    rw [hgoal hway, hroot] at hgoals
    have hlength := congrArg (fun q : Place => q.names.length) hgoals
    have hshort := hway.length_le
    have hlong := List.length_pos_iff.2 hne
    simp only [Place.below, List.length_append] at hlength
    omega

end Vacant

end FileTree

end TypedReference.Files

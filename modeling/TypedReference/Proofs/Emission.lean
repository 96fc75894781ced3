/-
# Files of declarations

Two declarations whose packages and names are made of names have the same file when they have the
same path. When an emission comes to its end, each declaration stands in its file, unless a later
one of the same path has been written over it, and nothing else has changed but the directories
around these files.
-/
import TypedReference.Proofs.Effect
import TypedReference.Proofs.Files.Tree
import TypedReference.Proofs.Rejection
import TypedReference.Proofs.Text.Name
import TypedReference.Proofs.Text.Split

namespace TypedReference

open Files Text

/-! ## Paths of names -/

namespace Files.Path

/-- A text without slashes is one part of a path, unless it stands for a directory. -/
theorem ofText_of_part {s : String} (hne : s ≠ "") (hslash : '/' ∉ s.toList) (hdot : s ≠ ".") :
    ofText s = ⟨.relative, [s]⟩ := by
  have hparts : textParts s = [s] := by
    rw [textParts, List.splitOn_eq_singleton hslash, List.map_singleton, String.ofList_toList]
    simpa using hne
  have hanchor : s.toList.takeWhile (· == '/') = [] := by
    rw [List.takeWhile_eq_nil_iff]
    intro hlength hfirst
    rw [beq_iff_eq] at hfirst
    exact hslash (hfirst ▸ List.getElem_mem hlength)
  rw [ofText, hparts, hanchor]
  simpa using hdot

/-- A name is one part of a path. -/
theorem ofText_of_isName {s : String} (h : isName s.toList = true) :
    ofText s = ⟨.relative, [s]⟩ := by
  apply ofText_of_part
  · rintro rfl
    exact absurd h (by decide)
  · exact not_mem_of_isName h (by decide)
  · rintro rfl
    exact absurd h (by decide)

/-- Names lead from one part to the next. -/
theorem foldl_join_of_isName {names : List String} (h : ∀ s ∈ names, isName s.toList = true)
    (p : Path) : names.foldl (fun p s => p.join (ofText s)) p = ⟨p.anchor, p.parts ++ names⟩ := by
  induction names generalizing p with
  | nil => rw [List.foldl_nil, List.append_nil]
  | cons s names ih =>
      obtain ⟨hs, hnames⟩ := List.forall_mem_cons.1 h
      rw [List.foldl_cons, ofText_of_isName hs, join, if_pos rfl, ih hnames, List.append_assoc,
        List.singleton_append]

end Files.Path

namespace Declaration

/-- The package and the name of a declaration are made of names. -/
def IsNamed (d : Declaration) : Prop := ∀ segment ∈ d.path, isName segment.toList = true

/-- What the path of a declaration adds to that of the directory of all packages. -/
def fileParts (d : Declaration) : List String := d.package ++ [d.name ++ ".json"]

/-- Files tell paths apart. -/
theorem fileParts_inj {d d' : Declaration} : d.fileParts = d'.fileParts ↔ d.path = d'.path := by
  have hname : d.name ++ ".json" = d'.name ++ ".json" ↔ d.name = d'.name := by
    rw [← String.toList_inj, ← String.toList_inj, String.toList_append, String.toList_append,
      List.append_left_inj]
  constructor
  · intro hparts
    obtain ⟨hpackage, hlast⟩ := List.append_inj' hparts rfl
    rw [path, path, hpackage, hname.1 (List.singleton_inj.1 hlast)]
  · intro hpath
    obtain ⟨hpackage, hlast⟩ := List.append_inj' hpath rfl
    rw [fileParts, fileParts, hpackage, hname.2 (List.singleton_inj.1 hlast)]

/-- The name of a file has a letter in it, so it stands for no directory. -/
theorem mem_fileName (d : Declaration) : 'n' ∈ (d.name ++ ".json").toList := by
  rw [String.toList_append]
  exact List.mem_append_right _ (by decide)

namespace IsNamed

variable {d : Declaration} (h : d.IsNamed)
include h

/-- The file of a declaration lies below the directory of all packages, in one for each segment of
its package. -/
theorem filePath_eq (root : Files.Path) :
    d.filePath root = ⟨root.anchor, root.parts ++ d.fileParts⟩ := by
  have hname : Path.ofText (d.name ++ ".json") = ⟨.relative, [d.name ++ ".json"]⟩ := by
    apply Path.ofText_of_part
    · intro hempty
      exact absurd (hempty ▸ d.mem_fileName) (by decide)
    · rw [String.toList_append, List.mem_append, not_or]
      have hd : isName d.name.toList = true := h _ (List.mem_append_right _ (by simp))
      exact ⟨not_mem_of_isName hd (by decide), by decide⟩
    · intro hdot
      exact absurd (hdot ▸ d.mem_fileName) (by decide)
  have hpackage : ∀ segment ∈ d.package, isName segment.toList = true :=
    fun segment hmem => h segment (List.mem_append_left _ hmem)
  rw [filePath, Path.foldl_join_of_isName hpackage, hname, Path.join, if_pos rfl, fileParts,
    List.append_assoc]

/-- No part of the file of a declaration stands for a directory. -/
theorem fileParts_ne_dots : ∀ part ∈ d.fileParts, part ≠ ".." ∧ part ≠ "." := by
  intro part hpart
  rcases List.mem_append.1 hpart with hpackage | hlast
  · have hname := h part (List.mem_append_left _ hpackage)
    constructor <;> (rintro rfl; exact absurd hname (by decide))
  · have hn : 'n' ∈ part.toList := by
      rw [List.mem_singleton.1 hlast]
      exact d.mem_fileName
    constructor <;> (rintro rfl; exact absurd hn (by decide))

/-- The place of the file of a declaration lies below that of the directory of all packages. -/
theorem goal_filePath (root : Files.Path) :
    (d.filePath root).goal = ⟨root.goal.base, root.goal.names ++ d.fileParts⟩ := by
  rw [h.filePath_eq, Path.goal, Place.along_append, Place.along_of_names h.fileParts_ne_dots]
  rfl

end IsNamed

/-- The place of the file of a declaration. -/
def fileGoal (o : OutputOptions) (d : Declaration) : Place := (d.filePath o.rootPath).goal

/-- A declaration can be read back from its file. -/
def IsReadIn (o : OutputOptions) (d : Declaration) (t : FileTree) : Prop :=
  t.read (d.filePath o.rootPath) = .ok (d.fileText o.indent).toUTF8

variable {d d' : Declaration}

/-- Two declarations have the same file when they have the same path. -/
theorem filePath_inj (h : d.IsNamed) (h' : d'.IsNamed) (root : Files.Path) :
    d.filePath root = d'.filePath root ↔ d.path = d'.path := by
  rw [h.filePath_eq, h'.filePath_eq, Files.Path.mk.injEq, eq_self, true_and, List.append_right_inj,
    fileParts_inj]

/-- Two files lie at the same place when their declarations have the same path. -/
theorem fileGoal_inj (h : d.IsNamed) (h' : d'.IsNamed) (o : OutputOptions) :
    d.fileGoal o = d'.fileGoal o ↔ d.path = d'.path := by
  rw [fileGoal, fileGoal, h.goal_filePath, h'.goal_filePath, Place.mk.injEq, eq_self, true_and,
    List.append_right_inj, fileParts_inj]

end Declaration

/-! ## One declaration -/

variable {o : OutputOptions} {t : FileTree}

/-- A declaration that is not rejected is written if nothing is in the way of its file. -/
theorem emitOne_of_fault?_eq_none {d : Declaration} (hrejection : d.rejection? o = none)
    (h : (t.writeWithin (d.filePath o.rootPath) (d.fileText o.indent).toUTF8).fault? = none) :
    (emitOne o d t).outcome = .ok (d.filePath o.rootPath) ∧
      t.Wrote (d.filePath o.rootPath) (d.fileText o.indent).toUTF8 (emitOne o d t).tree := by
  rw [emitOne, hrejection]
  simp only
  rcases Effect.outcome_ofChanged (t.writeWithin (d.filePath o.rootPath)
    (d.fileText o.indent).toUTF8) with ⟨-, hok⟩ | ⟨f, hfault, -⟩
  · rw [(Effect.andThen_of_ok hok _).1, (Effect.andThen_of_ok hok _).2]
    rw [Effect.outcome_report_andThen, Effect.outcome_ok, Effect.tree_report_andThen,
      Effect.tree_ok, Effect.tree_ofChanged]
    exact ⟨rfl, FileTree.wrote_writeWithin h⟩
  · rw [h] at hfault
    cases hfault

/-- **What becomes of one declaration.** It is rejected and nothing changes, or its file cannot be
written, or its file and only it is written. -/
theorem emitOne_cases (o : OutputOptions) (d : Declaration) (t : FileTree) :
    (∃ f, d.rejection? o = some f ∧ emitOne o d t = .fail f t) ∨
    d.rejection? o = none ∧
      ((∃ f, (emitOne o d t).outcome = .error (.files f)) ∨
        (emitOne o d t).outcome = .ok (d.filePath o.rootPath) ∧
          t.Wrote (d.filePath o.rootPath) (d.fileText o.indent).toUTF8 (emitOne o d t).tree) := by
  cases hrejection : d.rejection? o with
  | some f =>
      rw [emitOne, hrejection]
      exact Or.inl ⟨f, rfl, rfl⟩
  | none =>
      refine Or.inr ⟨rfl, ?_⟩
      rcases Effect.outcome_ofChanged (t.writeWithin (d.filePath o.rootPath)
        (d.fileText o.indent).toUTF8) with ⟨hnone, -⟩ | ⟨f, -, herror⟩
      · exact Or.inr (emitOne_of_fault?_eq_none hrejection hnone)
      · rw [emitOne, hrejection]
        exact Or.inl ⟨f, (Effect.andThen_of_error herror _).1⟩

/-! ## All declarations -/

/-- A place is that of a directory around the file of one of some declarations. -/
def AroundFiles (o : OutputOptions) (ds : List Declaration) (q : Place) : Prop :=
  ∃ d ∈ ds, FileTree.Around (d.filePath o.rootPath).anchor
    (d.filePath o.rootPath).parent.parts.reverse q

/-- Some declarations have been written into their files. -/
structure Emitted (o : OutputOptions) (ds : List Declaration) (t t' : FileTree) : Prop where
  /-- No directory has gone away. -/
  directories : t.KeepsDirectories t'
  /-- Everything else is as it was, but for directories around the files. -/
  others : ∀ q, q ∉ ds.map (Declaration.fileGoal o) →
    FileTree.SameOrNew (AroundFiles o ds q) t t' q
  /-- Each declaration stands in its file, unless a later one has been written there. -/
  last : ∀ before d after, ds = before ++ d :: after →
    d.fileGoal o ∉ after.map (Declaration.fileGoal o) →
    t'.place (d.filePath o.rootPath) = .ok (d.fileGoal o) ∧
      t'.get? (d.fileGoal o) = some (.file (d.fileText o.indent).toUTF8)

namespace Emitted

variable {ds : List Declaration} {d : Declaration} {t' t'' : FileTree}

theorem nil (t : FileTree) : Emitted o [] t t := by
  refine ⟨fun q hq => hq, fun q _ => Or.inl rfl, ?_⟩
  intro before d after hnil
  exact absurd hnil (by simp)

/-- A declaration is written in front of the others, which find its file in the tree. -/
theorem cons (hwrote : t.Wrote (d.filePath o.rootPath) (d.fileText o.indent).toUTF8 t')
    (hemitted : Emitted o ds t' t'') : Emitted o (d :: ds) t t'' := by
  refine ⟨?_, ?_, ?_⟩
  · exact fun q hq => hemitted.directories q (hwrote.keepsDirectories q hq)
  · intro q hq
    rw [List.map_cons, List.mem_cons, not_or] at hq
    refine ((hwrote.others q hq.1).mono ?_).trans ((hemitted.others q hq.2).mono ?_)
    · exact fun haround => ⟨d, List.mem_cons_self, haround⟩
    · rintro ⟨d', hd', haround⟩
      exact ⟨d', List.mem_cons_of_mem d hd', haround⟩
  · intro before d' after hsplit hlast
    cases before with
    | nil =>
        -- The files of the later declarations are elsewhere.
        cases hsplit
        exact ⟨hemitted.directories.place hwrote.place,
          (hemitted.others _ hlast).get?_eq_some hwrote.file⟩
    | cons first before =>
        cases hsplit
        exact hemitted.last before d' after rfl hlast

end Emitted

/-- The position of the first declaration that is rejected, or the number of declarations if none
is. -/
def firstRejected (o : OutputOptions) (ds : List Declaration) : Nat :=
  ds.findIdx fun d => (d.rejection? o).isSome

theorem firstRejected_cons_of_rejected {d : Declaration} {f : Failure}
    (h : d.rejection? o = some f) (ds : List Declaration) : firstRejected o (d :: ds) = 0 := by
  rw [firstRejected, List.findIdx_cons, h]
  rfl

theorem firstRejected_cons_of_accepted {d : Declaration} (h : d.rejection? o = none)
    (ds : List Declaration) : firstRejected o (d :: ds) = firstRejected o ds + 1 := by
  rw [firstRejected, List.findIdx_cons, h]
  rfl

/-- After a declaration that is written, the others are. -/
theorem emitEach_cons_of_ok {d : Declaration} {path : Files.Path}
    (h : (emitOne o d t).outcome = .ok path) (ds : List Declaration) :
    (emitEach o (d :: ds) t).outcome =
        (emitEach o ds (emitOne o d t).tree).outcome.map (fun paths => path :: paths) ∧
      (emitEach o (d :: ds) t).tree = (emitEach o ds (emitOne o d t).tree).tree := by
  obtain ⟨houtcome, htree⟩ := Effect.andThen_of_ok h fun path t =>
    (emitEach o ds t).andThen fun paths t => .ok (path :: paths) t
  obtain ⟨hvalue, hkept⟩ := Effect.andThen_value (emitEach o ds (emitOne o d t).tree)
    fun paths => path :: paths
  rw [emitEach]
  exact ⟨houtcome.trans hvalue, htree.trans hkept⟩

/-- **What an emission writes.** If no operation on files fails, the declarations in front of the
first that is rejected are written. The outcome is that one's failure or, if there is none, the
paths of all files in order. -/
theorem emitEach_spec {ds : List Declaration}
    (h : ∀ f, (emitEach o ds t).outcome ≠ .error (.files f)) :
    Emitted o (ds.take (firstRejected o ds)) t (emitEach o ds t).tree ∧
      ((firstRejected o ds = ds.length ∧
          (emitEach o ds t).outcome = .ok (ds.map (Declaration.filePath o.rootPath))) ∨
        ∃ d f, ds[firstRejected o ds]? = some d ∧ d.rejection? o = some f ∧
          (emitEach o ds t).outcome = .error f) := by
  -- The induction is on the declarations; each finds the files that the ones before it left.
  induction ds generalizing t with
  | nil => exact ⟨Emitted.nil t, Or.inl ⟨rfl, rfl⟩⟩
  | cons d ds ih =>
      rcases emitOne_cases o d t with ⟨f, hrejected, hone⟩ | ⟨haccepted, ⟨f, hone⟩ | ⟨hone, hwrote⟩⟩
      · have hfail : (emitOne o d t).outcome = .error f := by rw [hone, Effect.fail]
        obtain ⟨houtcome, htree⟩ := Effect.andThen_of_error hfail fun path t =>
          (emitEach o ds t).andThen fun paths t => .ok (path :: paths) t
        rw [firstRejected_cons_of_rejected hrejected, emitEach, houtcome, htree, hone]
        exact ⟨Emitted.nil t, Or.inr ⟨d, f, rfl, hrejected, rfl⟩⟩
      · rw [emitEach] at h
        exact absurd (Effect.andThen_of_error hone _).1 (h f)
      · obtain ⟨houtcome, htree⟩ := emitEach_cons_of_ok hone ds
        have hrest : ∀ f, (emitEach o ds (emitOne o d t).tree).outcome ≠ .error (.files f) := by
          intro f hf
          rw [hf] at houtcome
          exact h f houtcome
        obtain ⟨hemitted, hends⟩ := ih hrest
        rw [firstRejected_cons_of_accepted haccepted, houtcome, htree]
        refine ⟨Emitted.cons hwrote hemitted, ?_⟩
        rcases hends with ⟨hall, hpaths⟩ | ⟨d', f, hd', hrejected, herror⟩
        · refine Or.inl ⟨?_, ?_⟩
          · rw [hall, List.length_cons]
          · rw [hpaths]
            rfl
        · refine Or.inr ⟨d', f, ?_, hrejected, ?_⟩
          · rw [List.getElem?_cons_succ, hd']
          · rw [herror]
            rfl

/-- Reporting the end of an emission changes neither its outcome nor the files. -/
theorem emit_eq_emitEach (o : OutputOptions) (ds : List Declaration) (t : FileTree) :
    (emit o ds t).outcome = (emitEach o ds t).outcome ∧
      (emit o ds t).tree = (emitEach o ds t).tree := by
  rw [emit]
  cases heach : (emitEach o ds t).outcome with
  | ok paths => exact Effect.andThen_of_ok heach _
  | error f => exact Effect.andThen_of_error heach _

/-- When all declarations have been written, the paths of their files are given in order, and each
declaration is found in its file. -/
theorem emit_eq_ok {ds : List Declaration} {paths : List Files.Path}
    (h : (emit o ds t).outcome = .ok paths) :
    paths = ds.map (Declaration.filePath o.rootPath) ∧ Emitted o ds t (emit o ds t).tree := by
  obtain ⟨houtcome, htree⟩ := emit_eq_emitEach o ds t
  rw [houtcome] at h
  have hfiles : ∀ f, (emitEach o ds t).outcome ≠ .error (.files f) := by
    intro f hf
    rw [hf] at h
    cases h
  obtain ⟨hemitted, hends⟩ := emitEach_spec hfiles
  rcases hends with ⟨hall, hpaths⟩ | ⟨d, f, -, -, herror⟩
  · rw [hpaths] at h
    cases h
    rw [hall, List.take_length] at hemitted
    exact ⟨rfl, htree ▸ hemitted⟩
  · rw [herror] at h
    cases h

/-- An emission fails when an operation on files does, or when a declaration is rejected. -/
theorem emit_eq_error {ds : List Declaration} {f : Failure}
    (h : (emit o ds t).outcome = .error f) :
    (∃ fault, f = .files fault) ∨ ∃ d ∈ ds, d.Rejected o f := by
  rw [(emit_eq_emitEach o ds t).1] at h
  by_cases hfiles : ∃ fault, f = .files fault
  · exact Or.inl hfiles
  · have hundisturbed : ∀ fault, (emitEach o ds t).outcome ≠ .error (.files fault) := by
      intro fault hfault
      rw [hfault] at h
      cases h
      exact hfiles ⟨fault, rfl⟩
    rcases (emitEach_spec hundisturbed).2 with ⟨-, hpaths⟩ | ⟨d, f', hd, hrejected, herror⟩
    · rw [hpaths] at h
      cases h
    · rw [herror] at h
      cases h
      exact Or.inr ⟨d, List.mem_of_getElem? hd, Declaration.rejection?_eq_some_iff.1 hrejected⟩

/-! ## Files that are read back -/

/-- What tells declarations apart on a page tells all of them apart. -/
theorem nodup_map_iff {α β : Type} {f : Declaration → α} {g : Declaration → β}
    {ds : List Declaration} (h : ∀ d ∈ ds, ∀ d' ∈ ds, f d = f d' ↔ g d = g d') :
    (ds.map f).Nodup ↔ (ds.map g).Nodup := by
  rw [List.Nodup, List.Nodup, List.pairwise_map, List.pairwise_map]
  exact List.Pairwise.iff_of_mem fun hd hd' => not_congr (h _ hd _ hd')

section

variable {o : OutputOptions} {ds : List Declaration} {t t' : FileTree}
  (hemitted : Emitted o ds t t') (hnames : ∀ d ∈ ds, d.IsNamed)
include hemitted hnames

/-- The last declaration of a path can be read back. -/
theorem Emitted.of_last {before after : List Declaration} {d : Declaration}
    (hsplit : ds = before ++ d :: after) (hpath : d.path ∉ after.map Declaration.path) :
    t'.place (d.filePath o.rootPath) = .ok (d.fileGoal o) ∧ d.IsReadIn o t' := by
  have hgoal : d.fileGoal o ∉ after.map (Declaration.fileGoal o) := by
    intro hmem
    obtain ⟨d', hd', hsame⟩ := List.mem_map.1 hmem
    have hd : d ∈ ds := by
      rw [hsplit]
      simp
    have hlater : d' ∈ ds := by
      rw [hsplit]
      simp [hd']
    rw [Declaration.fileGoal_inj (hnames d' hlater) (hnames d hd)] at hsame
    exact hpath (List.mem_map.2 ⟨d', hd', hsame⟩)
  obtain ⟨hplace, hfile⟩ := hemitted.last before d after hsplit hgoal
  exact ⟨hplace, FileTree.read_eq_ok hplace hfile⟩

/-- If no two declarations have one path, each of them can be read back. -/
theorem Emitted.of_nodup (hnodup : (ds.map Declaration.path).Nodup) : ∀ d ∈ ds,
    t'.place (d.filePath o.rootPath) = .ok (d.fileGoal o) ∧ d.IsReadIn o t' := by
  intro d hd
  obtain ⟨before, after, hsplit⟩ := List.append_of_mem hd
  refine hemitted.of_last hnames hsplit ?_
  rw [hsplit, List.map_append, List.map_cons] at hnodup
  exact (List.nodup_cons.1 (List.nodup_append.1 hnodup).2.1).1

end

/-! ## The whole emission -/

theorem firstRejected_le_length (o : OutputOptions) (ds : List Declaration) :
    firstRejected o ds ≤ ds.length :=
  List.findIdx_le_length

/-- No declaration in front of the first that is rejected is rejected. -/
theorem not_rejected_of_mem_take {ds : List Declaration} {d : Declaration}
    (hd : d ∈ ds.take (firstRejected o ds)) : ∀ f, ¬ d.Rejected o f := by
  obtain ⟨i, hi, rfl⟩ := List.mem_take_iff_getElem.1 hd
  rw [← Declaration.rejection?_eq_none_iff, ← Option.not_isSome_iff_eq_none, Bool.not_eq_true]
  simpa using List.not_of_lt_findIdx (lt_min_iff.1 hi).1

/-- **What an emission leaves.** If no operation on files fails, an emission writes exactly the
declarations in front of the first that is rejected: each stands in its file unless a later one has
been written there, directories may be new around these files, and all else is as it was. The
emission ends with the paths of the files in order, or with the failure of the rejected
declaration, of which and after which nothing is written. -/
theorem emitted_emit {ds : List Declaration} (h : ∀ f, (emit o ds t).outcome ≠ .error (.files f)) :
    ∃ k ≤ ds.length, (∀ d ∈ ds.take k, ∀ f, ¬ d.Rejected o f) ∧
      Emitted o (ds.take k) t (emit o ds t).tree ∧
      ((k = ds.length ∧
          (emit o ds t).outcome = .ok (ds.map (Declaration.filePath o.rootPath))) ∨
        ∃ d f, ds[k]? = some d ∧ d.Rejected o f ∧ (emit o ds t).outcome = .error f) := by
  obtain ⟨houtcome, htree⟩ := emit_eq_emitEach o ds t
  rw [houtcome] at h ⊢
  rw [htree]
  obtain ⟨hemitted, hends⟩ := emitEach_spec h
  refine ⟨firstRejected o ds, firstRejected_le_length o ds, fun d => not_rejected_of_mem_take,
    hemitted, hends.imp_right ?_⟩
  rintro ⟨d, f, hd, hrejected, herror⟩
  exact ⟨d, f, hd, Declaration.rejection?_eq_some_iff.1 hrejected, herror⟩

/-- A property of a declaration that has the type of any value. -/
def plainProperty (name : String) : Member := { name, kind := .property .any }

/-- Two declarations of one path, and one with two members of one name. -/
def overwritingRun : List Declaration :=
  [⟨["plugin"], "Plugin", []⟩, ⟨["plugin"], "Plugin", [plainProperty "version"]⟩,
    ⟨["region"], "Region", [plainProperty "a", plainProperty "a"]⟩]

/-- A tree with a file that an emission leaves alone and one that it writes over. -/
def writtenBefore : FileTree :=
  .ofFiles [("notes.txt", "kept".toUTF8), ("externs/plugin/Plugin.json", "old".toUTF8)]

theorem emitted_emit_overwriting :
    (∀ f, (emit {} overwritingRun writtenBefore).outcome ≠ .error (.files f)) ∧
    (∃ k ≤ overwritingRun.length, (∀ d ∈ overwritingRun.take k, ∀ f, ¬ d.Rejected {} f) ∧
      Emitted {} (overwritingRun.take k) writtenBefore
        (emit {} overwritingRun writtenBefore).tree ∧
      ((k = overwritingRun.length ∧ (emit {} overwritingRun writtenBefore).outcome =
          .ok (overwritingRun.map (Declaration.filePath ({} : OutputOptions).rootPath))) ∨
        ∃ d f, overwritingRun[k]? = some d ∧ d.Rejected {} f ∧
          (emit {} overwritingRun writtenBefore).outcome = .error f)) ∧
    (emit {} overwritingRun writtenBefore).outcome.mapError Failure.message =
      .error "region.Region: duplicate fields ['a']" ∧
    (emit {} overwritingRun writtenBefore).tree.files.map Prod.fst =
      ["notes.txt", "externs/plugin/Plugin.json"] := by
  have hfiles : ∀ f, (emit {} overwritingRun writtenBefore).outcome ≠ .error (.files f) :=
    Effect.fileFault?_eq_none_iff.1 (by decide +kernel)
  exact ⟨hfiles, emitted_emit hfiles, by decide +kernel, by decide +kernel⟩

end TypedReference

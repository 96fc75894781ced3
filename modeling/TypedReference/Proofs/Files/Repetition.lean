/-
# Writing again

A file that has been written can be written again, and what could not be written cannot be written
the next time either. The fault is the same then, unless directories had been made before it: the
second attempt finds them, and names the whole path instead of a part of it.
-/
import TypedReference.Proofs.Files.Making
import TypedReference.Proofs.Files.Shape

namespace TypedReference.Files

/-- How a fault of a path shows when the path leads on: what is there already is no directory then. -/
def FileCause.inside : FileCause → FileCause
  | .occupied => .notDirectory
  | cause => cause

namespace FileTree

variable {t t' t'' w : FileTree} {p : Path} {bytes : ByteArray}

/-! ## Faults that come back -/

/-- A way that ends early leads no further. -/
theorem walk_append (t : FileTree) (place : Place) (parts parts' : List String) :
    t.walk place (parts ++ parts') = (t.walk place parts).bind fun between => t.walk between parts' := by
  induction parts generalizing place with
  | nil => rfl
  | cons part parts ih =>
      rw [List.cons_append, walk, walk]
      split
      · rfl
      · rfl
      · split
        · rfl
        · split
          · exact ih place.up
          · split
            · exact ih place
            · exact ih (place.child part)

/-- A way never ends because something is there already. -/
theorem inside_of_walk_eq_error {place : Place} {parts : List String} {cause : FileCause}
    (h : t.walk place parts = .error cause) : cause.inside = cause := by
  induction parts generalizing place with
  | nil => cases h
  | cons part parts ih =>
      rw [walk] at h
      split at h
      · cases h
        rfl
      · cases h
        rfl
      · split at h
        · cases h
          rfl
        · split at h
          · exact ih h
          · split at h <;> exact ih h

/-- A directory cannot be made, and the one around it is there if it would have to be made first.
The parts stand innermost first. -/
structure Stuck (t : FileTree) (anchor : Anchor) (parts : List String) (f : FileFault) : Prop where
  /-- It cannot be made. -/
  fails : t.makeDirectory ⟨anchor, parts.reverse⟩ = .error f
  /-- It is not there. -/
  absent : t.isDirectory ⟨anchor, parts.reverse⟩ = false
  /-- The directory around it is not what is missing. -/
  around : f.cause = .missing → ∀ part outer, parts = part :: outer →
    t.isDirectory ⟨anchor, outer.reverse⟩ = true

section

variable {anchor : Anchor} {part : String} {parts outer : List String} {f : FileFault}

/-- A fault of a path carries the text of the path. -/
theorem path_of_makeDirectory (h : t.makeDirectory p = .error f) : f.path = p.text := by
  rw [makeDirectory] at h
  split at h
  · next f' hplace =>
    cases h
    rw [place, placeFrom] at hplace
    split at hplace
    · cases hplace
      rfl
    · cases hwalk : t.walk (.ofAnchor p.anchor) p.parts with
      | ok goal =>
          rw [hwalk] at hplace
          cases hplace
      | error cause =>
          rw [hwalk] at hplace
          cases hplace
          rfl
  · split at h
    · cases h
      rfl
    · split at h
      · cases h
      · cases h
        rfl

/-- A path at which something is missing is one that a path can be. -/
theorem textCause?_of_missing (h : t.makeDirectory p = .error f) (hcause : f.cause = .missing) :
    textCause? p.text = none := by
  rw [makeDirectory, place, placeFrom] at h
  cases htext : textCause? p.text with
  | none => rfl
  | some cause =>
      rw [htext] at h
      cases h
      have hmissing : textCause? p.text ≠ some .missing := by
        rw [textCause?]
        split
        · simp
        · split <;> simp
      exact absurd (htext.trans (congrArg some hcause)) hmissing

theorem ensureAt_of_not_missing
    (h : ∀ f, t.makeDirectory ⟨anchor, parts.reverse⟩ = .error f → f.cause ≠ .missing) :
    t.ensureAt anchor parts =
      t.settle ⟨anchor, parts.reverse⟩ (t.makeDirectory ⟨anchor, parts.reverse⟩) := by
  have hdirectory := ensureDirectory_of_not_missing h
  rwa [ensureDirectory, List.reverse_reverse] at hdirectory

theorem ensureAt_of_isDirectory (h : t.isDirectory ⟨anchor, parts.reverse⟩ = true) :
    t.ensureAt anchor parts = ⟨t, none⟩ := by
  have hdirectory := ensureDirectory_of_isDirectory h
  rwa [ensureDirectory, List.reverse_reverse] at hdirectory

/-- If the directory around it is missing, that one is made first. -/
theorem ensureAt_cons_of_missing
    (h : t.makeDirectory ⟨anchor, (part :: outer).reverse⟩ = .error f) (hcause : f.cause = .missing) :
    t.ensureAt anchor (part :: outer) =
      if (t.ensureAt anchor outer).fault?.isSome then t.ensureAt anchor outer
      else (t.ensureAt anchor outer).tree.settle ⟨anchor, (part :: outer).reverse⟩
        ((t.ensureAt anchor outer).tree.makeDirectory ⟨anchor, (part :: outer).reverse⟩) := by
  obtain ⟨cause, path⟩ := f
  simp only at hcause
  subst hcause
  rw [ensureAt]
  simp only [h]

/-- What is stuck stays stuck: the attempt to make a directory fails in the same way again. -/
theorem Stuck.ensureAt_self (h : Stuck w anchor parts f) : w.ensureAt anchor parts = ⟨w, some f⟩ := by
  have hsettle : w.settle ⟨anchor, parts.reverse⟩ (.error f) = ⟨w, some f⟩ := by
    rw [settle, h.absent]
    rfl
  by_cases hcause : f.cause = .missing
  · cases parts with
    | nil =>
        rw [ensureAt]
        exact (congrArg (w.settle _) h.fails).trans hsettle
    | cons part outer =>
        rw [ensureAt_cons_of_missing h.fails hcause,
          ensureAt_of_isDirectory (h.around hcause part outer rfl)]
        exact (congrArg (w.settle _) h.fails).trans hsettle
  · rw [ensureAt_of_not_missing, h.fails, hsettle]
    intro f' hf'
    rw [h.fails] at hf'
    cases hf'
    exact hcause

/-- A path that can be one leads where its parts lead. -/
theorem place_of_textCause? (h : textCause? p.text = none) : t.place p =
    (t.walk (.ofAnchor p.anchor) p.parts).mapError fun cause => ⟨cause, p.text⟩ := by
  rw [place, placeFrom, h]

/-- Where parts lead on from what cannot be made, they lead nowhere. -/
theorem Stuck.walk_inside (h : Stuck w anchor outer f)
    (htext : textCause? (Path.mk anchor outer.reverse).text = none) {more : List String}
    (hmore : more ≠ []) :
    w.walk (.ofAnchor anchor) (outer.reverse ++ more) = .error f.cause.inside := by
  obtain ⟨part, rest, rfl⟩ := List.exists_cons_of_ne_nil hmore
  have hplace := place_of_textCause? (t := w) htext
  have hfails := h.fails
  have habsent := h.absent
  rw [makeDirectory, hplace] at hfails
  rw [isDirectory, find?, hplace] at habsent
  rw [walk_append]
  cases hwalk : w.walk (.ofAnchor anchor) outer.reverse with
  | error cause =>
      rw [hwalk] at hfails
      cases hfails
      exact congrArg Except.error (inside_of_walk_eq_error hwalk).symm
  | ok place =>
      rw [hwalk] at hfails habsent
      simp only [Except.mapError] at hfails habsent
      show w.walk place (part :: rest) = _
      rw [walk]
      cases hentry : w.get? place with
      | none =>
          simp only [hentry, Option.isSome_none, Bool.false_eq_true, if_false] at hfails
          split at hfails
          · cases hfails
          · cases hfails
            rfl
      | some e =>
          simp only [hentry, Option.isSome_some, if_true] at hfails
          cases hfails
          cases e with
          | directory => simp [hentry] at habsent
          | file bytes => rfl

/-- What lies further inside cannot be made either. -/
theorem Stuck.makeDirectory_inside (h : Stuck w anchor outer f) (hway : outer <:+ parts)
    (hne : outer ≠ parts) (htext : textCause? (Path.mk anchor parts.reverse).text = none) :
    w.makeDirectory ⟨anchor, parts.reverse⟩ =
        .error ⟨f.cause.inside, (Path.mk anchor parts.reverse).text⟩ ∧
      w.isDirectory ⟨anchor, parts.reverse⟩ = false := by
  have hprefix : outer.reverse <+: parts.reverse := List.reverse_prefix.2 hway
  obtain ⟨more, hmore⟩ := hprefix
  have hmorene : more ≠ [] := by
    rintro rfl
    rw [List.append_nil, List.reverse_inj] at hmore
    exact hne hmore
  have houter := textCause?_text_of_outer (List.reverse_prefix.2 hway) htext
  have hplace : w.place ⟨anchor, parts.reverse⟩ =
      .error ⟨f.cause.inside, (Path.mk anchor parts.reverse).text⟩ := by
    rw [place_of_textCause? htext]
    show (w.walk (.ofAnchor anchor) parts.reverse).mapError _ = _
    rw [← hmore, h.walk_inside houter hmorene]
    rfl
  constructor
  · rw [makeDirectory, hplace]
  · rw [isDirectory, find?, hplace]

/-- **What comes back.** If a directory around some parts cannot be made, neither can that at the
parts. If something is missing the fault is that of the one around; else it is a fault of the whole
path. -/
theorem Stuck.ensureAt_inside (h : Stuck w anchor outer f) (hway : outer <:+ parts)
    (hne : outer ≠ parts) (htext : textCause? (Path.mk anchor parts.reverse).text = none) :
    w.ensureAt anchor parts = ⟨w, some (if f.cause = .missing then f
      else ⟨f.cause.inside, (Path.mk anchor parts.reverse).text⟩)⟩ := by
  -- The induction is on the parts; only a missing directory leads the attempt outwards.
  induction parts with
  | nil => exact absurd (List.suffix_nil.1 hway) hne
  | cons part around ih =>
      obtain ⟨hmake, habsent⟩ := h.makeDirectory_inside hway hne htext
      have haround : outer <:+ around := (List.suffix_cons_iff.1 hway).resolve_left hne
      by_cases hcause : f.cause = .missing
      · have hinside : f.cause.inside = .missing := by
          rw [hcause]
          rfl
        have hagain : w.ensureAt anchor around = ⟨w, some f⟩ := by
          by_cases hlast : outer = around
          · exact (hlast ▸ h).ensureAt_self
          · have houter := textCause?_text_of_outer
              (List.reverse_prefix.2 (List.suffix_cons part around)) htext
            rw [ih haround hlast houter, if_pos hcause]
        rw [ensureAt_cons_of_missing hmake hinside, hagain, if_pos hcause]
        rfl
      · have hinside : f.cause.inside ≠ .missing := by
          cases hf : f.cause <;> simp_all [FileCause.inside]
        rw [ensureAt_of_not_missing, hmake, settle, habsent, if_neg hcause]
        · rfl
        · intro f' hf'
          rw [hmake] at hf'
          cases hf'
          exact hinside

/-- An attempt that has failed has changed nothing, and the directory is not there. -/
theorem settle_eq_some (h : (t.settle p (t.makeDirectory p)).fault? = some f) :
    t.makeDirectory p = .error f ∧ t.isDirectory p = false ∧
      (t.settle p (t.makeDirectory p)).tree = t := by
  unfold settle at h ⊢
  split at h
  · cases h
  · next f' hmake =>
    split at h
    · cases h
    · next habsent =>
      cases h
      rw [Bool.not_eq_true] at habsent
      rw [habsent]
      exact ⟨hmake, rfl, rfl⟩

/-- If a directory has not been made, it is stuck or one around it is. -/
theorem exists_stuck (h : (t.ensureAt anchor parts).fault? = some f) :
    ∃ outer, outer <:+ parts ∧ Stuck (t.ensureAt anchor parts).tree anchor outer f ∧
      (outer = parts ∨ textCause? (Path.mk anchor parts.reverse).text = none) := by
  -- The induction is on the parts; the attempt goes outwards as long as something is missing.
  induction parts with
  | nil =>
      rw [ensureAt] at h ⊢
      obtain ⟨hmake, habsent, htree⟩ := settle_eq_some h
      rw [htree]
      exact ⟨[], List.suffix_refl _, ⟨hmake, habsent, fun _ _ _ hnil => by cases hnil⟩, Or.inl rfl⟩
  | cons part around ih =>
      by_cases hmissing : ∃ f', t.makeDirectory ⟨anchor, (part :: around).reverse⟩ = .error f' ∧
          f'.cause = .missing
      · obtain ⟨f', hmake', hcause⟩ := hmissing
        rw [ensureAt_cons_of_missing hmake' hcause] at h ⊢
        split at h
        · next hfault =>
          rw [if_pos hfault]
          obtain ⟨outer, hway, hstuck, -⟩ := ih h
          exact ⟨outer, hway.trans (List.suffix_cons part around), hstuck,
            Or.inr (textCause?_of_missing hmake' hcause)⟩
        · next hnone =>
          rw [if_neg hnone]
          rw [Option.not_isSome_iff_eq_none] at hnone
          obtain ⟨hmake, habsent, htree⟩ := settle_eq_some h
          have hthere := (ensureAt_spec t anchor around).2 hnone
          rw [htree]
          refine ⟨_, List.suffix_refl _, ⟨hmake, habsent, ?_⟩, Or.inl rfl⟩
          rintro - part' outer' hparts
          cases hparts
          exact hthere
      · have hother : ∀ f', t.makeDirectory ⟨anchor, (part :: around).reverse⟩ = .error f' →
            f'.cause ≠ .missing := fun f' hf' hcause => hmissing ⟨f', hf', hcause⟩
        rw [ensureAt_of_not_missing hother] at h ⊢
        obtain ⟨hmake, habsent, htree⟩ := settle_eq_some h
        rw [htree]
        exact ⟨_, List.suffix_refl _,
          ⟨hmake, habsent, fun hcause => absurd hcause (hother f hmake)⟩, Or.inl rfl⟩

/-- What is stuck in one tree is stuck in those of its shape. -/
theorem Stuck.of_sameShape (h : Stuck t anchor parts f) (hshape : SameShape t w) :
    Stuck w anchor parts f := by
  refine ⟨(hshape.makeDirectory _).eq_error h.fails, ?_, ?_⟩
  · rw [← hshape.isDirectory, h.absent]
  · intro hcause part outer hparts
    rw [← hshape.isDirectory]
    exact h.around hcause part outer hparts

end

/-- Making a directory has failed half-way: others had been made around it, and the fault is that of
one of them. The next attempt finds them there and fails for the whole path. -/
structure Halfway (t t' : FileTree) (p : Path) (f f' : FileFault) : Prop where
  /-- The first fault is that of a directory around the path. -/
  outer : ∃ parts, parts <+: p.parts ∧ parts ≠ p.parts ∧ f.path = (Path.mk p.anchor parts).text
  /-- A directory had been made. -/
  made : ∃ q, Around p.anchor p.parts.reverse q ∧ t.get? q = none ∧ t'.get? q = some .directory
  /-- The second fault is that of the whole path. -/
  again : f' = ⟨f.cause.inside, p.text⟩

/-- A directory that could not be made cannot be made again. The fault is the same unless making it
had failed half-way. -/
theorem ensureDirectory_again {f : FileFault} (h : (t.ensureDirectory p).fault? = some f)
    (hw : SameShape (t.ensureDirectory p).tree w) :
    ∃ f', w.ensureDirectory p = ⟨w, some f'⟩ ∧
      (f' = f ∨ Halfway t (t.ensureDirectory p).tree p f f') := by
  have hpath : Path.mk p.anchor p.parts.reverse.reverse = p := by rw [List.reverse_reverse]
  obtain ⟨outer, hway, hstuck, htext⟩ := exists_stuck h
  have hstuck' := hstuck.of_sameShape hw
  by_cases hwhole : outer = p.parts.reverse
  · exact ⟨f, (hwhole ▸ hstuck').ensureAt_self, Or.inl rfl⟩
  · have hagain := hstuck'.ensureAt_inside hway hwhole (htext.resolve_left hwhole)
    refine ⟨_, hagain, ?_⟩
    by_cases hcause : f.cause = .missing
    · exact Or.inl (if_pos hcause)
    · rw [if_neg hcause] at hagain ⊢
      by_cases hsame : SameShape t (t.ensureDirectory p).tree
      · -- Nothing had been made, so the second attempt goes like the first.
        have hfault := ((hsame.trans hw).ensureAt p.anchor p.parts.reverse).fault
        rw [hagain] at hfault
        exact Or.inl (Option.some.inj (hfault.symm.trans h))
      · obtain ⟨q, hq⟩ := not_forall.1 hsame
        refine Or.inr ⟨⟨outer.reverse, ?_, ?_, path_of_makeDirectory hstuck.fails⟩, ⟨q, ?_⟩, ?_⟩
        · rw [← List.reverse_suffix, List.reverse_reverse]
          exact hway
        · rintro hparts
          rw [← hparts, List.reverse_reverse] at hwhole
          exact hwhole rfl
        · rcases (ensureAt_spec t p.anchor p.parts.reverse).1 q with hkept | ⟨haround, hnone, hnew⟩
          · exact absurd (congrArg (Option.map Entry.isDirectory) hkept.symm) hq
          · exact ⟨haround, hnone, hnew⟩
        · rw [hpath]

/-! ## Trees that grow -/

/-- What stands in the first tree stands in the second, if with other bytes. -/
def Grows (t t' : FileTree) : Prop := ∀ q, t.get? q ≠ none → t'.kind? q = t.kind? q

namespace Grows

theorem ne_none (h : Grows t t') {q : Place} (hq : t.get? q ≠ none) : t'.get? q ≠ none := by
  rw [Ne, ← kind?_eq_none_iff, h q hq, kind?_eq_none_iff]
  exact hq

theorem trans (h : Grows t t') (h' : Grows t' t'') : Grows t t'' := by
  intro q hq
  rw [h' q (h.ne_none hq), h q hq]

theorem of_sameShape (h : Grows t t') (hw : SameShape t' w) : Grows t w :=
  fun q hq => (hw q).symm.trans (h q hq)

theorem keepsDirectories (h : Grows t t') : t.KeepsDirectories t' := by
  intro q hq
  rw [← kind?_eq_directory_iff, h q (by simp [hq]), kind?_eq_directory_iff, hq]

theorem isDirectory (h : Grows t t') (hp : t.isDirectory p = true) : t'.isDirectory p = true := by
  obtain ⟨hplace, hthere⟩ := isDirectory_eq_true_iff.1 hp
  exact isDirectory_eq_true_iff.2
    ⟨h.keepsDirectories.place hplace, h.keepsDirectories _ hthere⟩

end Grows

/-- What is there and is no directory is a file. -/
theorem kind?_of_free {q : Place} (hfree : t.get? q ≠ some .directory) (hq : t.get? q ≠ none) :
    t.kind? q = some false := by
  obtain ⟨e, he⟩ := Option.ne_none_iff_exists'.1 hq
  cases e with
  | directory => exact absurd he hfree
  | file bytes =>
      rw [kind?, he]
      rfl

theorem kind?_of_file {q : Place} (h : t.get? q = some (.file bytes)) : t.kind? q = some false := by
  rw [kind?, h]
  rfl

/-- A change that touches one file leaves everything else of its kind. -/
theorem Touches.grows (h : Touches p t t') : Grows t t' := by
  intro q hq
  rcases h q with (hsame | ⟨-, hnone, -⟩) | ⟨-, hfree, bytes, hfile⟩
  · rw [kind?, kind?, hsame]
  · exact absurd hnone hq
  · rw [kind?_of_file hfile, kind?_of_free hfree hq]

/-- Writing a file leaves everything of its kind. -/
theorem grows_write (h : t.write p bytes = .ok t') : Grows t t' := by
  obtain ⟨-, hfree, hfile, hothers⟩ := write_eq_ok h
  intro q hq
  by_cases hgoal : q = p.goal
  · subst hgoal
    rw [kind?_of_file hfile, kind?_of_free hfree hq]
  · rw [kind?, kind?, hothers q hgoal]

/-! ## Files that are written again -/

/-- What is made later is no less made. -/
theorem Halfway.of_grows {f f' : FileFault} (h : Halfway t' t'' p f f') (hgrows : Grows t t') :
    Halfway t t'' p f f' := by
  obtain ⟨q, haround, hnone, hnew⟩ := h.made
  refine ⟨h.outer, ⟨q, haround, ?_, hnew⟩, h.again⟩
  by_contra hsome
  have hkind := hgrows q hsome
  rw [kind?_eq_none_iff.2 hnone, eq_comm, kind?_eq_none_iff] at hkind
  exact hsome hkind

/-- A file that could not be written cannot be written again. The fault is the same unless making
its directory had failed half-way. -/
theorem writeWithin_again {f : FileFault} (h : (t.writeWithin p bytes).fault? = some f)
    (hw : SameShape (t.writeWithin p bytes).tree w) :
    ∃ f', w.writeWithin p bytes = ⟨w, some f'⟩ ∧
      (f' = f ∨ Halfway t (t.writeWithin p bytes).tree p.parent f f') := by
  cases hmade : (t.ensureDirectory p.parent).fault? with
  | some f₀ =>
      have hsame : t.writeWithin p bytes = t.ensureDirectory p.parent := by
        rw [writeWithin, hmade]
        rfl
      rw [hsame] at h hw ⊢
      obtain ⟨f', hagain, hf'⟩ := ensureDirectory_again h hw
      refine ⟨f', ?_, hf'⟩
      rw [writeWithin, hagain]
      rfl
  | none =>
      rw [writeWithin, hmade] at h hw
      simp only [Option.isSome_none, Bool.false_eq_true, if_false] at h hw
      split at h
      · cases h
      · next f₀ hwrite =>
        cases h
        rw [hwrite] at hw
        have hthere : w.isDirectory p.parent = true := by
          rw [← hw.isDirectory]
          exact isDirectory_ensureDirectory hmade
        refine ⟨f, ?_, Or.inl rfl⟩
        rw [writeWithin, ensureDirectory_of_isDirectory hthere]
        simp only [(hw.write p bytes bytes).eq_error hwrite]
        rfl

/-- What has been written lies in a directory. -/
theorem isSome_up_of_write (h : t.write p bytes = .ok t') : (t.get? p.goal.up).isSome = true := by
  obtain ⟨hplace, hfree, -⟩ := write_eq_ok h
  rw [write_of_free hplace hfree] at h
  split at h
  · next hup => exact hup
  · cases h

/-- A file that has been written can be written again, and nothing else changes. -/
theorem writeWithin_of_written (h : (t.writeWithin p bytes).fault? = none)
    (hgrows : Grows (t.writeWithin p bytes).tree w) :
    w.writeWithin p bytes = ⟨w.put p.goal (.file bytes), none⟩ := by
  rcases writeWithin_cases t p bytes with ⟨hfault, -⟩ | ⟨-, hmade, hwrite⟩
  · exact absurd h hfault
  · have hwrote := wrote_writeWithin h
    have haround : Grows (t.ensureDirectory p.parent).tree w := (grows_write hwrite).trans hgrows
    have hparent : w.isDirectory p.parent = true :=
      haround.isDirectory (isDirectory_ensureDirectory hmade)
    have hplace : w.place p = .ok p.goal := hgrows.keepsDirectories.place hwrote.place
    have hfree : w.get? p.goal ≠ some .directory := by
      rw [Ne, ← kind?_eq_directory_iff, hgrows _ (by simp [hwrote.file]), kind?_of_file hwrote.file]
      simp
    have hup : (w.get? p.goal.up).isSome = true := by
      have hfirst := Option.isSome_iff_ne_none.1 (isSome_up_of_write hwrite)
      exact Option.isSome_iff_ne_none.2 (haround.ne_none hfirst)
    rw [writeWithin, ensureDirectory_of_isDirectory hparent]
    simp only [write_of_free hplace hfree, hup, if_true]
    rfl

end FileTree

end TypedReference.Files

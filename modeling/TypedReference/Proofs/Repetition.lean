/-
# Emitting again

An emission that is repeated over the files that it has left writes the same bytes into the same
files, also when it has ended with a failure. It ends as it did before, unless a directory could be
made only half-way: then it fails at the same declaration, for the whole directory.
-/
import TypedReference.Proofs.Emission
import TypedReference.Proofs.Files.Repetition

namespace TypedReference

open Files FileTree

variable {o : OutputOptions} {d : Declaration} {ds : List Declaration} {t t' w : FileTree}

/-! ## What an emission writes -/

/-- The paths of the files that an emission writes before it ends. -/
def emittedPaths (o : OutputOptions) : List Declaration → FileTree → List Files.Path
  | [], _ => []
  | d :: ds, t =>
    match (emitOne o d t).outcome with
    | .ok path => path :: emittedPaths o ds (emitOne o d t).tree
    | .error _ => []

/-- Only files of the declarations are written. -/
theorem exists_of_mem_emittedPaths {path : Files.Path} (h : path ∈ emittedPaths o ds t) :
    ∃ d ∈ ds, path = d.filePath o.rootPath := by
  induction ds generalizing t with
  | nil => exact absurd h List.not_mem_nil
  | cons d ds ih =>
      rw [emittedPaths] at h
      rcases emitOne_cases o d t with ⟨f, -, hone⟩ | ⟨-, ⟨f, hone⟩ | ⟨hone, -⟩⟩
      · rw [hone] at h
        exact absurd h List.not_mem_nil
      · rw [hone] at h
        exact absurd h List.not_mem_nil
      · rw [hone] at h
        rcases List.mem_cons.1 h with rfl | hlater
        · exact ⟨d, List.mem_cons_self, rfl⟩
        · obtain ⟨d', hd', hpath⟩ := ih hlater
          exact ⟨d', List.mem_cons_of_mem d hd', hpath⟩

/-- A declaration that is not rejected comes to what writing its file comes to. -/
theorem emitOne_of_accepted (h : d.rejection? o = none) (t : FileTree) :
    (emitOne o d t).tree =
        (t.writeWithin (d.filePath o.rootPath) (d.fileText o.indent).toUTF8).tree ∧
      (emitOne o d t).outcome =
        match (t.writeWithin (d.filePath o.rootPath) (d.fileText o.indent).toUTF8).fault? with
        | none => .ok (d.filePath o.rootPath)
        | some f => .error (.files f) := by
  rw [emitOne, h]
  simp only
  rcases Effect.outcome_ofChanged (t.writeWithin (d.filePath o.rootPath)
    (d.fileText o.indent).toUTF8) with ⟨hnone, hok⟩ | ⟨f, hfault, herror⟩
  · rw [(Effect.andThen_of_ok hok _).1, (Effect.andThen_of_ok hok _).2, hnone,
      Effect.outcome_report_andThen, Effect.outcome_ok, Effect.tree_report_andThen, Effect.tree_ok,
      Effect.tree_ofChanged]
    exact ⟨rfl, rfl⟩
  · rw [(Effect.andThen_of_error herror _).1, (Effect.andThen_of_error herror _).2, hfault,
      Effect.tree_ofChanged]
    exact ⟨rfl, rfl⟩

/-- A declaration that fails ends the emission. -/
theorem emitEach_cons_of_error {f : Failure} (h : (emitOne o d t).outcome = .error f)
    (ds : List Declaration) : (emitEach o (d :: ds) t).outcome = .error f ∧
      (emitEach o (d :: ds) t).tree = (emitOne o d t).tree ∧ emittedPaths o (d :: ds) t = [] := by
  rw [emitEach, emittedPaths, h]
  exact ⟨(Effect.andThen_of_error h _).1, (Effect.andThen_of_error h _).2, rfl⟩

/-- A declaration touches its own file only. -/
theorem touches_emitOne (o : OutputOptions) (d : Declaration) (t : FileTree) :
    t.Touches (d.filePath o.rootPath) (emitOne o d t).tree := by
  cases hrejection : d.rejection? o with
  | some f =>
      rw [emitOne, hrejection]
      exact .refl _ t
  | none =>
      rw [(emitOne_of_accepted hrejection t).1]
      exact touches_writeWithin t _ _

/-- Nothing goes away in an emission, and nothing becomes of another kind. -/
theorem grows_emitEach (o : OutputOptions) (ds : List Declaration) (t : FileTree) :
    Grows t (emitEach o ds t).tree := by
  induction ds generalizing t with
  | nil => exact fun _ _ => rfl
  | cons d ds ih =>
      have hone := (touches_emitOne o d t).grows
      cases houtcome : (emitOne o d t).outcome with
      | ok path =>
          rw [(emitEach_cons_of_ok houtcome ds).2]
          exact hone.trans (ih _)
      | error f =>
          rw [(emitEach_cons_of_error houtcome ds).2.1]
          exact hone

/-- A declaration that is written leaves everything but its file, and one that fails leaves
everything. -/
theorem get?_emitOne {q : Place} {e : Entry} (he : t.get? q = some e)
    (hq : ∀ path, (emitOne o d t).outcome = .ok path → q ≠ path.goal) :
    (emitOne o d t).tree.get? q = some e := by
  cases hrejection : d.rejection? o with
  | some f =>
      rw [emitOne, hrejection]
      exact he
  | none =>
      obtain ⟨htree, houtcome⟩ := emitOne_of_accepted hrejection t
      rw [htree]
      cases hfault : (t.writeWithin (d.filePath o.rootPath) (d.fileText o.indent).toUTF8).fault? with
      | none =>
          rw [hfault] at houtcome
          exact ((wrote_writeWithin hfault).others q (hq _ houtcome)).get?_eq_some he
      | some f =>
          rcases writeWithin_cases t (d.filePath o.rootPath) (d.fileText o.indent).toUTF8 with
            ⟨-, hkept⟩ | ⟨hnone, -⟩
          · rw [hkept]
            exact (sameOrNew_ensureParent t _ q).get?_eq_some he
          · rw [hnone] at hfault
            cases hfault

/-- What is not written over stays as it is. -/
theorem get?_emitEach {q : Place} {e : Entry} (he : t.get? q = some e)
    (hq : q ∉ (emittedPaths o ds t).map Files.Path.goal) :
    (emitEach o ds t).tree.get? q = some e := by
  induction ds generalizing t with
  | nil => exact he
  | cons d ds ih =>
      cases houtcome : (emitOne o d t).outcome with
      | error f =>
          rw [(emitEach_cons_of_error houtcome ds).2.1]
          exact get?_emitOne he (by simp [houtcome])
      | ok path =>
          rw [emittedPaths, houtcome, List.map_cons, List.mem_cons, not_or] at hq
          rw [(emitEach_cons_of_ok houtcome ds).2]
          refine ih (get?_emitOne he ?_) hq.2
          intro path' hpath'
          rw [houtcome] at hpath'
          cases hpath'
          exact hq.1

/-! ## The same emission again -/

/-- A repetition ends as the first time, or both times the directory of a declaration cannot be
made, the first time half-way. -/
def EndsAgain {α : Type} (o : OutputOptions) (ds : List Declaration) (t t' : FileTree)
    (first second : Except Failure α) : Prop :=
  second = first ∨ ∃ d ∈ ds, ∃ f f', first = .error (.files f) ∧ second = .error (.files f') ∧
    Halfway t t' (d.filePath o.rootPath).parent f f'

namespace EndsAgain

variable {α β : Type} {first second : Except Failure α}

/-- Changing the value of an end leaves it the end that it is. -/
theorem map (h : EndsAgain o ds t t' first second) (g : α → β) :
    EndsAgain o ds t t' (first.map g) (second.map g) := by
  rcases h with rfl | ⟨d, hd, f, f', rfl, rfl, hhalfway⟩
  · exact Or.inl rfl
  · exact Or.inr ⟨d, hd, f, f', rfl, rfl, hhalfway⟩

/-- What ends the emission of some declarations ends that with another in front. -/
theorem cons {t₀ : FileTree} (h : EndsAgain o ds t t' first second) (hgrows : Grows t₀ t)
    (d : Declaration) : EndsAgain o (d :: ds) t₀ t' first second := by
  rcases h with rfl | ⟨d', hd', f, f', hfirst, hsecond, hhalfway⟩
  · exact Or.inl rfl
  · exact Or.inr ⟨d', List.mem_cons_of_mem d hd', f, f', hfirst, hsecond, hhalfway.of_grows hgrows⟩

end EndsAgain

/-- What a repeated emission does to a tree that differs from the one it has left at most in the
bytes of files: it writes the files that were written as they were, and nothing else. -/
structure Repeats (o : OutputOptions) (ds : List Declaration) (t w : FileTree) : Prop where
  /-- The files are written as they were. -/
  written : ∀ q ∈ (emittedPaths o ds t).map Files.Path.goal,
    (emitEach o ds w).tree.get? q = (emitEach o ds t).tree.get? q
  /-- Nothing else changes. -/
  others : ∀ q, q ∉ (emittedPaths o ds t).map Files.Path.goal →
    (emitEach o ds w).tree.get? q = w.get? q
  /-- The end is the same, or that of a directory that was made half-way. -/
  ends : EndsAgain o ds t (emitEach o ds t).tree (emitEach o ds t).outcome (emitEach o ds w).outcome

/-- A declaration that has failed fails again. -/
theorem emitOne_again {f : Failure} (h : (emitOne o d t).outcome = .error f)
    (hw : SameShape (emitOne o d t).tree w) :
    ∃ f', (emitOne o d w).outcome = .error f' ∧ (emitOne o d w).tree = w ∧
      (f' = f ∨ ∃ g g', f = .files g ∧ f' = .files g' ∧
        Halfway t (emitOne o d t).tree (d.filePath o.rootPath).parent g g') := by
  cases hrejection : d.rejection? o with
  | some f₀ =>
      rw [emitOne, hrejection] at h ⊢
      exact ⟨f, h, rfl, Or.inl rfl⟩
  | none =>
      obtain ⟨htree, houtcome⟩ := emitOne_of_accepted hrejection t
      obtain ⟨htree', houtcome'⟩ := emitOne_of_accepted hrejection w
      rw [htree] at hw ⊢
      rw [houtcome] at h
      split at h
      · cases h
      · next g hfault =>
        cases h
        obtain ⟨g', hagain, hg'⟩ := writeWithin_again hfault hw
        rw [hagain] at htree' houtcome'
        refine ⟨_, houtcome', htree', ?_⟩
        rcases hg' with rfl | hhalfway
        · exact Or.inl rfl
        · exact Or.inr ⟨g, g', rfl, rfl, hhalfway⟩

/-- A declaration that has been written is written again, and nothing else changes. -/
theorem emitOne_of_written {path : Files.Path} (h : (emitOne o d t).outcome = .ok path)
    (hgrows : Grows (emitOne o d t).tree w) :
    (emitOne o d w).outcome = .ok path ∧
      (∃ e, (emitOne o d t).tree.get? path.goal = some e ∧
        (emitOne o d w).tree.get? path.goal = some e) ∧
      (∀ q, q ≠ path.goal → (emitOne o d w).tree.get? q = w.get? q) ∧
      SameShape w (emitOne o d w).tree := by
  cases hrejection : d.rejection? o with
  | some f₀ =>
      rw [emitOne, hrejection] at h
      cases h
  | none =>
      obtain ⟨htree, houtcome⟩ := emitOne_of_accepted hrejection t
      obtain ⟨htree', houtcome'⟩ := emitOne_of_accepted hrejection w
      rw [htree] at hgrows ⊢
      rw [houtcome] at h
      split at h
      · next hfault =>
        cases h
        have hfile := (wrote_writeWithin hfault).file
        have hagain := writeWithin_of_written hfault hgrows
        rw [hagain] at htree' houtcome'
        have hnames : (d.filePath o.rootPath).goal.names ≠ [] :=
          names_ne_nil_of_get? (by rw [hfile]; simp)
        rw [htree']
        refine ⟨houtcome', ⟨_, hfile, get?_put_self hnames⟩, fun q hq => get?_put_of_ne hq, ?_⟩
        intro q
        by_cases hq : q = (d.filePath o.rootPath).goal
        · rw [hq, hgrows _ (by rw [hfile]; simp), kind?_of_file hfile,
            kind?_of_file (get?_put_self hnames)]
        · rw [kind?, kind?, get?_put_of_ne hq]
      · cases h

/-- **Emitting again.** An emission repeats over every tree that differs from the one it has left at
most in the bytes of files. -/
theorem repeats_emitEach (hw : SameShape (emitEach o ds t).tree w) : Repeats o ds t w := by
  -- The induction is on the declarations; the tree to be written to keeps its shape all along.
  induction ds generalizing t w with
  | nil => exact ⟨by simp [emittedPaths], fun _ _ => rfl, Or.inl rfl⟩
  | cons d ds ih =>
      cases houtcome : (emitOne o d t).outcome with
      | error f =>
          obtain ⟨hend, htree, hpaths⟩ := emitEach_cons_of_error houtcome ds
          rw [htree] at hw
          obtain ⟨f', hagain, hkept, hf'⟩ := emitOne_again houtcome hw
          obtain ⟨hend', htree', -⟩ := emitEach_cons_of_error hagain ds
          refine ⟨by simp [hpaths], fun q _ => by rw [htree', hkept], ?_⟩
          rw [hend, hend', htree]
          rcases hf' with rfl | ⟨g, g', rfl, rfl, hhalfway⟩
          · exact Or.inl rfl
          · exact Or.inr ⟨d, List.mem_cons_self, g, g', rfl, rfl, hhalfway⟩
      | ok path =>
          obtain ⟨hend, htree⟩ := emitEach_cons_of_ok houtcome ds
          rw [htree] at hw
          obtain ⟨hagain, ⟨e, hfile, hfile'⟩, hothers, hshape⟩ :=
            emitOne_of_written houtcome ((grows_emitEach o ds _).of_sameShape hw)
          obtain ⟨hend', htree'⟩ := emitEach_cons_of_ok hagain ds
          have hrest := ih (hw.trans hshape)
          have hpaths : (emittedPaths o (d :: ds) t).map Files.Path.goal =
              path.goal :: (emittedPaths o ds (emitOne o d t).tree).map Files.Path.goal := by
            rw [emittedPaths, houtcome, List.map_cons]
          refine ⟨?_, ?_, ?_⟩
          · intro q hq
            rw [htree, htree']
            by_cases hlater : q ∈ (emittedPaths o ds (emitOne o d t).tree).map Files.Path.goal
            · exact hrest.written q hlater
            · -- No later declaration is written there, the first time or again.
              rw [hpaths, List.mem_cons] at hq
              obtain rfl := hq.resolve_right hlater
              rw [hrest.others _ hlater, hfile', get?_emitEach hfile hlater]
          · intro q hq
            rw [hpaths, List.mem_cons, not_or] at hq
            rw [htree', hrest.others q hq.2, hothers q hq.1]
          · rw [hend, hend', htree]
            exact (hrest.ends.cons (touches_emitOne o d t).grows d).map _

/-- An emission that is repeated at once leaves everything as it is. -/
theorem emit_again (o : OutputOptions) (ds : List Declaration) (t : FileTree) :
    (∀ q, (emit o ds (emit o ds t).tree).tree.get? q = (emit o ds t).tree.get? q) ∧
      EndsAgain o ds t (emit o ds t).tree (emit o ds t).outcome
        (emit o ds (emit o ds t).tree).outcome := by
  obtain ⟨houtcome, htree⟩ := emit_eq_emitEach o ds t
  obtain ⟨houtcome', htree'⟩ := emit_eq_emitEach o ds (emit o ds t).tree
  rw [htree', houtcome', houtcome, htree]
  have hrepeats := repeats_emitEach (SameShape.refl (emitEach o ds t).tree)
  refine ⟨fun q => ?_, hrepeats.ends⟩
  by_cases hq : q ∈ (emittedPaths o ds t).map Files.Path.goal
  · exact hrepeats.written q hq
  · exact hrepeats.others q hq

end TypedReference

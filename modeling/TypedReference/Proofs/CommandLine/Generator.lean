/-
# What a run of the generator changes

Nothing is written for a page until it has been read to its end. A run that prints the sections, or
that ends before its declarations are complete, changes at most the file that keeps the page and
directories around that file.
-/
import TypedReference.CommandLine.Generator
import TypedReference.Proofs.Emission
import TypedReference.Proofs.Retrieval

namespace TypedReference.CommandLine.Generator

open Files

variable {s : Settings} {network : Request → Reply} {t : FileTree}

/-! ## The work of a run -/

/-- What the work of a run can come to, and the files afterwards. -/
inductive Worked (s : Settings) (network : Request → Reply) (t : FileTree) :
    Except Failure String → FileTree → Prop where
  /-- The option for the cache was left without a value. -/
  | cacheless (missing : s.fetchOptions? = none) : Worked s network t (.error .noPath) t
  /-- The page cannot be fetched. -/
  | unfetched (o : FetchOptions) (options : s.fetchOptions? = some o) (f : Failure)
      (failed : (fetch o network t).outcome = .error f) :
      Worked s network t (.error f) (fetch o network t).tree
  /-- The sections are printed, if they can be read. -/
  | dumped (o : FetchOptions) (options : s.fetchOptions? = some o) (page : String)
      (fetched : (fetch o network t).outcome = .ok page) (asked : s.dumpSections = true) :
      Worked s network t ((sectionsOfText {} page).outcome.map Markdown.sections)
        (fetch o network t).tree
  /-- No declarations can be made of the page. -/
  | unmade (o : FetchOptions) (options : s.fetchOptions? = some o) (page : String)
      (fetched : (fetch o network t).outcome = .ok page) (unasked : s.dumpSections = false)
      (f : Failure) (failed : (Assembly.ofText {} page).outcome = .error f) :
      Worked s network t (.error f) (fetch o network t).tree
  /-- The option for the directory of all packages was left without a value. -/
  | rootless (o : FetchOptions) (options : s.fetchOptions? = some o) (page : String)
      (fetched : (fetch o network t).outcome = .ok page) (unasked : s.dumpSections = false)
      (a : Assembly) (made : (Assembly.ofText {} page).outcome = .ok a)
      (missing : s.outputOptions? = none) :
      Worked s network t (.error .noPath) (fetch o network t).tree
  /-- The declarations are written. -/
  | written (o : FetchOptions) (options : s.fetchOptions? = some o) (page : String)
      (fetched : (fetch o network t).outcome = .ok page) (unasked : s.dumpSections = false)
      (a : Assembly) (made : (Assembly.ofText {} page).outcome = .ok a)
      (o' : OutputOptions) (output : s.outputOptions? = some o') :
      Worked s network t
        ((emit o' a.declarations (fetch o network t).tree).outcome.map fun _ => "")
        (emit o' a.declarations (fetch o network t).tree).tree

/-- Printing the sections changes no file. -/
theorem dump_eq (page : String) (t : FileTree) :
    (dump page t).outcome = (sectionsOfText {} page).outcome.map Markdown.sections ∧
      (dump page t).tree = t :=
  Effect.andThen_value (Effect.ofLogged (sectionsOfText {} page) t) Markdown.sections

/-- What cannot be made into declarations is not written. -/
theorem generate_of_error {page : String} {f : Failure}
    (h : (Assembly.ofText {} page).outcome = .error f) (o? : Option OutputOptions) (t : FileTree) :
    (generate o? page t).outcome = .error f ∧ (generate o? page t).tree = t :=
  Effect.andThen_of_error ((Effect.outcome_ofLogged _ t).trans h) _

/-- Without a directory of all packages nothing is written. -/
theorem generate_none_of_ok {page : String} {a : Assembly}
    (h : (Assembly.ofText {} page).outcome = .ok a) (t : FileTree) :
    (generate none page t).outcome = .error .noPath ∧ (generate none page t).tree = t :=
  Effect.andThen_of_ok ((Effect.outcome_ofLogged _ t).trans h) _

/-- Summing up an emission changes nothing of it. -/
theorem generate_some_of_ok {page : String} {a : Assembly}
    (h : (Assembly.ofText {} page).outcome = .ok a) (o : OutputOptions) (t : FileTree) :
    (generate (some o) page t).outcome = (emit o a.declarations t).outcome.map (fun _ => "") ∧
      (generate (some o) page t).tree = (emit o a.declarations t).tree := by
  have hmade := (Effect.outcome_ofLogged (Assembly.ofText {} page) t).trans h
  unfold generate
  rw [(Effect.andThen_of_ok hmade _).1, (Effect.andThen_of_ok hmade _).2, Effect.tree_ofLogged]
  simp only
  cases hemit : (emit o a.declarations t).outcome with
  | ok paths =>
      rw [(Effect.andThen_of_ok hemit _).1, (Effect.andThen_of_ok hemit _).2]
      exact ⟨rfl, rfl⟩
  | error f => exact Effect.andThen_of_error hemit _

/-- **What the work of a run comes to.** -/
theorem worked_work (s : Settings) (network : Request → Reply) (t : FileTree) :
    Worked s network t (work s network t).effect.outcome (work s network t).effect.tree := by
  unfold work
  cases hoptions : s.fetchOptions? with
  | none => exact .cacheless hoptions
  | some o =>
      simp only
      cases hfetch : (fetch o network t).outcome with
      | error f =>
          rw [(Effect.andThen_of_error hfetch _).1, (Effect.andThen_of_error hfetch _).2]
          exact .unfetched o hoptions f hfetch
      | ok page =>
          rw [(Effect.andThen_of_ok hfetch _).1, (Effect.andThen_of_ok hfetch _).2]
          split
          · next hasked =>
            rw [(dump_eq page _).1, (dump_eq page _).2]
            exact .dumped o hoptions page hfetch hasked
          · next hunasked =>
            rw [Bool.not_eq_true] at hunasked
            cases hmade : (Assembly.ofText {} page).outcome with
            | error f =>
                rw [(generate_of_error hmade _ _).1, (generate_of_error hmade _ _).2]
                exact .unmade o hoptions page hfetch hunasked f hmade
            | ok a =>
                cases houtput : s.outputOptions? with
                | none =>
                    rw [(generate_none_of_ok hmade _).1, (generate_none_of_ok hmade _).2]
                    exact .rootless o hoptions page hfetch hunasked a hmade houtput
                | some o' =>
                    rw [(generate_some_of_ok hmade o' _).1, (generate_some_of_ok hmade o' _).2]
                    exact .written o hoptions page hfetch hunasked a hmade o' houtput

/-! ## Runs that end early -/

/-- What fetching the page comes to in a run. -/
def Settings.page (s : Settings) (network : Request → Reply) (t : FileTree) :
    Except Failure String :=
  match s.fetchOptions? with
  | none => .error .noPath
  | some o => (fetch o network t).outcome

/-- A run prints the sections, or ends before its declarations are complete. -/
inductive EndsEarly (s : Settings) (network : Request → Reply) (t : FileTree) : Ending → Prop where
  /-- The sections are printed, if they can be read. -/
  | dumped (e : Ending) (asked : s.dumpSections = true) : EndsEarly s network t e
  /-- The page is explained to be no reference. -/
  | unparsed (message : String) : EndsEarly s network t (.stopped ("[ParseError] " ++ message))
  /-- The page cannot be fetched. -/
  | unfetched (f : Failure) (failed : s.page network t = .error f) :
      EndsEarly s network t (.failed f)
  /-- The page is no markup. -/
  | unread (fault : Markup.MarkupFault) : EndsEarly s network t (.failed (.markup fault))

/-- A failure of an emission is not taken for one of the page. -/
theorem ending_of_emit_eq_error {o : OutputOptions} {ds : List Declaration} {f : Failure}
    (h : (emit o ds t).outcome = .error f) :
    (∀ message, Ending.ofFailure f ≠ .stopped ("[ParseError] " ++ message)) ∧
      ∀ fault, Ending.ofFailure f ≠ .failed (.markup fault) := by
  rcases emit_eq_error h with ⟨fault, rfl⟩ | ⟨d, -, hrejected⟩
  · simp [Ending.ofFailure]
  · cases hrejected with
    | shared => simp [Ending.ofFailure]
    | schema v =>
        refine ⟨fun message hsame => ?_, by simp [Ending.ofFailure]⟩
        -- The explanations differ in their second letter.
        rw [Ending.ofFailure, Ending.stopped.injEq, ← String.toList_inj] at hsame
        simp only [String.toList_append] at hsame
        have hletter := congrArg (fun l : List Char => l[1]?) hsame
        simp at hletter

/-- What is written for declarations is not written by a run that ends early. -/
theorem not_endsEarly_of_emit {o : FetchOptions} (hoptions : s.fetchOptions? = some o)
    {page : String} (hpage : (fetch o network t).outcome = .ok page)
    (hunasked : s.dumpSections = false) (o' : OutputOptions) (ds : List Declaration)
    (t' : FileTree) {e : Ending}
    (he : e = .code 0 ∨ ∃ f, (emit o' ds t').outcome = .error f ∧ e = .ofFailure f) :
    ¬ EndsEarly s network t e := by
  intro h
  cases h with
  | dumped _ hasked => exact absurd hasked (by simp [hunasked])
  | unfetched f hfailed =>
      rw [Settings.page, hoptions] at hfailed
      exact absurd (hfailed.symm.trans hpage) (by simp)
  | unparsed message =>
      rcases he with hcode | ⟨f, hemit, hending⟩
      · cases hcode
      · exact (ending_of_emit_eq_error hemit).1 message hending.symm
  | unread fault =>
      rcases he with hcode | ⟨f, hemit, hending⟩
      · cases hcode
      · exact (ending_of_emit_eq_error hemit).2 fault hending.symm

/-- Work that ends early changes at most the file that keeps the page. -/
theorem touches_finish (h : EndsEarly s network t (Program.finish (work s network t)).ending) :
    (Program.finish (work s network t)).tree = t ∨ ∃ o, s.fetchOptions? = some o ∧
      t.Touches o.cachePath (Program.finish (work s network t)).tree := by
  have hworked := worked_work s network t
  have htree : (Program.finish (work s network t)).tree = (work s network t).effect.tree := rfl
  rw [htree]
  rw [Program.finish] at h
  simp only at h
  generalize (work s network t).effect.outcome = outcome at hworked h
  generalize (work s network t).effect.tree = t' at hworked ⊢
  cases hworked with
  | cacheless => exact Or.inl rfl
  | unfetched o hoptions => exact Or.inr ⟨o, hoptions, touches_fetch o network t⟩
  | dumped o hoptions => exact Or.inr ⟨o, hoptions, touches_fetch o network t⟩
  | unmade o hoptions => exact Or.inr ⟨o, hoptions, touches_fetch o network t⟩
  | rootless o hoptions => exact Or.inr ⟨o, hoptions, touches_fetch o network t⟩
  | written o hoptions page hpage hunasked a hmade o' houtput =>
      refine absurd h (not_endsEarly_of_emit hoptions hpage hunasked o' a.declarations
        (fetch o network t).tree ?_)
      cases hemit : (emit o' a.declarations (fetch o network t).tree).outcome with
      | ok paths => exact Or.inl rfl
      | error f => exact Or.inr ⟨f, rfl, rfl⟩

/-- **What an early end leaves.** A run that prints the sections, or that ends with a fault of the
page or of its retrieval, changes at most the file that keeps the page and directories around it:
any other file is there afterwards exactly when it was there before. -/
theorem touches_of_endsEarly {args : List String} (hargs : grammar.read {} args = .ok s)
    (h : EndsEarly s network t (program.run args network t).ending) :
    ((program.run args network t).tree = t ∨
      ∃ o, s.fetchOptions? = some o ∧ t.Touches o.cachePath (program.run args network t).tree) ∧
    ∀ q, (∀ o, s.fetchOptions? = some o → q ≠ o.cachePath.goal) → ∀ bytes,
      (program.run args network t).tree.get? q = some (.file bytes) ↔
        t.get? q = some (.file bytes) := by
  have hrun : program.run args network t = Program.finish (work s network t) := by
    have hread : program.grammar.read program.defaults args = .ok s := hargs
    rw [Program.run, hread]
    rfl
  rw [hrun] at h ⊢
  have hchange := touches_finish h
  refine ⟨hchange, fun q hq bytes => ?_⟩
  rcases hchange with hsame | ⟨o, hoptions, htouches⟩
  · rw [hsame]
  · exact htouches.get?_eq_file_iff (hq o hoptions) bytes

/-- A page whose first section can be made into a declaration and whose second cannot. -/
def halfPage : String :=
  "<h2>plugin.Plugin Class</h2>" ++
  "<h2>region.Region Class</h2><table><tr><th>Constructors</th><th>Description</th></tr></table>"

/-- A tree with a file that a complete run for the page would write over. -/
def externsBefore : FileTree := .ofFiles [("externs/plugin/Plugin.json", "kept".toUTF8)]

/-- The place of the file in that tree. -/
def externFile : Place := (Path.ofText "externs/plugin/Plugin.json").goal

/-- A run that fetches the page. -/
def halfRun : Run := program.run ["--refresh"] (answering 200 halfPage) externsBefore

theorem touches_of_endsEarly_halfPage :
    grammar.read {} ["--refresh"] = .ok { refresh := true } ∧
    halfRun.ending = .stopped ("[ParseError] " ++ "region.Region: constructors table has no rows") ∧
    (∃ bytes, externsBefore.get? externFile = some (.file bytes)) ∧
    ∀ bytes, halfRun.tree.get? externFile = some (.file bytes) ↔
      externsBefore.get? externFile = some (.file bytes) := by
  have hending : halfRun.ending =
      .stopped ("[ParseError] " ++ "region.Region: constructors table has no rows") := by
    have hends : (match halfRun.ending with
        | .stopped text => text == "[ParseError] region.Region: constructors table has no rows"
        | _ => false) = true := by decide +kernel
    split at hends
    · next text htext =>
      rw [htext, beq_iff_eq.1 hends]
      rfl
    · cases hends
  have hread : grammar.read {} ["--refresh"] = .ok ({ refresh := true } : Settings) := rfl
  have hearly : EndsEarly { refresh := true } (answering 200 halfPage) externsBefore
      halfRun.ending := by
    rw [hending]
    exact .unparsed _
  have hother : externFile ≠ ({ refresh := true } : FetchOptions).cachePath.goal := by
    decide +kernel
  refine ⟨hread, hending, ⟨_, rfl⟩, (touches_of_endsEarly hread hearly).2 externFile ?_⟩
  rintro o ⟨⟩
  exact hother

end TypedReference.CommandLine.Generator

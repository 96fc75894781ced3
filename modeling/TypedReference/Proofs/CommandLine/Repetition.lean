/-
# Running the generator again

A run that finds its page in the cache makes no request, and what it does is decided by the page and
the files. So when it is repeated it finds the page again, leaves every file as it is, and ends as
it did, also if it had ended with a failure. Only a directory that could be made half-way brings a
second failure that differs from the first.
-/
import TypedReference.Proofs.Assembly.Containment
import TypedReference.Proofs.CommandLine.Generator
import TypedReference.Proofs.Repetition

namespace TypedReference.CommandLine.Generator

open Files FileTree

variable {s : Settings} {network network' : Request → Reply} {t t' : FileTree}

/-! ## The page in the cache -/

/-- A file or directory to which a path leads is found again if nothing has become of it and of the
directories. -/
theorem find?_of_kept {p : Path} {e : Entry} (h : t.find? p = some e)
    (hkeep : t.KeepsDirectories t') (hentry : t.get? p.goal = some e → t'.get? p.goal = some e) :
    t'.find? p = some e := by
  rw [find?] at h ⊢
  cases hplace : t.place p with
  | error f =>
      rw [hplace] at h
      cases h
  | ok place =>
      obtain rfl := eq_goal_of_place hplace
      rw [hplace] at h
      rw [hkeep.place hplace]
      exact hentry h

/-- What is read from an entry to which a path leads. -/
def bytesOf (p : Path) : Entry → Except FileFault ByteArray
  | .file bytes => .ok bytes
  | .directory => .error ⟨.isDirectory, p.text⟩

/-- What a path leads to decides what is read there. -/
theorem read_of_find? {p : Path} {e : Entry} (h : t.find? p = some e) :
    t.read p = bytesOf p e := by
  rw [find?] at h
  cases hplace : t.place p with
  | error f =>
      rw [hplace] at h
      cases h
  | ok place =>
      have hfrom : t.placeFrom p.anchor p.parts p.text = .ok place := hplace
      rw [hplace] at h
      simp only at h
      rw [FileTree.read, readFrom, hfrom]
      simp only [h]
      cases e <;> rfl

/-- A page in the cache is read from there, whatever the network would answer. -/
theorem fetch_of_cached {o : FetchOptions} {e : Entry} (h : t.find? o.cachePath = some e)
    (hrefresh : o.refresh = false) (network : Request → Reply) :
    (fetch o network t).outcome = textOfFile (bytesOf o.cachePath e) ∧
      (fetch o network t).tree = t := by
  have hleads : t.leadsSomewhere o.cachePath = .ok true := by
    rw [find?] at h
    rw [leadsSomewhere]
    split at h
    · next place hplace => simp [h]
    · cases h
  have hsource : o.source t = .ok .cache := by
    unfold FetchOptions.source
    simp [hleads, hrefresh]
  unfold fetch
  simp only [hsource, read_of_find? h, and_self]

/-! ## The work on the page -/

/-- What a run does with its page. -/
def workOn (s : Settings) (page : String) (t : FileTree) : Effect String :=
  if s.dumpSections then dump page t else generate s.outputOptions? page t

/-- The declarations that are made of a page, if it can be read. -/
def declarationsOf (page : String) : List Declaration :=
  match (Assembly.ofText {} page).outcome with
  | .ok a => a.declarations
  | .error _ => []

/-- The files that are written for a page. -/
def Settings.writtenFor (s : Settings) (page : String) (t : FileTree) : List Path :=
  match s.outputOptions? with
  | some o => if s.dumpSections then [] else emittedPaths o (declarationsOf page) t
  | none => []

/-- The work on a page is an emission of its declarations, or changes nothing. -/
theorem workOn_cases (s : Settings) (page : String) :
    (∃ r, ∀ t, (workOn s page t).outcome = r ∧ (workOn s page t).tree = t) ∨
    ∃ o, s.outputOptions? = some o ∧ (∀ t, s.writtenFor page t =
        emittedPaths o (declarationsOf page) t) ∧
      ∀ t, (workOn s page t).outcome =
          (emit o (declarationsOf page) t).outcome.map (fun _ => "") ∧
        (workOn s page t).tree = (emit o (declarationsOf page) t).tree := by
  unfold workOn Settings.writtenFor declarationsOf
  cases hasked : s.dumpSections with
  | true => exact Or.inl ⟨_, fun t => by simpa using dump_eq page t⟩
  | false =>
      simp only [Bool.false_eq_true, if_false]
      cases hmade : (Assembly.ofText {} page).outcome with
      | error f => exact Or.inl ⟨_, fun t => generate_of_error hmade s.outputOptions? t⟩
      | ok a =>
          cases s.outputOptions? with
          | none => exact Or.inl ⟨_, fun t => generate_none_of_ok hmade t⟩
          | some o => exact Or.inr ⟨o, rfl, fun _ => rfl, fun t => generate_some_of_ok hmade o t⟩

/-- What is not written over is left as it is, and directories are left as they are. -/
theorem kept_workOn (s : Settings) (page : String) (t : FileTree) :
    t.KeepsDirectories (workOn s page t).tree ∧
      ∀ q e, t.get? q = some e → q ∉ (s.writtenFor page t).map Path.goal →
        (workOn s page t).tree.get? q = some e := by
  rcases workOn_cases s page with ⟨r, hsame⟩ | ⟨o, -, hwritten, hemits⟩
  · rw [(hsame t).2]
    exact ⟨fun _ hq => hq, fun _ _ he _ => he⟩
  · rw [(hemits t).2, hwritten, (emit_eq_emitEach o _ t).2]
    exact ⟨(grows_emitEach o _ t).keepsDirectories, fun q e he hq => get?_emitEach he hq⟩

/-- The work on a page that is repeated at once leaves everything as it is. -/
theorem workOn_again (s : Settings) (page : String) (t : FileTree) :
    (∀ q, (workOn s page (workOn s page t).tree).tree.get? q = (workOn s page t).tree.get? q) ∧
      ((workOn s page (workOn s page t).tree).outcome = (workOn s page t).outcome ∨
        ∃ o, s.outputOptions? = some o ∧ EndsAgain o (declarationsOf page) t (workOn s page t).tree
          (workOn s page t).outcome (workOn s page (workOn s page t).tree).outcome) := by
  rcases workOn_cases s page with ⟨r, hsame⟩ | ⟨o, houtput, -, hemits⟩
  · simp only [(hsame _).1, (hsame _).2, true_or, and_true, implies_true]
  · obtain ⟨htree, hends⟩ := emit_again o (declarationsOf page) t
    rw [(hemits t).2, (hemits t).1, (hemits _).1, (hemits _).2]
    exact ⟨htree, Or.inr ⟨o, houtput, hends.map _⟩⟩

/-! ## The whole run -/

/-- With a command line that can be read, a run is the work that it asks for. -/
theorem run_of_read {args : List String} (hargs : grammar.read {} args = .ok s)
    (network : Request → Reply) (t : FileTree) :
    program.run args network t = Program.finish (work s network t) := by
  have hread : program.grammar.read program.defaults args = .ok s := hargs
  rw [Program.run, hread]
  rfl

/-- How a run ends whose work comes to an outcome. -/
def endingOf (outcome : Except Failure String) : Ending :=
  match outcome with
  | .ok _ => .code 0
  | .error f => .ofFailure f

theorem ending_finish (w : Work) : (Program.finish w).ending = endingOf w.effect.outcome := rfl

theorem tree_finish (w : Work) : (Program.finish w).tree = w.effect.tree := rfl

/-- The paths of the files that a run writes for declarations. -/
def Settings.writtenPaths (s : Settings) (network : Request → Reply) (t : FileTree) : List Path :=
  match s.fetchOptions? with
  | none => []
  | some o =>
    match (fetch o network t).outcome with
    | .ok page => s.writtenFor page (fetch o network t).tree
    | .error _ => []

/-- The page of a run is in the cache, is not wanted anew, and is not written over. -/
structure KeepsPage (s : Settings) (network : Request → Reply) (t : FileTree) : Prop where
  /-- The page is not wanted anew. -/
  unrefreshed : s.refresh = false
  /-- The path of the cache leads to something. -/
  cached : ∀ o, s.fetchOptions? = some o → (t.find? o.cachePath).isSome
  /-- It does not lead where the run writes. -/
  apart : ∀ o, s.fetchOptions? = some o →
    o.cachePath.goal ∉ (s.writtenPaths network t).map Path.goal

/-- The declarations of a page are made of names. -/
theorem isNamed_of_mem_declarationsOf {page : String} {d : Declaration}
    (hd : d ∈ declarationsOf page) : d.IsNamed := by
  unfold declarationsOf at hd
  split at hd
  · next a ha =>
    obtain ⟨tree, -, hmade⟩ := Assembly.outcome_ofText_eq_ok_iff.1 ha
    exact Assembly.isNamed_of_mem (fun _ => Page.isNamed_of_mem_sections) hmade d hd
  · exact absurd hd List.not_mem_nil

/-- What a run writes lies below the directory of all packages. -/
theorem exists_below_of_mem_writtenPaths {p : Path} (hp : p ∈ s.writtenPaths network t) :
    ∃ o names, s.outputOptions? = some o ∧ p.goal = o.rootPath.goal.below names := by
  unfold Settings.writtenPaths Settings.writtenFor at hp
  split at hp
  · exact absurd hp List.not_mem_nil
  · split at hp
    · split at hp
      · next o houtput =>
        split at hp
        · exact absurd hp List.not_mem_nil
        · obtain ⟨d, hd, rfl⟩ := exists_of_mem_emittedPaths hp
          exact ⟨o, d.fileParts, houtput, (isNamed_of_mem_declarationsOf hd).goal_filePath _⟩
      · exact absurd hp List.not_mem_nil
    · exact absurd hp List.not_mem_nil

/-- A cache that does not lie below the directory of all packages is not written over. -/
theorem KeepsPage.of_elsewhere (hrefresh : s.refresh = false)
    (hcached : ∀ o, s.fetchOptions? = some o → (t.find? o.cachePath).isSome)
    (helsewhere : ∀ o o', s.fetchOptions? = some o → s.outputOptions? = some o' →
      ∀ names, o.cachePath.goal ≠ o'.rootPath.goal.below names) : KeepsPage s network t := by
  refine ⟨hrefresh, hcached, ?_⟩
  intro o hoptions hmem
  obtain ⟨p, hp, hgoal⟩ := List.mem_map.1 hmem
  obtain ⟨o', names, houtput, hbelow⟩ := exists_below_of_mem_writtenPaths hp
  exact helsewhere o o' hoptions houtput names (hgoal.symm.trans hbelow)

/-- Two runs fail at the directory of one declaration, which the first could make only half-way: it
names a directory around that one, and the second the whole. -/
structure FailsHalfway (s : Settings) (network : Request → Reply) (t : FileTree)
    (first second : Run) : Prop where
  /-- The declaration is one of the page, and the directory that of its file. -/
  fails : ∃ o page d f f', s.outputOptions? = some o ∧ s.page network t = .ok page ∧
    d ∈ declarationsOf page ∧ first.ending = .failed (.files f) ∧
    second.ending = .failed (.files f') ∧
    Halfway t first.tree (d.filePath o.rootPath).parent f f'

/-- What a run does that finds its page in the cache. -/
theorem work_of_cached {o : FetchOptions} (hoptions : s.fetchOptions? = some o)
    (hrefresh : s.refresh = false) {e : Entry} (h : t.find? o.cachePath = some e)
    (network : Request → Reply) :
    s.page network t = textOfFile (bytesOf o.cachePath e) ∧
    match textOfFile (bytesOf o.cachePath e) with
    | .error f => (work s network t).effect.outcome = .error f ∧ (work s network t).effect.tree = t
    | .ok page => s.writtenPaths network t = s.writtenFor page t ∧
        (work s network t).effect.outcome = (workOn s page t).outcome ∧
        (work s network t).effect.tree = (workOn s page t).tree := by
  have hrefresh' : o.refresh = false := by
    obtain ⟨cache, -, rfl⟩ := Option.map_eq_some_iff.1 hoptions
    exact hrefresh
  obtain ⟨houtcome, htree⟩ := fetch_of_cached h hrefresh' network
  have hpage : s.page network t = textOfFile (bytesOf o.cachePath e) := by
    rw [Settings.page, hoptions]
    exact houtcome
  refine ⟨hpage, ?_⟩
  unfold work Settings.writtenPaths
  simp only [hoptions]
  split
  · next f hf =>
    rw [hf] at houtcome
    rw [(Effect.andThen_of_error houtcome _).1, (Effect.andThen_of_error houtcome _).2, htree]
    exact ⟨rfl, rfl⟩
  · next page hf =>
    rw [hf] at houtcome
    rw [(Effect.andThen_of_ok houtcome _).1, (Effect.andThen_of_ok houtcome _).2, houtcome, htree]
    exact ⟨rfl, rfl, rfl⟩

/-- Work that is repeated over the files that it has left. -/
theorem work_again (h : KeepsPage s network t) (network' : Request → Reply) :
    (∀ q, (work s network' (work s network t).effect.tree).effect.tree.get? q =
        (work s network t).effect.tree.get? q) ∧
      ((work s network' (work s network t).effect.tree).effect.outcome =
          (work s network t).effect.outcome ∨
        ∃ o page, s.outputOptions? = some o ∧ s.page network t = .ok page ∧
          EndsAgain o (declarationsOf page) t (work s network t).effect.tree
            (work s network t).effect.outcome
            (work s network' (work s network t).effect.tree).effect.outcome) := by
  cases hoptions : s.fetchOptions? with
  | none =>
      have hwork : ∀ network t, (work s network t).effect = .fail .noPath t := by
        intro network t
        unfold work
        simp only [hoptions]
      simp only [hwork, Effect.outcome_fail, Effect.tree_fail, true_or, and_true, implies_true]
  | some o =>
      obtain ⟨e, he⟩ := Option.isSome_iff_exists.1 (h.cached o hoptions)
      obtain ⟨hpage, hfirst⟩ := work_of_cached hoptions h.unrefreshed he network
      have hsecond {t' : FileTree} (he' : t'.find? o.cachePath = some e) :=
        (work_of_cached hoptions h.unrefreshed he' network').2
      cases hread : textOfFile (bytesOf o.cachePath e) with
      | error f =>
          simp only [hread] at hfirst hsecond
          rw [hfirst.2, hfirst.1, (hsecond he).1, (hsecond he).2]
          exact ⟨fun _ => rfl, Or.inl rfl⟩
      | ok page =>
          simp only [hread] at hfirst hsecond
          obtain ⟨hwritten, houtcome, htree⟩ := hfirst
          have hapart := h.apart o hoptions
          rw [hwritten] at hapart
          obtain ⟨hkeep, hkept⟩ := kept_workOn s page t
          have hthere : (workOn s page t).tree.find? o.cachePath = some e :=
            find?_of_kept he hkeep fun hentry => hkept _ e hentry hapart
          obtain ⟨-, houtcome', htree'⟩ := hsecond hthere
          obtain ⟨hsame, hends⟩ := workOn_again s page t
          rw [htree, houtcome, houtcome', htree']
          refine ⟨hsame, hends.imp_right ?_⟩
          rintro ⟨o', houtput, hagain⟩
          exact ⟨o', page, houtput, hpage.trans hread, hagain⟩

/-- The text with which a run has stopped, if it has. -/
def stoppedText? : Ending → Option String
  | .stopped text => some text
  | _ => none

theorem stoppedText?_eq_some_iff {e : Ending} {text : String} :
    stoppedText? e = some text ↔ e = .stopped text := by
  cases e <;> simp [stoppedText?]

/-- The fault of the operation on files with which a run has failed, if it has. -/
def failedFault? : Ending → Option FileFault
  | .failed (.files f) => some f
  | _ => none

theorem failedFault?_eq_some_iff {e : Ending} {f : FileFault} :
    failedFault? e = some f ↔ e = .failed (.files f) := by
  cases e with
  | code n | stopped text => simp [failedFault?]
  | failed cause => cases cause <;> simp [failedFault?]

/-- **Running again.** A run that finds its page in the cache and does not write over it can be
repeated: the files stay as it has left them, also if it has failed, and the second run ends as the
first, unless a directory could be made only half-way. -/
theorem run_again {args : List String} (hargs : grammar.read {} args = .ok s)
    (h : KeepsPage s network t) (network' : Request → Reply) :
    (∀ q, (program.run args network' (program.run args network t).tree).tree.get? q =
        (program.run args network t).tree.get? q) ∧
      ((program.run args network' (program.run args network t).tree).ending =
          (program.run args network t).ending ∨
        FailsHalfway s network t (program.run args network t)
          (program.run args network' (program.run args network t).tree)) := by
  simp only [run_of_read hargs, ending_finish, tree_finish]
  obtain ⟨htree, hends⟩ := work_again h network'
  refine ⟨htree, ?_⟩
  rcases hends with hsame | ⟨o, page, houtput, hpage, hsame | ⟨d, hd, f, f', hf, hf', hhalfway⟩⟩
  · exact Or.inl (congrArg endingOf hsame)
  · exact Or.inl (congrArg endingOf hsame)
  · exact Or.inr ⟨o, page, d, f, f', houtput, hpage, hd, congrArg endingOf hf,
      congrArg endingOf hf', hhalfway⟩

/-- A page with a declaration and then one that breaks the schema. -/
def brokenPage : String :=
  "<h2>p.P Class</h2><h2>q.Q Class</h2>
  <table><tr><th>Constructors</th><th>Description</th></tr><tr><td>f.()"

/-- A tree that keeps the page. -/
def brokenTree : FileTree := .ofFiles [("page", brokenPage.toUTF8)]

/-- A run that reads the page. -/
def brokenRun (t : FileTree) : Run := program.run ["--cache", "page"] (answering 503 "") t

theorem run_again_brokenPage :
    grammar.read {} ["--cache", "page"] = .ok { cache := some "page" } ∧
    KeepsPage { cache := some "page" } (answering 503 "") brokenTree ∧
    (brokenRun brokenTree).ending =
      .stopped "[SchemaError] invalid declaration output: '' should be non-empty" ∧
    (brokenRun brokenTree).tree.kind? (Path.ofText "externs/p/P.json").goal = some false ∧
    (∀ q, (brokenRun (brokenRun brokenTree).tree).tree.get? q =
      (brokenRun brokenTree).tree.get? q) ∧
    (brokenRun (brokenRun brokenTree).tree).ending = (brokenRun brokenTree).ending := by
  have hread : grammar.read {} ["--cache", "page"] = .ok ({ cache := some "page" } : Settings) :=
    rfl
  have hkeeps : KeepsPage { cache := some "page" } (answering 503 "") brokenTree := by
    refine .of_elsewhere rfl ?_ ?_
    · rintro o ⟨⟩
      decide +kernel
    · rintro o o' ⟨⟩ ⟨⟩ names hsame
      have hpage : (Path.ofText "page").goal = ⟨.above 0, ["page"]⟩ := by decide +kernel
      have hroot : (Path.ofText "externs").goal = ⟨.above 0, ["externs"]⟩ := by decide +kernel
      have hbelow : (Path.ofText "page").goal = (Path.ofText "externs").goal.below names := hsame
      rw [hpage, hroot] at hbelow
      simp [Place.below] at hbelow
  have hruns : stoppedText? (brokenRun brokenTree).ending =
        some "[SchemaError] invalid declaration output: '' should be non-empty" ∧
      (brokenRun brokenTree).tree.kind? (Path.ofText "externs/p/P.json").goal = some false := by
    decide +kernel
  have hending := stoppedText?_eq_some_iff.1 hruns.1
  obtain ⟨htree, hagain⟩ := run_again hread hkeeps (answering 503 "")
  refine ⟨hread, hkeeps, hending, hruns.2, htree, ?_⟩
  rcases hagain with hsame | ⟨o, page, d, f, f', -, -, -, hfailed, -⟩
  · exact hsame
  · exact absurd (hending.symm.trans hfailed) (by simp)

/-- A directory of all packages below a file, on a way through a directory that is not there. -/
def detour : List String := ["--cache", "page", "--out", "a/../f.json"]

/-- A tree with that file. -/
def detourTree : FileTree := .ofFiles [("page", "<h2>p.P Class</h2>".toUTF8), ("f.json", "".toUTF8)]

/-- A run that goes that way. -/
def detourRun (t : FileTree) : Run := program.run detour (answering 503 "") t

/-- The first run makes the directory on the way and fails, and the second fails differently. -/
theorem not_same_ending_detour :
    (∃ s, grammar.read {} detour = .ok s ∧ KeepsPage s (answering 503 "") detourTree) ∧
    (detourRun detourTree).ending = .failed (.files ⟨.occupied, "a/../f.json"⟩) ∧
    (detourRun (detourRun detourTree).tree).ending =
      .failed (.files ⟨.notDirectory, "a/../f.json/p"⟩) ∧
    (detourRun (detourRun detourTree).tree).ending ≠ (detourRun detourTree).ending := by
  have hkeeps : KeepsPage { cache := some "page", root := some "a/../f.json" } (answering 503 "")
      detourTree := by
    refine .of_elsewhere rfl ?_ ?_
    · rintro o ⟨⟩
      decide +kernel
    · rintro o o' ⟨⟩ ⟨⟩ names hsame
      have hpage : (Path.ofText "page").goal = ⟨.above 0, ["page"]⟩ := by decide +kernel
      have hroot : (Path.ofText "a/../f.json").goal = ⟨.above 0, ["f.json"]⟩ := by decide +kernel
      have hbelow : (Path.ofText "page").goal = (Path.ofText "a/../f.json").goal.below names := hsame
      rw [hpage, hroot] at hbelow
      simp [Place.below] at hbelow
  have hruns : failedFault? (detourRun detourTree).ending = some ⟨.occupied, "a/../f.json"⟩ ∧
      failedFault? (detourRun (detourRun detourTree).tree).ending =
        some ⟨.notDirectory, "a/../f.json/p"⟩ := by decide +kernel
  have hoccupied := failedFault?_eq_some_iff.1 hruns.1
  have hblocked := failedFault?_eq_some_iff.1 hruns.2
  refine ⟨⟨_, rfl, hkeeps⟩, hoccupied, hblocked, ?_⟩
  rw [hoccupied, hblocked]
  simp

end TypedReference.CommandLine.Generator

/-
# Retrievals in a row

The file that keeps a page always holds the text that the last successful request returned, as it
came. So whatever is asked for in whatever order, a retrieval that makes no request returns that
text with plain line ends, and a retrieval that fails changes nothing.
-/
import TypedReference.Proofs.Effect
import TypedReference.Proofs.Files.Tree
import TypedReference.Retrieval

namespace TypedReference

open Files

/-! ## Texts in bytes -/

/-- A text is read from its own bytes with plain line ends. -/
theorem textOfBytes_toUTF8 (s : String) :
    textOfBytes s.toUTF8 = .ok (String.ofList (plainLineEnds s.toList)) := by
  have hdecode : decode s.toUTF8 = .ok s := by
    rw [decode, String.fromUTF8?, String.toUTF8_eq_toByteArray, dif_pos s.isValidUTF8]
    rfl
  rw [textOfBytes, hdecode]

/-- The bytes of the file at a path, if there is one. -/
def cached? (p : Files.Path) (t : FileTree) : Option ByteArray := (t.read p).toOption

theorem cached?_eq_some_iff {p : Files.Path} {t : FileTree} {bytes : ByteArray} :
    cached? p t = some bytes ↔ t.read p = .ok bytes := by
  rw [cached?]
  cases t.read p <;> simp [Except.toOption]

/-- Where a path leads nowhere, there is no file. -/
theorem cached?_eq_none_of_leadsSomewhere {p : Files.Path} {t : FileTree}
    (h : t.leadsSomewhere p = .ok false) : cached? p t = none := by
  rw [cached?, FileTree.read, FileTree.readFrom]
  rw [FileTree.leadsSomewhere, FileTree.place] at h
  split at h
  · next place hplace =>
    have hnothing : t.get? place = none := by
      cases hentry : t.get? place with
      | none => rfl
      | some e => rw [hentry] at h; cases h
    rw [hplace]
    simp only [hnothing]
    rfl
  · next f hplace =>
    rw [hplace]
    rfl

/-- A file that has been written is there. -/
theorem cached?_of_wrote {p : Files.Path} {bytes : ByteArray} {t t' : FileTree}
    (h : t.Wrote p bytes t') : cached? p t' = some bytes :=
  cached?_eq_some_iff.2 (FileTree.read_eq_ok h.place h.file)

/-! ## Where a page comes from -/

namespace FetchOptions

variable {o : FetchOptions} {t : FileTree}

/-- The page is wanted from the network, since it is wanted anew or not kept. -/
def Wants (o : FetchOptions) (t : FileTree) : Prop :=
  o.refresh = true ∨ cached? o.cachePath t = none

/-- **Where a page comes from.** -/
theorem source_cases (o : FetchOptions) (t : FileTree) :
    (∃ f, o.source t = .error (.files f)) ∨
    (o.source t = .ok .cache ∧ o.refresh = false) ∨
    (o.source t = .error (.notCached o.cachePath.text) ∧ o.offline = true ∧ o.Wants t) ∨
    (o.source t = .ok .network ∧ o.offline = false ∧ o.Wants t) := by
  unfold source
  cases hleads : t.leadsSomewhere o.cachePath with
  | error f => exact Or.inl ⟨f, rfl⟩
  | ok cached =>
      -- Without a refresh the page is wanted only if there is nothing at the path.
      have hwants : (cached && !o.refresh) = false → o.Wants t := by
        intro h
        cases hrefresh : o.refresh with
        | true => exact Or.inl hrefresh
        | false =>
            rw [hrefresh, Bool.not_false, Bool.and_true] at h
            rw [h] at hleads
            exact Or.inr (cached?_eq_none_of_leadsSomewhere hleads)
      refine Or.inr ?_
      simp only
      split
      · next hcache =>
        rw [Bool.and_eq_true, Bool.not_eq_true'] at hcache
        exact Or.inl ⟨rfl, hcache.2⟩
      · next hcache =>
        rw [Bool.not_eq_true] at hcache
        split
        · next hoffline => exact Or.inr (Or.inl ⟨rfl, hoffline, hwants hcache⟩)
        · next hoffline =>
          exact Or.inr (Or.inr ⟨rfl, Bool.eq_false_iff.2 hoffline, hwants hcache⟩)

end FetchOptions

/-! ## One retrieval -/

/-- What a retrieval can come to: whether a request is made, the outcome, and the files
afterwards. -/
inductive Retrieved (o : FetchOptions) (network : Request → Reply) (t : FileTree) :
    Option Request → Except Failure String → FileTree → Prop where
  /-- An operation on files has failed. -/
  | disturbed (request? : Option Request) (f : FileFault) (t' : FileTree)
      (touches : t.Touches o.cachePath t') :
      Retrieved o network t request? (.error (.files f)) t'
  /-- The page is read from the file that keeps it. -/
  | kept (bytes : ByteArray) (present : cached? o.cachePath t = some bytes)
      (unrefreshed : o.refresh = false) : Retrieved o network t none (textOfBytes bytes) t
  /-- A request would be needed, and none may be made. -/
  | unavailable (offline : o.offline = true) (wants : o.Wants t) :
      Retrieved o network t none (.error (.notCached o.cachePath.text)) t
  /-- The server answers with an error. -/
  | refused (online : o.offline = false) (wants : o.Wants t)
      (status : 400 ≤ (network o.request).status) :
      Retrieved o network t (some o.request) (.error (.refused (network o.request).status)) t
  /-- The server answers with the page, which is kept as it came. -/
  | fetched (online : o.offline = false) (wants : o.Wants t)
      (status : (network o.request).status < 400) (t' : FileTree)
      (wrote : t.Wrote o.cachePath (network o.request).text.toUTF8 t') :
      Retrieved o network t (some o.request) (.ok (network o.request).text) t'

/-- **What a retrieval does.** -/
theorem retrieved_fetch (o : FetchOptions) (network : Request → Reply) (t : FileTree) :
    Retrieved o network t (o.request? t) (fetch o network t).outcome (fetch o network t).tree := by
  unfold fetch FetchOptions.request?
  rcases o.source_cases t with ⟨f, hsource⟩ | ⟨hsource, hrefresh⟩ |
    ⟨hsource, hoffline, hwants⟩ | ⟨hsource, honline, hwants⟩
  · simp only [hsource, Effect.outcome_fail, Effect.tree_fail]
    exact .disturbed none f t (.refl _ t)
  · simp only [hsource]
    cases hread : t.read o.cachePath with
    | ok bytes => exact .kept bytes (cached?_eq_some_iff.2 hread) hrefresh
    | error f => exact .disturbed none f t (.refl _ t)
  · simp only [hsource, Effect.outcome_fail, Effect.tree_fail]
    exact .unavailable hoffline hwants
  · simp only [hsource, Effect.outcome_report_andThen, Effect.tree_report_andThen]
    split
    · next hstatus =>
      rw [Effect.outcome_fail, Effect.tree_fail]
      exact .refused honline hwants hstatus
    · next hstatus =>
      rcases Effect.outcome_ofChanged (t.writeWithin o.cachePath
        (network o.request).text.toUTF8) with ⟨hnone, hok⟩ | ⟨f, -, herror⟩
      · rw [(Effect.andThen_of_ok hok _).1, (Effect.andThen_of_ok hok _).2, Effect.outcome_ok,
          Effect.tree_ok, Effect.tree_ofChanged]
        exact .fetched honline hwants (Int.not_le.1 hstatus) _ (FileTree.wrote_writeWithin hnone)
      · rw [(Effect.andThen_of_error herror _).1, (Effect.andThen_of_error herror _).2,
          Effect.tree_ofChanged]
        exact .disturbed _ f _ (FileTree.touches_writeWithin t o.cachePath _)

/-- A retrieval changes at most the file that keeps the page. -/
theorem touches_fetch (o : FetchOptions) (network : Request → Reply) (t : FileTree) :
    t.Touches o.cachePath (fetch o network t).tree := by
  have hstep := retrieved_fetch o network t
  generalize o.request? t = request? at hstep
  generalize (fetch o network t).outcome = outcome at hstep
  generalize (fetch o network t).tree = t' at hstep ⊢
  cases hstep with
  | disturbed _ _ _ htouches => exact htouches
  | kept => exact .refl _ t
  | unavailable => exact .refl _ t
  | refused => exact .refl _ t
  | fetched _ _ _ _ hwrote => exact hwrote.touches

/-- Only the request that is made is answered: what the network would say to others is of no
account. -/
theorem fetch_congr {o : FetchOptions} {network network' : Request → Reply} {t : FileTree}
    (h : ∀ r ∈ o.request? t, network' r = network r) :
    fetch o network' t = fetch o network t := by
  unfold FetchOptions.request? at h
  unfold fetch
  cases hsource : o.source t with
  | error f => rfl
  | ok source =>
      cases source with
      | cache => rfl
      | network =>
          have hmade : o.request ∈ (some o.request : Option Request) := rfl
          rw [hsource] at h
          rw [h o.request hmade]

/-! ## Retrievals in a row -/

/-- A retrieval that is asked for. -/
structure FetchCall where
  /-- What is asked for. -/
  options : FetchOptions
  /-- What the network answers meanwhile. -/
  network : Request → Reply

/-- A retrieval in a row of them. -/
structure FetchStage extends FetchCall where
  /-- The files that it finds. -/
  found : FileTree

namespace FetchStage

/-- What the retrieval comes to. -/
def effect (s : FetchStage) : Effect String := fetch s.options s.network s.found

/-- The request that is made, if any. -/
def request? (s : FetchStage) : Option Request := s.options.request? s.found

/-- The text that a request has brought, if one was made and has succeeded. -/
def fetched? (s : FetchStage) : Option String :=
  match s.request?, s.effect.outcome with
  | some _, .ok text => some text
  | _, _ => none

/-- No operation on files fails. -/
def Undisturbed (s : FetchStage) : Prop := ∀ f, s.effect.outcome ≠ .error (.files f)

end FetchStage

/-- The retrievals of a row, each with the files that the ones before it have left. -/
def stages : FileTree → List FetchCall → List FetchStage
  | _, [] => []
  | t, c :: calls => ⟨c, t⟩ :: stages (FetchStage.effect ⟨c, t⟩).tree calls

/-- The text that the last successful request of some retrievals has brought, if there was one. -/
def lastFetched? (before : List FetchStage) : Option String :=
  (before.filterMap FetchStage.fetched?).getLast?

/-- The text of the last request is the last text that was fetched, if it has succeeded. -/
theorem lastFetched?_concat (before : List FetchStage) (s : FetchStage) :
    lastFetched? (before ++ [s]) = s.fetched?.or (lastFetched? before) := by
  rw [lastFetched?, lastFetched?, List.filterMap_append, List.getLast?_append]
  cases hfetched : s.fetched? with
  | none => rw [List.filterMap_cons_none hfetched, List.filterMap_nil, List.getLast?_nil]
  | some text =>
      rw [List.filterMap_cons_some hfetched, List.filterMap_nil, List.getLast?_singleton]

/-- How a retrieval goes after others, where all keep the page at one path. -/
structure Follows (path : Files.Path) (before : List FetchStage) (s : FetchStage) : Prop where
  /-- A request is made if one may be made and the page is wanted anew or not kept. -/
  request : s.request? =
    if s.options.offline = false ∧ (s.options.refresh = true ∨ cached? path s.found = none) then
      some s.options.request
    else none
  /-- The network is not asked for anything else. -/
  network : ∀ network', (∀ r ∈ s.request?, network' r = s.network r) →
    fetch s.options network' s.found = s.effect
  /-- The page of a reply that is no error is kept as it came, and returned. -/
  fetched : ∀ r ∈ s.request?, (s.network r).status < 400 →
    s.effect.outcome = .ok (s.network r).text ∧
      cached? path s.effect.tree = some (s.network r).text.toUTF8
  /-- Without such a reply no file changes. -/
  unchanged : (∀ r ∈ s.request?, 400 ≤ (s.network r).status) → s.effect.tree = s.found
  /-- A retrieval fails when the server answers with an error, or when a request would be needed
  and none may be made. -/
  failure : ∀ f, s.effect.outcome = .error f ↔
    (∃ r ∈ s.request?, 400 ≤ (s.network r).status ∧ f = .refused (s.network r).status) ∨
      (s.options.offline = true ∧ (s.options.refresh = true ∨ cached? path s.found = none)) ∧
        f = .notCached path.text
  /-- A retrieval that fails changes no file. -/
  failed : ∀ f, s.effect.outcome = .error f → s.effect.tree = s.found
  /-- Without a request the text of the last successful one is returned, with plain line ends. -/
  kept : ∀ text, s.request? = none → s.effect.outcome = .ok text →
    ∃ page, lastFetched? before = some page ∧ text = String.ofList (plainLineEnds page.toList)

section

variable {path : Files.Path} {before : List FetchStage} {s : FetchStage}
  (hpath : s.options.cachePath = path) (hfiles : s.Undisturbed)
  (hkept : cached? path s.found = (lastFetched? before).map String.toUTF8)
include hpath hfiles hkept

/-- One retrieval goes as it should if the last text that was fetched is kept. -/
theorem Follows.of_kept : Follows path before s := by
  subst hpath
  have hstep : Retrieved s.options s.network s.found s.request? s.effect.outcome s.effect.tree :=
    retrieved_fetch s.options s.network s.found
  have hnetwork : ∀ network', (∀ r ∈ s.request?, network' r = s.network r) →
      fetch s.options network' s.found = s.effect := fun _ => fetch_congr
  generalize hrequest : s.request? = request? at hstep
  generalize houtcome : s.effect.outcome = outcome at hstep
  generalize htree : s.effect.tree = tree at hstep
  cases hstep with
  | disturbed _ f => exact absurd houtcome (hfiles f)
  | kept bytes hpresent hrefresh =>
      -- What is kept is the last text that was fetched.
      obtain ⟨page, hpage, rfl⟩ := Option.map_eq_some_iff.1 (hkept.symm.trans hpresent)
      rw [textOfBytes_toUTF8] at houtcome
      exact {
        request := by simp [hrequest, hrefresh, hpresent]
        network := hnetwork
        fetched := by simp [hrequest]
        unchanged := fun _ => htree
        failure := by simp [houtcome, hrequest, hrefresh, hpresent]
        failed := fun _ _ => htree
        kept := by
          intro text _ htext
          rw [houtcome] at htext
          cases htext
          exact ⟨page, hpage, rfl⟩ }
  | unavailable hoffline hwants =>
      exact {
        request := by simp [hrequest, hoffline]
        network := hnetwork
        fetched := by simp [hrequest]
        unchanged := fun _ => htree
        failure := by
          intro f
          have hneeded : s.options.offline = true ∧ s.options.Wants s.found := ⟨hoffline, hwants⟩
          rw [FetchOptions.Wants] at hneeded
          rw [houtcome, Except.error.injEq, hrequest, and_iff_right hneeded]
          simp [@eq_comm _ f]
        failed := fun _ _ => htree
        kept := by simp [houtcome] }
  | refused honline hwants hstatus =>
      exact {
        request := by rw [hrequest, if_pos ⟨honline, hwants⟩]
        network := hnetwork
        fetched := by
          intro r hr hlt
          rw [hrequest, Option.mem_some_iff] at hr
          subst hr
          omega
        unchanged := fun _ => htree
        failure := by
          intro f
          rw [houtcome, Except.error.injEq, hrequest, honline]
          simp [hstatus, @eq_comm _ f]
        failed := fun _ _ => htree
        kept := by simp [hrequest] }
  | fetched honline hwants hstatus _ hwrote =>
      exact {
        request := by rw [hrequest, if_pos ⟨honline, hwants⟩]
        network := hnetwork
        fetched := by
          intro r hr _
          rw [hrequest, Option.mem_some_iff] at hr
          subst hr
          exact ⟨houtcome, htree ▸ cached?_of_wrote hwrote⟩
        unchanged := by
          intro hrefused
          exact absurd (hrefused _ (by rw [hrequest]; rfl)) (Int.not_le.2 hstatus)
        failure := by
          intro f
          have hok : ¬ 400 ≤ (s.network s.options.request).status := Int.not_le.2 hstatus
          simp [houtcome, hrequest, honline, hok]
        failed := by simp [houtcome]
        kept := by simp [hrequest] }

/-- After a retrieval the last text that was fetched is kept. -/
theorem cached?_effect :
    cached? path s.effect.tree = (lastFetched? (before ++ [s])).map String.toUTF8 := by
  subst hpath
  have hstep : Retrieved s.options s.network s.found s.request? s.effect.outcome s.effect.tree :=
    retrieved_fetch s.options s.network s.found
  rw [lastFetched?_concat]
  unfold FetchStage.fetched?
  generalize s.request? = request? at hstep ⊢
  generalize houtcome : s.effect.outcome = outcome at hstep ⊢
  generalize s.effect.tree = tree at hstep ⊢
  cases hstep with
  | disturbed _ f => exact absurd houtcome (hfiles f)
  | kept => exact hkept
  | unavailable => exact hkept
  | refused => exact hkept
  | fetched _ _ _ _ hwrote => exact cached?_of_wrote hwrote

end

/-- The last text that was fetched is kept all along a row of retrievals. -/
theorem cached?_found {path : Files.Path} {t : FileTree} {calls : List FetchCall}
    (hpath : ∀ c ∈ calls, c.options.cachePath = path)
    (hfiles : ∀ s ∈ stages t calls, s.Undisturbed) {earlier : List FetchStage}
    (hkept : cached? path t = (lastFetched? earlier).map String.toUTF8)
    {before : List FetchStage} {s : FetchStage} {after : List FetchStage}
    (hstages : stages t calls = before ++ s :: after) :
    cached? path s.found = (lastFetched? (earlier ++ before)).map String.toUTF8 := by
  -- The induction is on the calls; the first one joins the retrievals before the row.
  induction calls generalizing t earlier before with
  | nil => exact absurd hstages (by simp [stages])
  | cons c calls ih =>
      obtain ⟨hc, hcalls⟩ := List.forall_mem_cons.1 hpath
      rw [stages, List.forall_mem_cons] at hfiles
      rw [stages] at hstages
      cases before with
      | nil =>
          rw [List.nil_append, List.cons.injEq] at hstages
          rw [← hstages.1, List.append_nil]
          exact hkept
      | cons first before =>
          rw [List.cons_append, List.cons.injEq] at hstages
          have hnext := cached?_effect (s := ⟨c, t⟩) hc hfiles.1 hkept
          have hfound := ih hcalls hfiles.2 hnext hstages.2
          rwa [List.append_assoc, List.singleton_append, hstages.1] at hfound

/-- Every retrieval of a row is one that was asked for. -/
theorem mem_calls_of_mem_stages {t : FileTree} {calls : List FetchCall} {s : FetchStage}
    (hs : s ∈ stages t calls) : s.toFetchCall ∈ calls := by
  induction calls generalizing t with
  | nil => exact absurd hs List.not_mem_nil
  | cons c calls ih =>
      rw [stages, List.mem_cons] at hs
      rcases hs with rfl | hs
      · exact List.mem_cons_self
      · exact List.mem_cons_of_mem c (ih hs)

/-- **Retrievals in a row.** Where nothing is kept at first and no operation on files fails, every
retrieval of a row goes as it should after those before it. -/
theorem follows_of_stages {path : Files.Path} {t : FileTree} {calls : List FetchCall}
    (hpath : ∀ c ∈ calls, c.options.cachePath = path) (hnothing : cached? path t = none)
    (hfiles : ∀ s ∈ stages t calls, s.Undisturbed) {before : List FetchStage} {s : FetchStage}
    {after : List FetchStage} (hstages : stages t calls = before ++ s :: after) :
    Follows path before s := by
  have hs : s ∈ stages t calls := by
    rw [hstages]
    simp
  have hkept : cached? path s.found = (lastFetched? ([] ++ before)).map String.toUTF8 :=
    cached?_found hpath hfiles (by rw [hnothing]; rfl) hstages
  exact Follows.of_kept (hpath _ (mem_calls_of_mem_stages hs)) (hfiles s hs) hkept

/-- A server that gives the same answer to all requests. -/
def answering (status : Int) (text : String) (_ : Request) : Reply := ⟨status, text⟩

/-- Nothing is kept, then a page is fetched, then the server fails, and then the page is read. -/
def sampleCalls : List FetchCall :=
  [⟨{ offline := true }, answering 200 "unasked"⟩, ⟨{}, answering 200 "a\r\nb"⟩,
    ⟨{ refresh := true }, answering 503 ""⟩, ⟨{ offline := true }, answering 200 "unasked"⟩]

theorem follows_of_stages_sample :
    (∀ c ∈ sampleCalls, c.options.cachePath = ({} : FetchOptions).cachePath) ∧
    cached? ({} : FetchOptions).cachePath .empty = none ∧
    (∀ s ∈ stages .empty sampleCalls, s.Undisturbed) ∧
    ∃ before s, stages .empty sampleCalls = before ++ [s] ∧
      before.map FetchStage.fetched? = [none, some "a\r\nb", none] ∧
      s.effect.outcome.toOption = some "a\nb" ∧
      Follows ({} : FetchOptions).cachePath before s := by
  have hpath : ∀ c ∈ sampleCalls, c.options.cachePath = ({} : FetchOptions).cachePath := by
    simp [sampleCalls, FetchOptions.cachePath]
  have hfiles : ∀ s ∈ stages .empty sampleCalls, s.Undisturbed := by
    have hall : ∀ s ∈ stages .empty sampleCalls, s.effect.fileFault? = none := by decide +kernel
    exact fun s hs => Effect.fileFault?_eq_none_iff.1 (hall s hs)
  have hsplit : stages .empty sampleCalls = (stages .empty sampleCalls).dropLast ++
      [(stages .empty sampleCalls).getLast (List.cons_ne_nil _ _)] :=
    (List.dropLast_concat_getLast _).symm
  exact ⟨hpath, rfl, hfiles, _, _, hsplit, by decide +kernel, by decide +kernel,
    follows_of_stages hpath rfl hfiles hsplit⟩

end TypedReference

/-
# What writing changes in a tree

A path that leads anywhere leads to the same place in every tree, its goal. Making directories only
puts directories where nothing was, and writing a file only changes what stands at its goal, so a
file can be read back for as long as no other file is written over it.
-/
import TypedReference.Files.Tree

namespace TypedReference.Files

/-! ## Goals -/

namespace Place

/-- The place to which one part leads. -/
def step (p : Place) (part : String) : Place :=
  if part = ".." then p.up else if part = "." then p else p.child part

/-- The place to which some parts lead if nothing is in the way. -/
def along (p : Place) (parts : List String) : Place := parts.foldl step p

theorem along_append (p : Place) (parts parts' : List String) :
    p.along (parts ++ parts') = (p.along parts).along parts' := List.foldl_append

/-- Parts other than dots are names that lead down. -/
theorem along_of_names {parts : List String} (h : ∀ part ∈ parts, part ≠ ".." ∧ part ≠ ".")
    (p : Place) : p.along parts = ⟨p.base, p.names ++ parts⟩ := by
  induction parts generalizing p with
  | nil => rw [List.append_nil]; rfl
  | cons part parts ih =>
      obtain ⟨⟨hup, hstay⟩, hparts⟩ := List.forall_mem_cons.1 h
      have hstep : p.step part = p.child part := by rw [step, if_neg hup, if_neg hstay]
      have hcons : p.along (part :: parts) = (p.child part).along parts := by
        rw [along, List.foldl_cons, hstep]
        rfl
      rw [hcons, ih hparts, child, List.append_assoc, List.singleton_append]

end Place

/-- The place to which a path leads if nothing is in the way. -/
def Path.goal (p : Path) : Place := (Place.ofAnchor p.anchor).along p.parts

namespace FileTree

variable {t t' t'' : FileTree} {p : Path} {bytes : ByteArray}

/-- A part leads on from a directory that is there. -/
theorem walk_cons_eq_ok_iff {place goal : Place} {part : String} {parts : List String} :
    t.walk place (part :: parts) = .ok goal ↔ t.get? place = some .directory ∧
      part.utf8ByteSize ≤ maxNameBytes ∧ t.walk (place.step part) parts = .ok goal := by
  rw [walk, Place.step]
  split
  · next hnone => simp [hnone]
  · next hfile => simp [hfile]
  · next hdirectory =>
    rw [hdirectory, eq_self, true_and]
    by_cases hlength : maxNameBytes < part.utf8ByteSize
    · rw [if_pos hlength]
      refine iff_of_false (fun h => by cases h) ?_
      rintro ⟨hle, -⟩
      exact absurd hlength (Nat.not_lt.2 hle)
    · rw [if_neg hlength, and_iff_right (Nat.le_of_not_lt hlength)]
      split
      · rfl
      · split <;> rfl

/-- Parts that lead anywhere lead to their goal. -/
theorem eq_along_of_walk {place goal : Place} {parts : List String}
    (h : t.walk place parts = .ok goal) : goal = place.along parts := by
  induction parts generalizing place with
  | nil =>
      cases h
      rfl
  | cons part parts ih => exact ih (walk_cons_eq_ok_iff.1 h).2.2

/-- The directories of the first tree are directories in the second. -/
def KeepsDirectories (t t' : FileTree) : Prop :=
  ∀ q, t.get? q = some .directory → t'.get? q = some .directory

/-- More directories are in nobody's way. -/
theorem KeepsDirectories.walk (hkeep : t.KeepsDirectories t') {place goal : Place}
    {parts : List String} (h : t.walk place parts = .ok goal) :
    t'.walk place parts = .ok goal := by
  induction parts generalizing place with
  | nil => exact h
  | cons part parts ih =>
      obtain ⟨hdirectory, hlength, hrest⟩ := walk_cons_eq_ok_iff.1 h
      exact walk_cons_eq_ok_iff.2 ⟨hkeep place hdirectory, hlength, ih hrest⟩

/-- A path leads to a place when its text can be a path and its parts lead there. -/
theorem place_eq_ok_iff {place : Place} : t.place p = .ok place ↔
    textCause? p.text = none ∧ t.walk (.ofAnchor p.anchor) p.parts = .ok place := by
  rw [FileTree.place, placeFrom]
  split
  · next htext => simp [htext]
  · next htext =>
    rw [htext, eq_self, true_and]
    cases t.walk (.ofAnchor p.anchor) p.parts with
    | error cause => exact iff_of_false (fun h => by cases h) fun h => by cases h
    | ok goal => constructor <;> (intro h; cases h; rfl)

/-- A path that leads anywhere leads to its goal. -/
theorem eq_goal_of_place {place : Place} (h : t.place p = .ok place) : place = p.goal :=
  eq_along_of_walk (place_eq_ok_iff.1 h).2

theorem KeepsDirectories.place (hkeep : t.KeepsDirectories t') {place : Place}
    (h : t.place p = .ok place) : t'.place p = .ok place := by
  obtain ⟨htext, hwalk⟩ := place_eq_ok_iff.1 h
  exact place_eq_ok_iff.2 ⟨htext, hkeep.walk hwalk⟩

/-- What leads to a directory is a path to its goal, where the directory stands. -/
theorem isDirectory_eq_true_iff :
    t.isDirectory p = true ↔ t.place p = .ok p.goal ∧ t.get? p.goal = some .directory := by
  rw [isDirectory, find?]
  cases hplace : t.place p with
  | error f => simp
  | ok place =>
      rw [eq_goal_of_place hplace]
      simp only [true_and]
      split
      · next hdirectory => exact iff_of_true rfl hdirectory
      · next hother => exact iff_of_false Bool.false_ne_true hother

/-! ## Putting -/

section

variable {place q : Place} {e : Entry}

/-- Changing the entry at a place changes what is found there and nowhere else. -/
theorem lookup_map_replace (entries : List (Place × Entry)) :
    (entries.map fun entry => if entry.1 = place then (place, e) else entry).lookup q =
      if q = place then (entries.lookup place).map fun _ => e else entries.lookup q := by
  induction entries with
  | nil => simp
  | cons entry entries ih =>
      obtain ⟨k, old⟩ := entry
      rw [List.map_cons]
      by_cases hk : k = place
      · by_cases hq : q = place
        · simp [hk, hq]
        · simp [hk, hq, ih, List.lookup_cons, beq_eq_false_iff_ne.2 hq]
      · by_cases hq : q = place
        · have hne : (place == k) = false := beq_eq_false_iff_ne.2 (Ne.symm hk)
          rw [if_neg (by exact hk), hq, List.lookup_cons, List.lookup_cons, hne]
          simpa [hq] using ih
        · rw [if_neg (by exact hk), if_neg hq, List.lookup_cons, List.lookup_cons, ih, if_neg hq]

/-- What has been put at a place stands there. -/
theorem get?_put_self (h : place.names ≠ []) : (t.put place e).get? place = some e := by
  rw [get?, if_neg h, put]
  split
  · next hsome =>
    obtain ⟨old, hold⟩ := Option.isSome_iff_exists.1 hsome
    simp [lookup_map_replace, hold]
  · next hnone =>
    rw [Option.not_isSome_iff_eq_none] at hnone
    simp [List.lookup_append, hnone]

/-- Everything else stays as it is. -/
theorem get?_put_of_ne (h : q ≠ place) : (t.put place e).get? q = t.get? q := by
  rw [get?, get?, put]
  split
  · rfl
  · split
    · simp [lookup_map_replace, h]
    · simp [List.lookup_append, List.lookup_cons, beq_eq_false_iff_ne.2 h]

end

/-! ## Making directories -/

/-- What stands at a place is the same in both trees, or a directory is new there, for a reason
`P`. -/
def SameOrNew (P : Prop) (t t' : FileTree) (q : Place) : Prop :=
  t'.get? q = t.get? q ∨ P ∧ t.get? q = none ∧ t'.get? q = some .directory

namespace SameOrNew

variable {P P' : Prop} {q : Place}

theorem trans (h : SameOrNew P t t' q) (h' : SameOrNew P t' t'' q) : SameOrNew P t t'' q := by
  rcases h' with hsame' | ⟨hP, hnone', hnew⟩
  · rw [SameOrNew, hsame']
    exact h
  · rcases h with hsame | ⟨-, -, hdirectory⟩
    · exact Or.inr ⟨hP, hsame ▸ hnone', hnew⟩
    · rw [hnone'] at hdirectory
      cases hdirectory

theorem mono (h : SameOrNew P t t' q) (hP : P → P') : SameOrNew P' t t' q :=
  h.imp_right fun ⟨hp, hchange⟩ => ⟨hP hp, hchange⟩

/-- What stands in the first tree stands in the second. -/
theorem get?_eq_some (h : SameOrNew P t t' q) {e : Entry} (he : t.get? q = some e) :
    t'.get? q = some e := by
  rcases h with hsame | ⟨-, hnone, -⟩
  · rw [hsame, he]
  · rw [he] at hnone
    cases hnone

end SameOrNew

/-- What is no directory stands under a name. -/
theorem names_ne_nil_of_get? {q : Place} (h : t.get? q ≠ some .directory) : q.names ≠ [] := by
  intro hnames
  rw [get?, if_pos hnames] at h
  exact h rfl

/-- A directory that has been made is new. -/
theorem makeDirectory_eq_ok (h : t.makeDirectory p = .ok t') :
    (∀ q, SameOrNew (q = p.goal) t t' q) ∧ t'.isDirectory p = true := by
  rw [makeDirectory] at h
  split at h
  · cases h
  · next place hplace =>
    have hgoal := eq_goal_of_place hplace
    rw [hgoal] at h hplace
    split at h
    · cases h
    · next hnew =>
      rw [Option.not_isSome_iff_eq_none] at hnew
      have hnames : p.goal.names ≠ [] := names_ne_nil_of_get? (t := t) (by simp [hnew])
      split at h
      · cases h
        have hadds : ∀ q, SameOrNew (q = p.goal) t (t.put p.goal .directory) q := by
          intro q
          by_cases hq : q = p.goal
          · rw [hq]
            exact Or.inr ⟨rfl, hnew, get?_put_self hnames⟩
          · exact Or.inl (get?_put_of_ne hq)
        have hkeep : t.KeepsDirectories (t.put p.goal .directory) :=
          fun q hq => (hadds q).get?_eq_some hq
        exact ⟨hadds, isDirectory_eq_true_iff.2 ⟨hkeep.place hplace, get?_put_self hnames⟩⟩
      · cases h

/-- After an attempt to make a directory, it is there or the attempt has failed. -/
theorem settle_makeDirectory (t : FileTree) (p : Path) :
    (∀ q, SameOrNew (q = p.goal) t (t.settle p (t.makeDirectory p)).tree q) ∧
      ((t.settle p (t.makeDirectory p)).fault? = none →
        (t.settle p (t.makeDirectory p)).tree.isDirectory p = true) := by
  unfold settle
  split
  · next t' hmake =>
    obtain ⟨hadds, hdirectory⟩ := makeDirectory_eq_ok hmake
    exact ⟨hadds, fun _ => hdirectory⟩
  · split
    · next hthere => exact ⟨fun _ => Or.inl rfl, fun _ => hthere⟩
    · refine ⟨fun _ => Or.inl rfl, ?_⟩
      rintro ⟨⟩

/-- A place is that of a directory around some parts, or that of the parts, innermost first. -/
def Around (anchor : Anchor) (parts : List String) (q : Place) : Prop :=
  ∃ outer, outer <:+ parts ∧ q = (Path.mk anchor outer.reverse).goal

/-- The directories around some parts are those to which the first of them lead. -/
theorem around_reverse_iff {anchor : Anchor} {parts : List String} {q : Place} :
    Around anchor parts.reverse q ↔
      ∃ outer, outer <+: parts ∧ q = (Path.mk anchor outer).goal := by
  constructor
  · rintro ⟨outer, houter, hq⟩
    refine ⟨outer.reverse, ?_, hq⟩
    rwa [← List.reverse_suffix, List.reverse_reverse]
  · rintro ⟨outer, houter, hq⟩
    refine ⟨outer.reverse, List.reverse_suffix.2 houter, ?_⟩
    rwa [List.reverse_reverse]

/-- Directories are made around some parts and at the parts, and nothing else changes. -/
theorem ensureAt_spec (t : FileTree) (anchor : Anchor) (parts : List String) :
    (∀ q, SameOrNew (Around anchor parts q) t (t.ensureAt anchor parts).tree q) ∧
      ((t.ensureAt anchor parts).fault? = none →
        (t.ensureAt anchor parts).tree.isDirectory ⟨anchor, parts.reverse⟩ = true) := by
  -- The induction is on the parts; making the innermost one may need the others first.
  induction parts with
  | nil =>
      obtain ⟨hadds, hdirectory⟩ := settle_makeDirectory t ⟨anchor, []⟩
      exact ⟨fun q => (hadds q).mono fun hq => ⟨[], List.suffix_refl _, hq⟩, hdirectory⟩
  | cons part outer ih =>
      have hself : ∀ q, q = (Path.mk anchor (part :: outer).reverse).goal →
          Around anchor (part :: outer) q := fun q hq => ⟨_, List.suffix_refl _, hq⟩
      have houter : ∀ q, Around anchor outer q → Around anchor (part :: outer) q := by
        rintro q ⟨more, hmore, rfl⟩
        exact ⟨more, hmore.trans (List.suffix_cons part outer), rfl⟩
      obtain ⟨hadds, -⟩ := ih
      rw [ensureAt]
      simp only
      split
      · split
        · next hfault =>
          refine ⟨fun q => (hadds q).mono (houter q), ?_⟩
          intro hnone
          rw [hnone] at hfault
          cases hfault
        · obtain ⟨hadds', hdirectory⟩ := settle_makeDirectory (t.ensureAt anchor outer).tree
            ⟨anchor, (part :: outer).reverse⟩
          exact ⟨fun q => ((hadds q).mono (houter q)).trans ((hadds' q).mono (hself q)), hdirectory⟩
      · obtain ⟨hadds', hdirectory⟩ := settle_makeDirectory t ⟨anchor, (part :: outer).reverse⟩
        exact ⟨fun q => (hadds' q).mono (hself q), hdirectory⟩

/-! ## Writing -/

/-- A file that is written stands at its goal, and nothing else changes. -/
theorem write_eq_ok (h : t.write p bytes = .ok t') :
    t.place p = .ok p.goal ∧ t.get? p.goal ≠ some .directory ∧
      t'.get? p.goal = some (.file bytes) ∧ ∀ q, q ≠ p.goal → t'.get? q = t.get? q := by
  rw [write] at h
  split at h
  · cases h
  · next place hplace =>
    have hgoal := eq_goal_of_place hplace
    rw [hgoal] at h hplace
    split at h
    · cases h
    · next hfree =>
      split at h
      · cases h
        exact ⟨hplace, hfree, get?_put_self (names_ne_nil_of_get? hfree),
          fun q hq => get?_put_of_ne hq⟩
      · cases h

/-- A file has been written at a path: it stands at the goal, where no directory was, directories
may be new around it, and nothing else has changed. -/
structure Wrote (t : FileTree) (p : Path) (bytes : ByteArray) (t' : FileTree) : Prop where
  /-- The path leads to its goal. -/
  place : t'.place p = .ok p.goal
  /-- The file stands there. -/
  file : t'.get? p.goal = some (.file bytes)
  /-- No directory has been replaced. -/
  free : t.get? p.goal ≠ some .directory
  /-- Everything else is as it was, but for directories around the file. -/
  others : ∀ q, q ≠ p.goal → SameOrNew (Around p.anchor p.parent.parts.reverse q) t t' q

/-- Writing a file with the directories around it fails and leaves only these, or the directories
are there and the file is written. -/
theorem writeWithin_cases (t : FileTree) (p : Path) (bytes : ByteArray) :
    ((t.writeWithin p bytes).fault? ≠ none ∧
        (t.writeWithin p bytes).tree = (t.ensureDirectory p.parent).tree) ∨
      (t.writeWithin p bytes).fault? = none ∧ (t.ensureDirectory p.parent).fault? = none ∧
        (t.ensureDirectory p.parent).tree.write p bytes = .ok (t.writeWithin p bytes).tree := by
  rw [writeWithin]
  split
  · next hfault => exact Or.inl ⟨Option.isSome_iff_ne_none.1 hfault, rfl⟩
  · next hnone =>
    rw [Option.not_isSome_iff_eq_none] at hnone
    cases hwrite : (t.ensureDirectory p.parent).tree.write p bytes with
    | error f => exact Or.inl ⟨by simp, rfl⟩
    | ok t' => exact Or.inr ⟨rfl, hnone, rfl⟩

/-- Making the directories around a file changes nothing else. -/
theorem sameOrNew_ensureParent (t : FileTree) (p : Path) (q : Place) :
    SameOrNew (Around p.anchor p.parent.parts.reverse q) t (t.ensureDirectory p.parent).tree q :=
  (ensureAt_spec t p.anchor p.parent.parts.reverse).1 q

/-- **What writing changes.** Writing a file with the directories around it either fails or puts the
file at its goal and changes nothing but these directories. -/
theorem wrote_writeWithin (h : (t.writeWithin p bytes).fault? = none) :
    t.Wrote p bytes (t.writeWithin p bytes).tree := by
  have hadds := sameOrNew_ensureParent t p
  rcases writeWithin_cases t p bytes with ⟨hfault, -⟩ | ⟨-, -, hwrite⟩
  · exact absurd h hfault
  · obtain ⟨hplace, hfree, hfile, hothers⟩ := write_eq_ok hwrite
    have hkeep : (t.ensureDirectory p.parent).tree.KeepsDirectories
        (t.writeWithin p bytes).tree := by
      intro q hq
      rw [hothers q (by rintro rfl; exact hfree hq), hq]
    refine ⟨hkeep.place hplace, hfile, ?_, ?_⟩
    · exact fun hdirectory => hfree ((hadds _).get?_eq_some hdirectory)
    · intro q hq
      rw [SameOrNew, hothers q hq]
      exact hadds q

/-- No directory goes away. -/
theorem Wrote.keepsDirectories (h : t.Wrote p bytes t') : t.KeepsDirectories t' := by
  intro q hq
  exact (h.others q (by rintro rfl; exact h.free hq)).get?_eq_some hq

/-- At most the file of a path has changed, and directories around it are new. -/
def Touches (p : Path) (t t' : FileTree) : Prop :=
  ∀ q, SameOrNew (Around p.anchor p.parent.parts.reverse q) t t' q ∨
    q = p.goal ∧ t.get? q ≠ some .directory ∧ ∃ bytes, t'.get? q = some (.file bytes)

theorem Touches.refl (p : Path) (t : FileTree) : Touches p t t := fun _ => Or.inl (Or.inl rfl)

/-- Only the file of the path is another file afterwards. -/
theorem Touches.get?_eq_file_iff (h : Touches p t t') {q : Place} (hq : q ≠ p.goal)
    (bytes : ByteArray) : t'.get? q = some (.file bytes) ↔ t.get? q = some (.file bytes) := by
  rcases h q with (hsame | ⟨-, hnone, hnew⟩) | ⟨hgoal, -⟩
  · rw [hsame]
  · rw [hnone, hnew]
    simp
  · exact absurd hgoal hq

theorem Wrote.touches (h : t.Wrote p bytes t') : Touches p t t' := by
  intro q
  by_cases hq : q = p.goal
  · rw [hq]
    exact Or.inr ⟨rfl, h.free, bytes, h.file⟩
  · exact Or.inl (h.others q hq)

/-- Writing a file with the directories around it touches nothing else, also when it fails. -/
theorem touches_writeWithin (t : FileTree) (p : Path) (bytes : ByteArray) :
    Touches p t (t.writeWithin p bytes).tree := by
  rcases writeWithin_cases t p bytes with ⟨-, htree⟩ | ⟨hnone, -⟩
  · rw [htree]
    exact fun q => Or.inl (sameOrNew_ensureParent t p q)
  · exact (wrote_writeWithin hnone).touches

/-- A file at the goal of a path that leads there can be read. -/
theorem read_eq_ok (hplace : t.place p = .ok p.goal) (hfile : t.get? p.goal = some (.file bytes)) :
    t.read p = .ok bytes := by
  have hplace' : t.placeFrom p.anchor p.parts p.text = .ok p.goal := hplace
  rw [read, readFrom, hplace']
  simp only [hfile]

end FileTree

end TypedReference.Files

/-
# No member is lost silently

Every member that a table lists and every constant that is attached stands in a declaration, as a
member or as an overload, or is reported; only modules without members get no declaration. The
counts that an assembly keeps are those of what has happened.
-/
import TypedReference.Generation
import TypedReference.Proofs.Assembly.Result
import TypedReference.Proofs.Reports

namespace TypedReference

/-! ## Counting members -/

/-- How many members some declarations have. -/
def memberTotal (ds : List Declaration) : Nat := (ds.flatMap fun d => d.members).length

theorem memberTotal_cons (d : Declaration) (ds : List Declaration) :
    memberTotal (d :: ds) = d.members.length + memberTotal ds := by
  rw [memberTotal, List.flatMap_cons, List.length_append, ← memberTotal]

theorem memberTotal_append (ds ds' : List Declaration) :
    memberTotal (ds ++ ds') = memberTotal ds + memberTotal ds' := by
  rw [memberTotal, List.flatMap_append, List.length_append, ← memberTotal, ← memberTotal]

/-- Each constant that is attached is one more member. -/
theorem memberTotal_attachAll {paths : List String} {ds out : List Declaration} {n : Nat}
    (h : (attachAll paths ds).outcome = .ok (out, n)) : memberTotal out = memberTotal ds + n := by
  induction paths generalizing ds out n with
  | nil =>
      cases h
      rfl
  | cons path paths ih =>
      rw [attachAll, Logged.outcome_andThen_eq_ok_iff] at h
      obtain ⟨⟨owner, name⟩, -, h⟩ := h
      simp only at h
      split at h
      · next ds' hds' =>
        rw [Logged.outcome_map_eq_ok_iff] at h
        obtain ⟨⟨out', k⟩, hout, hpair⟩ := h
        cases hpair
        obtain ⟨before, d, after, rfl, -, -, rfl⟩ := attachTo?_eq_some hds'
        rw [ih hout, memberTotal_append, memberTotal_append, memberTotal_cons, memberTotal_cons,
          List.length_append, List.length_singleton]
        omega
      · rw [Logged.outcome_andThen_eq_ok_iff] at h
        obtain ⟨-, -, h⟩ := h
        exact ih h

/-- The members of a declaration are kept, become overloads, or are reported. -/
theorem Declaration.counts_mergeOverloads {d : Declaration}
    (h : ∀ m ∈ d.members, m.overloads = []) :
    d.mergeOverloads.members.length + d.mergedAway = d.members.length ∧
      Member.overloadCount d.mergeOverloads.members + d.mergeEvents.length = d.mergedAway := by
  have hcount := Member.length_add_collisions d.dottedPath h []
  have hnone : Member.overloadCount [] = 0 := rfl
  rw [← Member.merged_eq_foldl, List.length_nil, hnone] at hcount
  have hmerged : d.mergeOverloads.members = Member.merged d.members := rfl
  have hlength := d.length_mergeOverloads
  rw [hmerged] at hlength ⊢
  rw [mergeEvents]
  constructor <;> omega

/-- What holds of each declaration holds of all of them together. -/
theorem total_counts_mergeOverloads {ds : List Declaration}
    (h : ∀ d ∈ ds, ∀ m ∈ d.members, m.overloads = []) :
    memberTotal (ds.map Declaration.mergeOverloads) + Declaration.mergedAwayFrom ds =
        memberTotal ds ∧
      ((ds.map Declaration.mergeOverloads).flatMap fun d =>
          d.members.flatMap fun m => m.overloads).length +
          (ds.flatMap Declaration.mergeEvents).length =
        Declaration.mergedAwayFrom ds := by
  induction ds with
  | nil => exact ⟨rfl, rfl⟩
  | cons d ds ih =>
      obtain ⟨hd, hds⟩ := List.forall_mem_cons.1 h
      obtain ⟨hmembers, hoverloads⟩ := Declaration.counts_mergeOverloads hd
      obtain ⟨ihmembers, ihoverloads⟩ := ih hds
      rw [Member.overloadCount] at hoverloads
      simp only [List.map_cons, List.flatMap_cons, List.length_append, memberTotal_cons,
        Declaration.mergedAwayFrom_cons]
      constructor <;> omega

/-! ## Counting reports -/

/-- Merging reports nothing but dropped members. -/
theorem Member.isCollision_of_mem_collisions {owner : String} {seen members : List Member}
    {e : Event} (h : e ∈ collisions owner seen members) : e.isCollision = true := by
  induction members generalizing seen with
  | nil => exact absurd h List.not_mem_nil
  | cons m members ih =>
      rw [collisions] at h
      split at h
      · exact ih h
      · split at h
        · exact ih h
        · rcases List.mem_cons.1 h with rfl | h
          · rfl
          · exact ih h

theorem Event.isOwnerMissing_eq_false {e : Event} (h : e.isCollision = true) :
    e.isOwnerMissing = false := by
  cases e <;> first | rfl | cases h

namespace Assembly

variable {cfg : Conventions} {sections : List Section} {made : List (Option Declaration)}

/-- In the log of a run, the constants without owners and the dropped members are those that are
reported after the reading. -/
theorem countP_events (h : (reading cfg sections).outcome = .ok made) {p : Event → Bool}
    (hp : ∀ e : Event, e.OfReading → p e = false) :
    (ofSections cfg sections).events.countP p = (eventsOfMade sections made).countP p := by
  have hregistration : (registrationEvents sections).countP p = 0 := by
    rw [List.countP_eq_zero]
    intro e he
    have hregister : e.OfReading := by
      rw [registrationEvents, List.mem_pair] at he
      rcases he with rfl | rfl <;> exact ⟨rfl, rfl⟩
    rw [hp e hregister]
    exact Bool.false_ne_true
  have hreading : (reading cfg sections).events.countP p = 0 := by
    rw [List.countP_eq_zero]
    intro e he
    rw [hp e (Logged.Reports.mapAll (fun s _ => reports_assemble s) e he)]
    exact Bool.false_ne_true
  rw [ofSections_of_reading h, List.countP_append, List.countP_append, hregistration, hreading]
  omega

/-- A constant is attached or reported. -/
theorem attached_add_countP (h : (reading cfg sections).outcome = .ok made) :
    (ofMade sections made).attached + (ofSections cfg sections).events.countP Event.isOwnerMissing =
      (ofMade sections made).constants.size := by
  have hmerge : ((givenTo sections made).flatMap Declaration.mergeEvents).countP
      Event.isOwnerMissing = 0 := by
    rw [List.countP_eq_zero]
    intro e he
    obtain ⟨d, -, he⟩ := List.mem_flatMap.1 he
    rw [Event.isOwnerMissing_eq_false (Member.isCollision_of_mem_collisions he)]
    exact Bool.false_ne_true
  have hall : ∀ paths : List String, (paths.map fun path =>
      Event.ownerMissing (Constant.ownerPath path) path).countP Event.isOwnerMissing =
        paths.length := by
    intro paths
    rw [List.countP_map]
    exact List.countP_eq_length.2 fun _ _ => rfl
  have hsplit := List.length_eq_countP_add_countP (Constant.isOwned (made.filterMap id))
    (l := constantPaths sections)
  rw [countP_events h fun e he => he.1, eventsOfMade, List.countP_append, hmerge, hall,
    ← List.countP_eq_length_filter]
  simpa only [ofMade, Registry.size, constantPaths, Bool.not_eq_true, Bool.decide_eq_false,
    Nat.add_zero] using hsplit.symm

/-- The dropped members are reported when members are merged. -/
theorem countP_isCollision (h : (reading cfg sections).outcome = .ok made) :
    (ofSections cfg sections).events.countP Event.isCollision =
      ((givenTo sections made).flatMap Declaration.mergeEvents).length := by
  have howners : ∀ paths : List String, (paths.map fun path =>
      Event.ownerMissing (Constant.ownerPath path) path).countP Event.isCollision = 0 := by
    intro paths
    rw [List.countP_map]
    exact List.countP_eq_zero.2 fun _ _ => Bool.false_ne_true
  rw [countP_events h fun e he => he.2, eventsOfMade, List.countP_append, howners, Nat.zero_add]
  apply List.countP_eq_length.2
  intro e he
  obtain ⟨d, -, he⟩ := List.mem_flatMap.1 he
  exact Member.isCollision_of_mem_collisions he

/-! ## Sections and their declarations -/

/-- A section that is read has been made into what its tables list. -/
theorem exists_listed (h : (reading cfg sections).outcome = .ok made) :
    ∃ listed, List.Forall₂ (fun s parts => (Logged.mapAll
        (membersOfTable cfg (ClassPaths.ofSections sections) s) s.tables).outcome = .ok parts)
        sections listed ∧
      made = List.zipWith Section.declaration? sections listed := by
  have hsteps := Logged.outcome_mapAll_eq_ok_iff.1 h
  generalize ClassPaths.ofSections sections = classes at hsteps
  clear h
  induction hsteps with
  | nil => exact ⟨[], .nil, rfl⟩
  | cons hstep _ ih =>
      obtain ⟨listed, hlisted, rfl⟩ := ih
      rw [assemble_eq, Logged.outcome_andThen_eq_ok_iff] at hstep
      obtain ⟨parts, hparts, hmake⟩ := hstep
      rw [Section.outcome_make] at hmake
      refine ⟨parts :: listed, .cons hparts hlisted, ?_⟩
      rw [List.zipWith_cons_cons, Except.ok.inj hmake]

section

variable {listed : List (List (List Member))}

/-- What is dropped of sections whose tables list some members. -/
theorem droppedNames_zipWith (h : sections.length = listed.length) :
    droppedNames sections (List.zipWith Section.declaration? sections listed) =
      ((sections.zip listed).filter fun p => p.1.isDropped p.2).map fun p => p.1.dottedName := by
  induction sections generalizing listed with
  | nil => rfl
  | cons s sections ih =>
      cases listed with
      | nil => cases h
      | cons parts listed =>
          have hrest := ih (Nat.succ.inj h)
          rw [droppedNames] at hrest ⊢
          rw [List.zipWith_cons_cons, List.zip_cons_cons, List.zip_cons_cons, List.filterMap_cons,
            hrest, List.filter_cons, Section.declaration?]
          cases s.isDropped parts <;> rfl

/-- What is kept of sections whose tables list some members. -/
theorem filterMap_zipWith (h : sections.length = listed.length) :
    (List.zipWith Section.declaration? sections listed).filterMap id =
      ((sections.zip listed).filter fun p => !p.1.isDropped p.2).map
        fun p => p.1.declaration p.2 := by
  induction sections generalizing listed with
  | nil => rfl
  | cons s sections ih =>
      cases listed with
      | nil => cases h
      | cons parts listed =>
          rw [List.zipWith_cons_cons, List.zip_cons_cons, List.filterMap_cons,
            ih (Nat.succ.inj h), List.filter_cons, Section.declaration?]
          cases s.isDropped parts <;> rfl

/-- No listed member is dropped with its section. -/
theorem memberTotal_zipWith (h : sections.length = listed.length) :
    memberTotal ((List.zipWith Section.declaration? sections listed).filterMap id) =
      listed.flatten.flatten.length := by
  induction sections generalizing listed with
  | nil =>
      cases listed with
      | nil => rfl
      | cons parts listed => cases h
  | cons s sections ih =>
      cases listed with
      | nil => cases h
      | cons parts listed =>
          rw [List.zipWith_cons_cons, List.filterMap_cons, List.flatten_cons, List.flatten_append,
            List.length_append, ← ih (Nat.succ.inj h), Section.declaration?]
          cases hdrop : s.isDropped parts with
          | false => exact memberTotal_cons _ _
          | true =>
              -- A section is only dropped when its tables list nothing.
              rw [Section.isDropped, Bool.and_eq_true, List.isEmpty_iff] at hdrop
              rw [hdrop.1, List.length_nil, Nat.zero_add]
              rfl

end

/-- No declaration has overloads before its members are merged. -/
theorem overloads_eq_nil_of_mem_givenTo (h : (reading cfg sections).outcome = .ok made) :
    ∀ d ∈ givenTo sections made, ∀ m ∈ d.members, m.overloads = [] := by
  have houtcome : (attachConstants (made.filterMap id) (ConstantPaths.ofSections sections)).outcome
      = .ok (givenTo sections made, (ofMade sections made).attached) := by
    rw [attachConstants_eq]
  intro d hd m hm
  obtain ⟨base, hbase, names, rfl⟩ :=
    Logged.exists_of_mem_right (forall₂_extends_attachAll houtcome) hd
  rcases List.mem_append.1 hm with hm | hm
  · exact List.cons.inj (listed_of_mem_made h base hbase m hm).kinds_eq |>.2
  · obtain ⟨name, -, rfl⟩ := List.mem_map.1 hm
    rfl

/-! ## The balance of an assembly -/

/-- An assembly with its log accounts for what the tables of its sections list. -/
structure Accounts (cfg : Conventions) (sections : List Section)
    (listed : List (List (List Member))) (a : Assembly) (log : List Event) : Prop where
  /-- Each table of each section lists its members. -/
  tables : List.Forall₂ (fun s parts => (Logged.mapAll
    (membersOfTable cfg (ClassPaths.ofSections sections) s) s.tables).outcome = .ok parts)
    sections listed
  /-- The dropped sections are the modules whose tables list nothing. -/
  dropped : a.dropped = ((sections.zip listed).filter fun p =>
    p.1.kind = .module ∧ p.2.flatten = []).map fun p => p.1.dottedName
  /-- The declarations are those of the other sections, in order. -/
  kept : List.Forall₂ (fun p d => (p.1.declaration p.2).Finishes d)
    ((sections.zip listed).filter fun p => ¬ (p.1.kind = .module ∧ p.2.flatten = []))
    a.declarations
  /-- What is listed or attached is a member or has been merged away. -/
  members : a.memberCount + a.mergedAway = listed.flatten.flatten.length + a.attached
  /-- A constant is attached or reported. -/
  constants : a.attached + log.countP Event.isOwnerMissing = a.constants.size
  /-- What has been merged away is an overload or reported. -/
  overloads : a.overloadCount + log.countP Event.isCollision = a.mergedAway

/-- **No member is lost silently.** Whatever page is assembled, the result and the log account for
every member that its tables list and for every constant that it mentions. -/
theorem accounts_ofSections {a : Assembly} (h : (ofSections cfg sections).outcome = .ok a) :
    ∃ listed, Accounts cfg sections listed a (ofSections cfg sections).events := by
  obtain ⟨made, hmade, rfl⟩ := outcome_ofSections_eq_ok_iff.1 h
  obtain ⟨listed, hlisted, hzip⟩ := exists_listed hmade
  have hdropped := droppedNames_zipWith hlisted.length_eq
  have hkept := filterMap_zipWith hlisted.length_eq
  have htotal := memberTotal_zipWith hlisted.length_eq
  rw [← hzip] at hdropped hkept htotal
  have hisDropped : ∀ p : Section × List (List Member), p.1.isDropped p.2 =
      decide (p.1.kind = .module ∧ p.2.flatten = []) := by
    intro p
    rw [Section.isDropped, Bool.decide_and, Bool.and_comm]
    congr 1
    rw [Bool.eq_iff_iff, List.isEmpty_iff, decide_eq_true_eq]
  obtain ⟨hmembers, hoverloads⟩ :=
    total_counts_mergeOverloads (overloads_eq_nil_of_mem_givenTo hmade)
  refine ⟨listed, hlisted, ?_, ?_, ?_, attached_add_countP hmade, ?_⟩
  · simp only [hisDropped] at hdropped
    exact hdropped
  · obtain ⟨made', hmade', hfinishes⟩ := forall₂_finishes_ofSections h
    have hsame : made' = made := by
      have hboth := hmade'.symm.trans hmade
      exact Except.ok.inj hboth
    rw [hsame, hkept, List.forall₂_map_left_iff] at hfinishes
    simpa only [hisDropped, decide_not] using hfinishes
  · -- Attaching adds its constants to what the tables list, and merging takes away what it counts.
    have hattached : memberTotal (givenTo sections made) =
        memberTotal (made.filterMap id) + (ofMade sections made).attached := by
      have houtcome : (attachAll (constantPaths sections) (made.filterMap id)).outcome =
          .ok (givenTo sections made, (ofMade sections made).attached) :=
        congrArg Logged.outcome (attachConstants_eq sections made)
      exact memberTotal_attachAll houtcome
    rw [← htotal, ← hattached]
    exact hmembers
  · rw [countP_isCollision hmade]
    exact hoverloads

/-- A module without members, and a class with a property that is listed twice and two constants,
one of which no declaration owns. -/
def regionSections : List Section :=
  [.moduleAt "sublime" [], .classAt "sublime" "Region" [⟨["properties", "type", "description"],
    [["a", "", "sublime.Region.EMPTY"], ["a", "", "See sublime.Area.EMPTY"]]⟩]]

theorem accounts_ofSections_region :
    ∃ a, (ofSections {} regionSections).outcome = .ok a ∧
      (a.memberCount, a.mergedAway, a.attached, a.dropped) = (2, 1, 1, ["sublime"]) ∧
      ∃ listed, Accounts {} regionSections listed a (ofSections {} regionSections).events :=
  ⟨_, rfl, rfl, accounts_ofSections rfl⟩

end Assembly

end TypedReference

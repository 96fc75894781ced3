/-
# Names of members

Which declarations of a page have members without a name. Properties and constants always have
names; a method or a constructor has the name of its signature, and only that can be empty. On a
page, such an empty name is all that makes a declaration unacceptable.
-/
import TypedReference.Proofs.Assembly.Acceptance
import TypedReference.Proofs.Assembly.Result
import TypedReference.Proofs.Signature.Names

namespace TypedReference

open Text

/-! ## Names from tables -/

/-- The rows of a table in which signatures are read. -/
def Table.signatureRows (t : Table) : List (List String) :=
  match t.role? with
  | some (.methods _) => t.rows
  | some .constructors => t.rows.take 1
  | _ => []

section

variable {cfg : Conventions} {classes : ClassPaths}

/-- A method has a name when its row has one. -/
theorem named_methodOfRow {isStatic : Bool} {row : List String} {m? : Option Member}
    (h : (methodOfRow cfg classes isStatic row).outcome = .ok m?) :
    (∀ m ∈ m?, m.name ≠ "") ↔ ¬ Nameless (cell row 0).toList := by
  rw [methodOfRow, Logged.outcome_andThen_eq_ok_iff] at h
  obtain ⟨sig?, hsig, h⟩ := h
  cases sig? with
  | none =>
      cases h
      simp [not_nameless_of_none hsig]
  | some sig =>
      rw [Logged.outcome_map_eq_ok_iff] at h
      obtain ⟨ret, -, rfl⟩ := h
      simp [← Signature.name_eq_empty_iff hsig]

/-- A constructor has a name when its row has one. -/
theorem named_constructorOfRows {owner : String} {rows : List (List String)} {m : Member}
    (h : (constructorOfRows cfg classes owner rows).outcome = .ok m) :
    m.name ≠ "" ↔ ∀ row ∈ rows.take 1, ¬ Nameless (cell row 0).toList := by
  cases rows with
  | nil => cases h
  | cons row more =>
      rw [constructorOfRows, Logged.outcome_andThen_eq_ok_iff] at h
      obtain ⟨-, -, h⟩ := h
      rw [Logged.outcome_andThen_eq_ok_iff] at h
      obtain ⟨sig?, hsig, h⟩ := h
      cases sig? with
      | none => cases h
      | some sig =>
          cases h
          simp [← Signature.name_eq_empty_iff hsig]

/-- A property has a name. -/
theorem named_propertyOfRow {row : List String} {m? : Option Member}
    (h : (propertyOfRow cfg classes row).outcome = .ok m?) : ∀ m ∈ m?, m.name ≠ "" := by
  unfold propertyOfRow at h
  simp only at h
  split at h
  · cases h
    simp
  · next hname =>
    rw [Logged.outcome_map_eq_ok_iff] at h
    obtain ⟨t, -, rfl⟩ := h
    intro m hm
    cases hm
    apply cfg.escaped_ne_empty
    intro hempty
    rw [String.ofList_eq_empty_iff] at hempty
    simp [hempty] at hname

/-- What a table lists has names when its signatures have. -/
theorem named_membersOfTable {s : Section} {t : Table} {ms : List Member}
    (h : (membersOfTable cfg classes s t).outcome = .ok ms) :
    (∀ m ∈ ms, m.name ≠ "") ↔ ∀ row ∈ t.signatureRows, ¬ Nameless (cell row 0).toList := by
  unfold membersOfTable at h
  unfold Table.signatureRows Table.role?
  simp only at h
  split at h
  · next hrole =>
    rw [Logged.outcome_map_eq_ok_iff] at h
    obtain ⟨found, hfound, rfl⟩ := h
    rw [Logged.outcome_mapAll_eq_ok_iff] at hfound
    rw [hrole, List.forall_mem_filterMap]
    exact Logged.forall_mem_right_iff hfound fun row m? => named_methodOfRow
  · next hrole =>
    rw [Logged.outcome_map_eq_ok_iff] at h
    obtain ⟨m, hm, rfl⟩ := h
    rw [hrole, List.forall_mem_singleton]
    exact named_constructorOfRows hm
  · next hrole =>
    rw [Logged.outcome_map_eq_ok_iff] at h
    obtain ⟨found, hfound, rfl⟩ := h
    rw [hrole, List.forall_mem_filterMap]
    refine iff_of_true ?_ (by simp)
    intro m? hm?
    obtain ⟨row, -, hrow⟩ := Logged.exists_of_mem_mapAll hfound hm?
    exact named_propertyOfRow hrow
  · next hrole =>
    cases h
    rw [hrole]
    simp

/-- The members of a section have names when its signatures have. -/
theorem named_assemble {s : Section} {d? : Option Declaration}
    (h : (assemble cfg classes s).outcome = .ok d?) :
    (∀ d ∈ d?, ∀ m ∈ d.members, m.name ≠ "") ↔
      ∀ t ∈ s.tables, ∀ row ∈ t.signatureRows, ¬ Nameless (cell row 0).toList := by
  rw [assemble_eq, Logged.outcome_andThen_eq_ok_iff] at h
  obtain ⟨parts, hparts, h⟩ := h
  rw [Section.outcome_make, Except.ok.injEq] at h
  rw [Logged.outcome_mapAll_eq_ok_iff] at hparts
  rw [← Logged.forall_mem_right_iff hparts fun t ms => named_membersOfTable]
  rw [← List.forall_mem_flatten, ← h, Section.declaration?, Section.isDropped]
  split
  · next hdrop =>
    -- A section is only dropped when it lists nothing.
    rw [Bool.and_eq_true, List.isEmpty_iff] at hdrop
    simp [hdrop.1]
  · simp [Section.declaration]

end

/-! ## Names of constants -/

namespace Constant

/-- The name of a constant that has an owner is what stands behind its last dot. -/
theorem simpleName_eq {path : String} (h : ∃ o, owner path = .ok o) :
    simpleName path = String.ofList (path.toList.rtakeWhile (· != '.')) := by
  obtain ⟨o, ho⟩ := h
  rw [simpleName, ho]
  unfold owner at ho
  simp only [getLast?_splitOn] at ho
  split at ho
  · next parent name hparent hname =>
    cases ho
    rw [← Option.some.inj hname]
    rfl
  · cases ho

/-- The name of a constant holds no dot. -/
theorem dot_not_mem_of_isConstantName {x : List Char} (h : isConstantName x = true) :
    '.' ∉ x := by
  cases x with
  | nil => exact List.not_mem_nil
  | cons c r =>
      rw [isConstantName, Bool.and_eq_true, List.all_eq_true] at h
      rw [List.mem_cons, not_or]
      constructor
      · rintro rfl
        exact absurd h.1 (by decide)
      · intro hr
        exact absurd (h.2 '.' hr) (by decide)

/-- What a text mentions has the name of a constant. -/
theorem exists_isConstantName_of_mem_mentions {text path : String} (h : path ∈ mentions text) :
    ∃ name, isConstantName name = true ∧ simpleName path = String.ofList name := by
  have howner := exists_owner_of_mem_mentions h
  obtain ⟨l, hl, rfl⟩ := List.mem_map.1 h
  obtain ⟨chain, -, hchain⟩ := List.mem_filterMap.1 hl
  unfold ofChain? at hchain
  split at hchain
  · cases hchain
  · next name _ =>
    simp only at hchain
    split at hchain
    · next hcond =>
      cases hchain
      rw [Bool.and_eq_true] at hcond
      refine ⟨name, hcond.1, ?_⟩
      rw [simpleName_eq howner, String.toList_ofList,
        rtakeWhile_joinWith (dot_not_mem_of_isConstantName hcond.1)]
    · cases hchain

end Constant

/-- The constants that a declaration is given have names. -/
theorem Assembly.ne_empty_of_mem_namesOf {sections : List Section} {declaration : List String} :
    ∀ name ∈ Constant.namesOf (constantPaths sections) declaration, name ≠ "" := by
  intro name hname
  obtain ⟨path, hpath, rfl⟩ := List.mem_map.1 hname
  have hmem : path ∈ sections.flatMap fun s => s.tables.flatMap ConstantPaths.ofTable :=
    List.mem_eraseDups.1 (List.mem_of_mem_filter hpath)
  obtain ⟨s, -, hs⟩ := List.mem_flatMap.1 hmem
  obtain ⟨t, -, ht⟩ := List.mem_flatMap.1 hs
  obtain ⟨text, -, htext⟩ := List.mem_flatMap.1 ht
  obtain ⟨name, hname, hsimple⟩ := Constant.exists_isConstantName_of_mem_mentions htext
  rw [hsimple]
  intro hempty
  rw [String.ofList_eq_empty_iff] at hempty
  rw [hempty] at hname
  exact absurd hname (by decide)

/-! ## Names on a page -/

/-- Merging takes no name away. -/
theorem Member.forall_name_merged {P : String → Prop} {members : List Member} :
    (∀ m ∈ merged members, P m.name) ↔ ∀ m ∈ members, P m.name := by
  rw [← List.forall_mem_map, names_merged]
  simp only [List.mem_eraseDups, List.forall_mem_map]

/-- Each declaration gets some of the constants that its path owns. -/
theorem Declaration.forall₂_giveEach (names : List String → List String)
    (earlier : List (List String)) (ds : List Declaration) :
    List.Forall₂ (fun d d' => ∃ given, d' = d.withConstants given ∧ given ⊆ names d.path) ds
      (giveEach names earlier ds) := by
  induction ds generalizing earlier with
  | nil => exact List.Forall₂.nil
  | cons d ds ih =>
      refine List.Forall₂.cons ⟨_, rfl, ?_⟩ (ih (d.path :: earlier))
      split
      · exact List.nil_subset _
      · exact List.Subset.refl _

namespace Assembly

variable {cfg : Conventions} {sections : List Section}

/-- Finished declarations have named members when the declarations have that are made of the
sections. -/
theorem named_ofMade {made : List (Option Declaration)} :
    (∀ d ∈ (ofMade sections made).declarations, ∀ m ∈ d.members, m.name ≠ "") ↔
      ∀ d? ∈ made, ∀ d ∈ d?, ∀ m ∈ d.members, m.name ≠ "" := by
  have hgiven : (∀ d ∈ givenTo sections made, ∀ m ∈ d.mergeOverloads.members, m.name ≠ "") ↔
      ∀ d ∈ made.filterMap id, ∀ m ∈ d.members, m.name ≠ "" := by
    apply Logged.forall_mem_right_iff (Declaration.forall₂_giveEach _ _ _)
    rintro d d' ⟨given, rfl, hgiven⟩
    rw [Declaration.mergeOverloads, Member.forall_name_merged (P := fun x => x ≠ ""),
      Declaration.withConstants, List.forall_mem_append, List.forall_mem_map]
    exact and_iff_left fun name hname => ne_empty_of_mem_namesOf name (hgiven hname)
  rw [ofMade, List.forall_mem_map, hgiven, List.forall_mem_filterMap]
  rfl

/-- The members of a page have names when its signatures have. -/
theorem named_ofSections {a : Assembly} (h : (ofSections cfg sections).outcome = .ok a) :
    (∀ d ∈ a.declarations, ∀ m ∈ d.members, m.name ≠ "") ↔
      ∀ s ∈ sections, ∀ t ∈ s.tables, ∀ row ∈ t.signatureRows, ¬ Nameless (cell row 0).toList := by
  obtain ⟨made, hmade, rfl⟩ := outcome_ofSections_eq_ok_iff.1 h
  rw [named_ofMade]
  exact Logged.forall_mem_right_iff (Logged.outcome_mapAll_eq_ok_iff.1 hmade)
    fun s d? => named_assemble

/-- Where no segment of a section path is empty, only members without names are unacceptable. -/
theorem acceptable_iff_named {a : Assembly}
    (hpaths : ∀ s ∈ sections, ∀ segment ∈ s.path, segment ≠ "")
    (h : (ofSections cfg sections).outcome = .ok a) {d : Declaration} (hd : d ∈ a.declarations) :
    declarationViolation? d.toDatum = none ↔ ∀ m ∈ d.members, m.name ≠ "" := by
  obtain ⟨s, hs, base, hbase, hfinishes⟩ := exists_section_of_mem h hd
  obtain ⟨hpackage, hname, -⟩ := assemble_eq_ok_some hbase
  obtain ⟨hpackage_ne, hname_ne⟩ := Section.identity_ne_empty (hpaths s hs)
  obtain ⟨names, rfl⟩ := hfinishes
  have hfits := fits_references_of_mem (ClassPaths.usable_ofSections sections).ne_nil h _ hd
  rw [declarationViolation?_toDatum]
  constructor
  · rintro ⟨-, -, hmembers⟩ m hm
    exact (hmembers m hm).1
  · intro hnames
    refine ⟨?_, ?_, fun m hm => ⟨hnames m hm, hfits m hm⟩⟩
    · rwa [← hpackage] at hpackage_ne
    · rwa [← hname] at hname_ne

/-- **Names of signatures.** The name of a signature holds word characters only. It is a name unless
its call has a last segment that starts like none, and it is empty when the dotted name ends in a
dot. Where no segment of a section path is empty, every declaration of a page is acceptable exactly
when no row with a signature has such an empty name. -/
theorem usable_names (cfg : Conventions) :
    (∀ (classes : ClassPaths) (l : List Char) (sig : Signature),
      (readSignature cfg classes l).outcome = .ok (some sig) →
      ∃ (call : Call) (i : Nat), call.FirstAt l i ∧
        (∀ c ∈ sig.name.toList, isWord c = true) ∧
        (isName sig.name.toList = true ↔ ¬ call.Misnamed) ∧
        (sig.name = "" ↔ call.EndsInDot)) ∧
    (∀ (sections : List Section) (a : Assembly),
      (∀ s ∈ sections, ∀ segment ∈ s.path, segment ≠ "") →
      (ofSections cfg sections).outcome = .ok a →
      ((∀ d ∈ a.declarations, declarationViolation? d.toDatum = none) ↔
        ∀ s ∈ sections, ∀ t ∈ s.tables, ∀ row ∈ t.signatureRows,
          ¬ Nameless (cell row 0).toList)) := by
  constructor
  · intro classes l sig hsig
    obtain ⟨call, hcall, hname⟩ := exists_call_of_readSignature hsig
    obtain ⟨i, hi⟩ := Call.find?_eq_some_iff.1 hcall
    refine ⟨call, i, hi, ?_⟩
    rw [hname, String.toList_ofList, String.ofList_eq_empty_iff]
    exact ⟨hi.opens.isWord_last, hi.opens.isName_last_iff, hi.opens.last_eq_nil_iff⟩
  · intro sections a hpaths h
    rw [← named_ofSections h]
    exact forall₂_congr fun d hd => acceptable_iff_named hpaths h hd

/-- A window class with one constructor. -/
def constructorSections (signature : String) : List Section :=
  [.classAt "plugin" "Window" [⟨["constructors", "description"], [[signature, ""]]⟩]]

/-- With a dotted name for the class, the constructor has a name and the page is acceptable. -/
theorem usable_names_window :
    (∃ args, (readSignature {} (Registry.ofList [["plugin", "Window"]])
        "plugin.Window(views)".toList).outcome = .ok (some ⟨"Window", args⟩)) ∧
      (∃ (call : Call) (i : Nat), call.FirstAt "plugin.Window(views)".toList i ∧ ¬ call.Misnamed) ∧
      (∀ s ∈ constructorSections "plugin.Window(views)", ∀ segment ∈ s.path, segment ≠ "") ∧
      ∃ a, (ofSections {} (constructorSections "plugin.Window(views)")).outcome = .ok a ∧
        ∀ d ∈ a.declarations, declarationViolation? d.toDatum = none := by
  have hread : ∃ args, (readSignature {} (Registry.ofList [["plugin", "Window"]])
      "plugin.Window(views)".toList).outcome = .ok (some ⟨"Window", args⟩) := ⟨_, rfl⟩
  have hpaths : ∀ s ∈ constructorSections "plugin.Window(views)",
      ∀ segment ∈ s.path, segment ≠ "" := by decide
  have hnamed : ∀ s ∈ constructorSections "plugin.Window(views)", ∀ t ∈ s.tables,
      ∀ row ∈ t.signatureRows, ¬ Nameless (cell row 0).toList := by decide
  refine ⟨hread, ?_, hpaths, _, rfl, ((usable_names {}).2 _ _ hpaths rfl).2 hnamed⟩
  obtain ⟨args, hargs⟩ := hread
  obtain ⟨call, i, hcall, -, hname, -⟩ := (usable_names {}).1 _ _ _ hargs
  have hwindow : isName "Window".toList = true := by decide
  exact ⟨call, i, hcall, hname.1 hwindow⟩

/-- With one more dot the constructor has no name, and the declaration cannot be written. -/
theorem not_usable_name_window :
    (∃ args, (readSignature {} (Registry.ofList [["plugin", "Window"]])
        "plugin.Window.(views)".toList).outcome = .ok (some ⟨"", args⟩)) ∧
      isName "".toList = false ∧
      ∃ a, (ofSections {} (constructorSections "plugin.Window.(views)")).outcome = .ok a ∧
        ∃ d ∈ a.declarations, declarationViolation? d.toDatum ≠ none := by
  have hpaths : ∀ s ∈ constructorSections "plugin.Window.(views)",
      ∀ segment ∈ s.path, segment ≠ "" := by decide
  refine ⟨⟨_, rfl⟩, by decide, _, rfl, _, List.mem_cons_self, ?_⟩
  rw [Ne, acceptable_iff_named hpaths rfl List.mem_cons_self]
  intro hnamed
  exact hnamed _ List.mem_cons_self rfl

end Assembly

end TypedReference

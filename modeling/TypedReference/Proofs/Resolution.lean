/-
# Types of names

Against a frozen registry of class paths that are not empty, every name is given a type: one of a
few fixed types, or a reference to a registered class. No such lookup ends with a fault.
-/
import TypedReference.NameRule
import TypedReference.Proofs.Logged
import TypedReference.Proofs.References
import TypedReference.Proofs.Text.Case
import TypedReference.Proofs.Text.Name
import TypedReference.Proofs.Text.Split

namespace TypedReference

open Text

/-! ## Registries that can be read -/

/-- A registry of class paths against which names can be resolved. -/
structure ClassPaths.Usable (classes : ClassPaths) : Prop where
  /-- The registration is over. -/
  frozen : classes.frozen = true
  /-- Every registered path has a last segment. -/
  ne_nil : ∀ path ∈ classes.entries, path ≠ []

namespace ClassPaths

theorem Usable.paths {classes : ClassPaths} (h : classes.Usable) :
    classes.paths = .ok classes.entries := by
  rw [ClassPaths.paths, Registry.read, if_pos h.frozen]

/-- The registered paths of a page are those of its class sections. -/
theorem mem_entries_ofSections {sections : List Section} {path : List String} :
    path ∈ (ofSections sections).entries ↔ ∃ s ∈ sections, s.kind = .class ∧ s.path = path := by
  simp [ofSections, Registry.ofList, and_assoc]

/-- The registry of a page can be read, since no section has an empty path. -/
theorem usable_ofSections (sections : List Section) : (ofSections sections).Usable where
  frozen := rfl
  ne_nil := by
    intro path hpath
    obtain ⟨s, -, -, rfl⟩ := mem_entries_ofSections.1 hpath
    exact s.path_ne_nil

/-- The last segment of a path, by which classes are looked up. -/
def lastSegment (path : List String) : String := path.getLast?.getD ""

/-- The first registered path whose last segment has the given singular form. -/
def firstWithForm? (classes : ClassPaths) (form : List Char) : Option (List String) :=
  classes.entries.find? fun path => singular (lastSegment path).toList = form

end ClassPaths

/-! ## Rules -/

/-- The types that names are given without regard to the documented classes. -/
def NameRule.fixedTypes : List ApiType :=
  knownNames.map Prod.snd ++ [.string, .int, .bool, .callback, .stringMap, .regex, .any]

/-- A fixed type refers to no class. -/
theorem NameRule.references_of_mem_fixedTypes {t : ApiType} (h : t ∈ fixedTypes) :
    t.references = [] := by
  have hall : (fixedTypes.all fun t => t.references.isEmpty) = true := rfl
  exact List.isEmpty_iff.1 (List.all_eq_true.1 hall t h)

/-- Classes are looked up by the singular form of their last segment; the first one wins. -/
theorem findClass_eq {form : List Char} {paths : List (List String)}
    (h : ∀ path ∈ paths, path ≠ []) :
    findClass form paths = .ok (paths.find? fun path =>
      singular (ClassPaths.lastSegment path).toList = form) := by
  induction paths with
  | nil => rfl
  | cons path paths ih =>
      have hlast := List.getLast?_eq_some_getLast (h path (by simp))
      have hseg : ClassPaths.lastSegment path = path.getLast (h path (by simp)) := by
        rw [ClassPaths.lastSegment, hlast, Option.getD_some]
      -- No path is empty, so the search never stops at one without a last segment.
      rw [findClass, hlast, ih fun p hp => h p (by simp [hp]), List.find?_cons, hseg]
      by_cases hform : singular (path.getLast (h path (by simp))).toList = form
      · simp [hform]
      · simp [hform]

/-- The type that a name can be given: a fixed one, or a registered class. -/
def ClassPaths.Names (classes : ClassPaths) (t : ApiType) : Prop :=
  t ∈ NameRule.fixedTypes ∨ ∃ path ∈ classes.entries, t = .named path

namespace NameRule

variable {classes : ClassPaths}

/-- The rule for documented classes reads the registry first. -/
theorem apply_documentedClass_eq_bind (classes : ClassPaths) (name : List Char) :
    documentedClass.apply classes name = classes.paths >>= fun paths =>
      findClass (singular name) paths >>= fun path? => pure (path?.map ApiType.named) := rfl

/-- The rule for documented classes knows the first class with the singular form of the name. -/
theorem apply_documentedClass (h : classes.Usable) (name : List Char) :
    documentedClass.apply classes name =
      .ok ((classes.firstWithForm? (singular name)).map ApiType.named) := by
  rw [apply_documentedClass_eq_bind, h.paths]
  show (findClass (singular name) classes.entries >>= fun path? =>
    pure (path?.map ApiType.named)) = _
  rw [findClass_eq h.ne_nil]
  rfl

/-- A rule never fails, and a type that it knows is a fixed one or a registered class. -/
theorem apply_eq (h : classes.Usable) (name : List Char) (rule : NameRule) :
    ∃ t?, rule.apply classes name = .ok t? ∧ ∀ t ∈ t?, classes.Names t := by
  cases rule with
  | knownName =>
      refine ⟨_, rfl, ?_⟩
      intro t ht
      obtain ⟨l₁, l₂, hl, -⟩ := List.lookup_eq_some_iff.1 ht
      left
      rw [fixedTypes, hl]
      simp
  | documentedClass =>
      refine ⟨_, apply_documentedClass h name, ?_⟩
      intro t ht
      obtain ⟨path, hpath, rfl⟩ := Option.map_eq_some_iff.1 ht
      exact Or.inr ⟨path, List.mem_of_find?_eq_some hpath, rfl⟩
  | stringEnding | integerEnding | booleanEnding | callbackName | argEnding | patternEnding =>
      refine ⟨_, rfl, ?_⟩
      intro t ht
      split at ht
      · cases ht
        left
        simp [fixedTypes]
      · cases ht

/-- The first rule that knows a type never fails either. -/
theorem firstOf_eq (h : classes.Usable) (name : List Char) (rules : List NameRule) :
    ∃ found?, firstOf classes name rules = .ok found? ∧ ∀ f ∈ found?, classes.Names f.2 := by
  induction rules with
  | nil => exact ⟨none, rfl, by simp⟩
  | cons rule rules ih =>
      obtain ⟨t?, ht?, hnames⟩ := apply_eq h name rule
      rw [firstOf, ht?]
      cases t? with
      | none => exact ih
      | some t => exact ⟨some (rule, t), rfl, by simpa using hnames t rfl⟩

section

variable {classes' : ClassPaths} (h : classes.Usable) (h' : classes'.Usable) {name : List Char}
  (hfirst : classes.firstWithForm? (singular name) = classes'.firstWithForm? (singular name))
include h h' hfirst

/-- Of a registry a rule reads no more than the first class with the singular form of the name. -/
theorem apply_congr (rule : NameRule) : rule.apply classes name = rule.apply classes' name := by
  cases rule with
  | documentedClass => rw [apply_documentedClass h, apply_documentedClass h', hfirst]
  | knownName | stringEnding | integerEnding | booleanEnding | callbackName | argEnding
  | patternEnding => rfl

theorem firstOf_congr (rules : List NameRule) :
    firstOf classes name rules = firstOf classes' name rules := by
  induction rules with
  | nil => rfl
  | cons rule rules ih => rw [firstOf, firstOf, apply_congr h h' hfirst, ih]

/-- Where two registries have the same first class of its form, a name is guessed alike. -/
theorem guessType_congr : guessType classes name = guessType classes' name := by
  rw [guessType, guessType, firstOf_congr h h' hfirst]

end

end NameRule

/-! ## Resolution -/

section

variable {classes : ClassPaths}

/-- A name is given a fixed type or a registered class. -/
theorem outcome_guessType (h : classes.Usable) (name : List Char) :
    ∃ t, (guessType classes name).outcome = .ok t ∧ classes.Names t := by
  obtain ⟨found?, hfound, hnames⟩ := NameRule.firstOf_eq h name NameRule.all
  rw [guessType, hfound]
  cases found? with
  | none => exact ⟨.any, rfl, Or.inl (by simp [NameRule.fixedTypes])⟩
  | some f => exact ⟨f.2, rfl, hnames f rfl⟩

/-- A name with a fixed meaning has it with any registry. -/
theorem guessType_of_known {name : List Char} {t : ApiType}
    (hknown : knownNames.lookup (String.ofList (singular name)) = some t) :
    guessType classes name =
      ⟨.ok t, [.resolved (String.ofList name) NameRule.knownName.label]⟩ := by
  simp only [guessType, NameRule.all, NameRule.firstOf, NameRule.apply, hknown]

/-- **Every name has a type.** A dotted name is given a fixed type or a registered class, too. -/
theorem outcome_resolveName (h : classes.Usable) (name : List Char) :
    ∃ t, (resolveName classes name).outcome = .ok t ∧ classes.Names t := by
  unfold resolveName
  simp only
  split
  · exact outcome_guessType h _
  · rw [h.paths]
    simp only
    split
    · next hmem =>
      exact ⟨_, rfl, Or.inr ⟨_, List.contains_iff_mem.1 hmem, rfl⟩⟩
    · exact outcome_guessType h _

/-- A type that a name has been given is a fixed one or a registered class. -/
theorem names_of_resolveName (h : classes.Usable) {name : List Char} {t : ApiType}
    (ht : (resolveName classes name).outcome = .ok t) : classes.Names t := by
  obtain ⟨t', ht', hnames⟩ := outcome_resolveName h name
  rw [ht] at ht'
  cases ht'
  exact hnames

/-- No name is refused. -/
theorem not_fails_resolveName (h : classes.Usable) (name : List Char) :
    ¬ (resolveName classes name).Fails := by
  obtain ⟨t, ht, -⟩ := outcome_resolveName h name
  exact Logged.not_fails_iff.2 ⟨t, ht⟩

/-- A name refers to registered classes only. -/
theorem references_of_names {t : ApiType} (ht : classes.Names t) :
    ∀ path ∈ t.references, path ∈ classes.entries := by
  intro path hpath
  rcases ht with ht | ⟨p, hp, rfl⟩
  · rw [NameRule.references_of_mem_fixedTypes ht] at hpath
    simp at hpath
  · rw [ApiType.references, List.mem_singleton] at hpath
    rwa [hpath]

/-- The word for no value means no value, in any letter case and with any registry. -/
theorem outcome_resolveName_none {x : List Char} (hname : isDottedName x = true)
    (hnone : lower x = "none".toList) : (resolveName classes x).outcome = .ok .void := by
  have hdot : '.' ∉ x := by
    intro hmem
    have := dot_mem_lower hmem
    rw [hnone] at this
    exact absurd this (by decide)
  have hsingular : singular x = "none".toList := by
    rw [singular, hnone]
    decide
  have hknown : knownNames.lookup (String.ofList (singular x)) = some .void := by
    rw [hsingular]
    rfl
  rw [resolveName, trim_dottedName hname, List.splitOn_eq_singleton hdot]
  simp only [guessType_of_known hknown]

/-- Before the registration of classes is over, a name has its fixed meaning or none: it cannot be
looked up, nor can a dotted name. -/
theorem outcome_resolveName_unfrozen (h : classes.frozen = false) (name : List Char) :
    (resolveName classes name).outcome =
      if '.' ∈ trim name then .error (.unfrozen .classPaths)
      else match knownNames.lookup (String.ofList (singular (trim name))) with
        | some t => .ok t
        | none => .error (.unfrozen .classPaths) := by
  have hpaths : classes.paths = .error (.unfrozen .classPaths) := by
    rw [ClassPaths.paths, Registry.read, h]
    rfl
  unfold resolveName
  by_cases hdot : '.' ∈ trim name
  · rw [if_pos hdot]
    simp only
    split
    · next only hone => exact absurd hone (splitOn_ne_singleton_of_mem hdot only)
    · rw [hpaths]
      rfl
  · rw [if_neg hdot, List.splitOn_eq_singleton hdot]
    have hlookup : NameRule.documentedClass.apply classes (trim name) =
        .error (.unfrozen .classPaths) := by
      rw [NameRule.apply_documentedClass_eq_bind, hpaths]
      rfl
    cases hknown : knownNames.lookup (String.ofList (singular (trim name))) with
    | some t => simp only [guessType_of_known hknown]
    | none =>
        have hfirst : NameRule.knownName.apply classes (trim name) = .ok none := by
          rw [← hknown]
          rfl
        simp only [guessType, NameRule.all, NameRule.firstOf, hfirst, hlookup]
        rfl

end

end TypedReference

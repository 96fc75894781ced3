/-
# Names of classes

How a frozen registry is searched for the class of a name. A dotted name that is a registered path
means that class. For any other name only the part after its last dot counts, and the first path
decides whose last segment has the same singular form, unless the form has a fixed meaning. So a
class can be hidden by another one whose name is written differently, and by nothing else.
-/
import TypedReference.Proofs.Resolution

namespace TypedReference

open Text

/-! ## What is looked up -/

/-- The segments of a name, without the blanks around it. -/
def namedPath (name : List Char) : List String := ((trim name).splitOn '.').map String.ofList

/-- The part of a name after its last dot, without the blanks around the name. -/
def simpleName (name : List Char) : List Char := (trim name).rtakeWhile (· != '.')

/-- The form in which the last segment of a path is compared. -/
def ClassPaths.form (path : List String) : List Char := singular (lastSegment path).toList

/-- A name without dots and blanks is looked up as it stands. -/
theorem simpleName_eq_self {name : List Char} (htrim : trim name = name) (hdot : '.' ∉ name) :
    simpleName name = name := by
  rw [simpleName, htrim, rtakeWhile_of_not_mem hdot]

theorem dot_not_mem_simpleName (name : List Char) : '.' ∉ simpleName name := by
  intro hmem
  have hne := List.mem_rtakeWhile_imp hmem
  exact absurd hne (by decide)

section

variable {classes : ClassPaths}

theorem ClassPaths.paths_of_frozen (h : classes.frozen = true) :
    classes.paths = .ok classes.entries := by
  rw [paths, Registry.read, if_pos h]

/-- A dotted name that is a registered path means that class; otherwise the part after the last dot
is guessed. -/
theorem resolveName_eq (h : classes.frozen = true) (name : List Char) :
    resolveName classes name =
      if '.' ∈ trim name ∧ namedPath name ∈ classes.entries then .ok (.named (namedPath name))
      else guessType classes (simpleName name) := by
  have hlast : ((trim name).splitOn '.').getLast?.getD [] = simpleName name := by
    rw [getLast?_splitOn, Option.getD_some, simpleName]
  by_cases hdot : '.' ∈ trim name
  · -- Two segments or more are looked up as a path first.
    unfold resolveName
    simp only
    split
    · next only hone => exact absurd hone (splitOn_ne_singleton_of_mem hdot only)
    · rw [ClassPaths.paths_of_frozen h, ← hlast]
      simp only [hdot, true_and, namedPath, List.contains_iff_mem]
  · rw [if_neg fun hpath => hdot hpath.1, resolveName, List.splitOn_eq_singleton hdot, simpleName,
      rtakeWhile_of_not_mem hdot]

/-- A name without dots is guessed. -/
theorem resolveName_of_simple (h : classes.frozen = true) {name : List Char}
    (htrim : trim name = name) (hdot : '.' ∉ name) :
    resolveName classes name = guessType classes name := by
  have hpath : ¬ ('.' ∈ trim name ∧ namedPath name ∈ classes.entries) := by
    rw [htrim]
    exact fun hpath => hdot hpath.1
  rw [resolveName_eq h, if_neg hpath, simpleName_eq_self htrim hdot]

/-! ## The search for a class -/

/-- A name whose form has no fixed meaning is looked up among the classes. -/
theorem outcome_guessType_of_unknown (h : classes.frozen = true) {name : List Char}
    (hunknown : knownNames.lookup (String.ofList (singular name)) = none) :
    (∀ e, findClass (singular name) classes.entries = .error e →
      (guessType classes name).outcome = .error e) ∧
    ∀ path, findClass (singular name) classes.entries = .ok (some path) →
      (guessType classes name).outcome = .ok (.named path) := by
  have hknown : NameRule.knownName.apply classes name = .ok none := by
    rw [← hunknown]
    rfl
  have hclass : NameRule.documentedClass.apply classes name =
      findClass (singular name) classes.entries >>= fun path? =>
        pure (path?.map ApiType.named) := by
    rw [NameRule.apply_documentedClass_eq_bind, ClassPaths.paths_of_frozen h]
    rfl
  constructor
  · intro e he
    rw [he] at hclass
    simp only [guessType, NameRule.all, NameRule.firstOf, hknown, hclass]
    rfl
  · intro path hpath
    rw [hpath] at hclass
    simp only [guessType, NameRule.all, NameRule.firstOf, hknown, hclass]
    rfl

/-- The search for a form goes past a path that has a last segment of another form. -/
def ClassPaths.Passes (form : List Char) (path : List String) : Prop :=
  path ≠ [] ∧ ClassPaths.form path ≠ form

/-- The search ends at the first path that it cannot pass: with that class, or with a fault if the
path is empty. -/
theorem findClass_append_cons {form : List Char} {before : List (List String)}
    {path : List String} (hbefore : ∀ q ∈ before, ClassPaths.Passes form q)
    (hpath : ¬ ClassPaths.Passes form path) (after : List (List String)) :
    findClass form (before ++ path :: after) =
      if path = [] then .error .emptyClassPath else .ok (some path) := by
  induction before with
  | nil =>
      by_cases hne : path = []
      · rw [hne]
        rfl
      · have hform : ClassPaths.form path = form := by
          by_contra hform
          exact hpath ⟨hne, hform⟩
        have hlast := List.getLast?_eq_some_getLast hne
        rw [ClassPaths.form, ClassPaths.lastSegment, hlast, Option.getD_some] at hform
        rw [List.nil_append, findClass, hlast, if_neg hne]
        simp only [hform, if_true]
  | cons q before ih =>
      rw [List.forall_mem_cons] at hbefore
      obtain ⟨hne, hform⟩ := hbefore.1
      have hlast := List.getLast?_eq_some_getLast hne
      rw [ClassPaths.form, ClassPaths.lastSegment, hlast, Option.getD_some] at hform
      rw [List.cons_append, findClass, hlast, ← ih hbefore.2]
      simp only [hform, if_false]

/-- A form without a fixed meaning is that of the first class that the search cannot pass. -/
theorem outcome_guessType_of_first (h : classes.frozen = true) {name : List Char}
    (hunknown : knownNames.lookup (String.ofList (singular name)) = none)
    {before after : List (List String)} {path : List String}
    (hentries : classes.entries = before ++ path :: after)
    (hbefore : ∀ q ∈ before, ClassPaths.Passes (singular name) q) :
    (path = [] → (guessType classes name).outcome = .error .emptyClassPath) ∧
    (path ≠ [] → ClassPaths.form path = singular name →
      (guessType classes name).outcome = .ok (.named path)) := by
  obtain ⟨hfault, hclass⟩ := outcome_guessType_of_unknown h hunknown
  constructor
  · intro hempty
    have hend : ¬ ClassPaths.Passes (singular name) path := fun hpass => hpass.1 hempty
    have hfind := findClass_append_cons hbefore hend after
    rw [if_pos hempty, ← hentries] at hfind
    exact hfault _ hfind
  · intro hne hform
    have hend : ¬ ClassPaths.Passes (singular name) path := fun hpass => hpass.2 hform
    have hfind := findClass_append_cons hbefore hend after
    rw [if_neg hne, ← hentries] at hfind
    exact hclass _ hfind

end

/-! ## Exactly written names -/

section

variable {classes : ClassPaths}

instance (form : List Char) : DecidablePred (ClassPaths.Passes form) := fun path =>
  inferInstanceAs (Decidable (path ≠ [] ∧ ClassPaths.form path ≠ form))

/-- A search for the form of a registered class ends somewhere, at that class if nowhere else. -/
theorem ClassPaths.exists_end {path : List String} (h : path ∈ classes.entries) :
    ∃ before q after, classes.entries = before ++ q :: after ∧
      (∀ r ∈ before, Passes (form path) r) ∧ ¬ Passes (form path) q := by
  have hself : ¬ Passes (form path) path := fun hpass => hpass.2 rfl
  have hsome : (classes.entries.find? fun q => decide ¬ Passes (form path) q).isSome :=
    List.find?_isSome.2 ⟨path, h, decide_eq_true hself⟩
  obtain ⟨q, hq⟩ := Option.isSome_iff_exists.1 hsome
  obtain ⟨hend, before, after, hentries, hbefore⟩ := List.find?_eq_some_iff_append.1 hq
  refine ⟨before, q, after, hentries, ?_, of_decide_eq_true hend⟩
  intro r hr
  simpa using hbefore r hr

/-- The paths in front of the first occurrence of a path stand in front of every occurrence. -/
theorem ClassPaths.mem_of_mem_takeWhile_ne {path q : List String}
    {before after : List (List String)}
    (h : q ∈ (before ++ path :: after).takeWhile (· ≠ path)) : q ∈ before := by
  induction before with
  | nil => simp at h
  | cons r before ih =>
      rw [List.cons_append, List.takeWhile_cons] at h
      split at h
      · rcases List.mem_cons.1 h with rfl | h
        · exact List.mem_cons_self
        · exact List.mem_cons_of_mem _ (ih h)
      · exact absurd h List.not_mem_nil

/-- **Exactly written names.** The last segment of a registered class, if it has no dots and its
form has no fixed meaning, is given the type of the class exactly when every path that is registered
before the class has a last segment, and one of another form; what is registered behind it does not
matter. Otherwise the first path for which this fails decides: a class of the same form is meant
instead, and an empty path is a fault. -/
theorem resolveName_lastSegment (h : classes.frozen = true) {path : List String}
    (hpath : path ∈ classes.entries) (hne : path ≠ [])
    (htrim : trim (ClassPaths.lastSegment path).toList = (ClassPaths.lastSegment path).toList)
    (hdot : '.' ∉ (ClassPaths.lastSegment path).toList)
    (hunknown : knownNames.lookup (String.ofList (ClassPaths.form path)) = none) :
    ((resolveName classes (ClassPaths.lastSegment path).toList).outcome = .ok (.named path) ↔
      ∀ q ∈ classes.entries.takeWhile (· ≠ path),
        q ≠ [] ∧ ClassPaths.form q ≠ ClassPaths.form path) ∧
    ∀ before q after, classes.entries = before ++ q :: after →
      (∀ r ∈ before, r ≠ [] ∧ ClassPaths.form r ≠ ClassPaths.form path) →
      (q = [] → (resolveName classes (ClassPaths.lastSegment path).toList).outcome =
        .error .emptyClassPath) ∧
      (q ≠ [] → ClassPaths.form q = ClassPaths.form path →
        (resolveName classes (ClassPaths.lastSegment path).toList).outcome = .ok (.named q)) := by
  rw [resolveName_of_simple h htrim hdot]
  refine ⟨⟨?_, ?_⟩, ?_⟩
  · intro hok
    -- The search ends at the path itself, so it has passed all that stands before.
    obtain ⟨before, q, after, hentries, hbefore, hend⟩ := ClassPaths.exists_end hpath
    obtain ⟨hfault, hnamed⟩ := outcome_guessType_of_first h hunknown hentries hbefore
    by_cases hq : q = []
    · rw [hfault hq] at hok
      cases hok
    · have hform : ClassPaths.form q = ClassPaths.form path := by
        by_contra hform
        exact hend ⟨hq, hform⟩
      rw [hnamed hq hform] at hok
      cases hok
      intro r hr
      rw [hentries] at hr
      exact hbefore r (ClassPaths.mem_of_mem_takeWhile_ne hr)
  · intro hbefore
    obtain ⟨before, after, hentries, hfirst⟩ := List.eq_append_cons_of_mem hpath
    have htake : classes.entries.takeWhile (· ≠ path) = before := by
      rw [hentries, List.takeWhile_append_of_pos, List.takeWhile_cons_of_neg (by simp),
        List.append_nil]
      intro q hq
      rw [decide_eq_true_eq]
      rintro rfl
      exact hfirst hq
    rw [htake] at hbefore
    exact (outcome_guessType_of_first h hunknown hentries hbefore).2 hne rfl
  · intro before q after hentries hbefore
    exact outcome_guessType_of_first h hunknown hentries hbefore

end

/-- A view that two classes behind it cannot hide, one of them of the same form and one without a
name, and the one of the same form, which the view hides. -/
theorem resolveName_lastSegment_views :
    (∀ path ∈ [["sublime", "View"], ["other", "Views"]],
      path ∈ [["other", "Region"], ["sublime", "View"], ["other", "Views"], []] ∧ path ≠ [] ∧
        isName (ClassPaths.lastSegment path).toList = true) ∧
      knownNames.lookup (String.ofList (ClassPaths.form ["sublime", "View"])) = none ∧
      knownNames.lookup (String.ofList (ClassPaths.form ["other", "Views"])) = none ∧
      (resolveName (Registry.ofList [["other", "Region"], ["sublime", "View"], ["other", "Views"],
        []]) "View".toList).outcome = .ok (.named ["sublime", "View"]) ∧
      (resolveName (Registry.ofList [["other", "Region"], ["sublime", "View"], ["other", "Views"],
        []]) "Views".toList).outcome = .ok (.named ["sublime", "View"]) := by
  have hfrozen : Registry.frozen (Registry.ofList
      [["other", "Region"], ["sublime", "View"], ["other", "Views"], []]) = true := rfl
  have hmem : ∀ path ∈ [["sublime", "View"], ["other", "Views"]], path ∈ Registry.entries
      (Registry.ofList [["other", "Region"], ["sublime", "View"], ["other", "Views"], []]) := by
    decide
  have hview := resolveName_lastSegment hfrozen (hmem ["sublime", "View"] (by decide)) (by decide)
    (by decide) (by decide) rfl
  have hviews := resolveName_lastSegment hfrozen (hmem ["other", "Views"] (by decide)) (by decide)
    (by decide) (by decide) rfl
  refine ⟨by decide, rfl, rfl, hview.1.2 (by decide), ?_⟩
  exact (hviews.2 [["other", "Region"]] ["sublime", "View"] [["other", "Views"], []] rfl
    (by decide)).2 (by decide) (by decide)

/-- A window is not found by its name when a class of the same form is registered before it, even
though no other class has this name. -/
theorem not_named_hiddenWindow :
    ["sublime", "Window"] ∈ [["sublime", "Windows"], ["sublime", "Window"]] ∧
      isName "Window".toList = true ∧
      (∀ path ∈ [["sublime", "Windows"], ["sublime", "Window"]],
        ClassPaths.lastSegment path = "Window" → path = ["sublime", "Window"]) ∧
      knownNames.lookup (String.ofList (singular "Window".toList)) = none ∧
      (resolveName (Registry.ofList [["sublime", "Windows"], ["sublime", "Window"]])
        "Window".toList).outcome = .ok (.named ["sublime", "Windows"]) :=
  ⟨by decide, by decide, by decide, rfl, rfl⟩

end TypedReference

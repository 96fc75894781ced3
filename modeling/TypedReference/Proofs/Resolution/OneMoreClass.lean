/-
# One more class

What changes for names when one more class is registered, at any place among the others. A name
keeps its type or means the new class, and only a name that is compared in the same form as the name
of the new class can come to mean it.
-/
import TypedReference.Proofs.Resolution.ClassNames

namespace TypedReference

open Text

namespace ClassPaths

/-- Two registries that can be read, the second of which has one more class, at any place. -/
structure OneMore (path : List String) (classes classes' : ClassPaths) : Prop where
  /-- The registry without the class can be read. -/
  usable : classes.Usable
  /-- The registry with the class can be read. -/
  usable' : classes'.Usable
  /-- The order of the other classes is the same. -/
  between : ∃ before after,
    classes.entries = before ++ after ∧ classes'.entries = before ++ path :: after

section

variable {path : List String} {classes classes' : ClassPaths}

/-- Among paths that are not empty any place will do. -/
theorem oneMore_ofList (before after : List (List String))
    (hne : ∀ q ∈ before ++ path :: after, q ≠ []) :
    OneMore path (Registry.ofList (before ++ after)) (Registry.ofList (before ++ path :: after)) where
  usable := ⟨rfl, fun q hq => hne q (by
    rcases List.mem_append.1 hq with hq | hq
    · exact List.mem_append_left _ hq
    · exact List.mem_append_right _ (List.mem_cons_of_mem _ hq))⟩
  usable' := ⟨rfl, hne⟩
  between := ⟨before, after, rfl, rfl⟩

variable (h : OneMore path classes classes')
include h

theorem OneMore.mem_iff {q : List String} :
    q ∈ classes'.entries ↔ q = path ∨ q ∈ classes.entries := by
  obtain ⟨before, after, hentries, hentries'⟩ := h.between
  rw [hentries, hentries']
  simp only [List.mem_append, List.mem_cons]
  exact or_left_comm

/-- The first class of a form stays the same, or it is the new one. -/
theorem OneMore.firstWithForm? (form : List Char) :
    classes'.firstWithForm? form = classes.firstWithForm? form ∨
      ClassPaths.form path = form ∧ classes'.firstWithForm? form = some path := by
  obtain ⟨before, after, hentries, hentries'⟩ := h.between
  rw [ClassPaths.firstWithForm?, ClassPaths.firstWithForm?, hentries, hentries', List.find?_append,
    List.find?_append]
  by_cases hform : singular (lastSegment path).toList = form
  · rw [List.find?_cons_of_pos (by simpa using hform)]
    -- A class of the form that is registered before the new one goes on hiding it.
    cases before.find? fun q => singular (lastSegment q).toList = form with
    | none => exact Or.inr ⟨hform, rfl⟩
    | some q => exact Or.inl rfl
  · rw [List.find?_cons_of_neg (by simpa using hform)]
    exact Or.inl rfl

end

end ClassPaths

/-! ## Names -/

/-- The form of a path that is written with dots is that of the part after the last one. -/
theorem form_namedPath (name : List Char) :
    ClassPaths.form (namedPath name) = singular (simpleName name) := by
  rw [ClassPaths.form, ClassPaths.lastSegment, namedPath, List.getLast?_map, getLast?_splitOn,
    Option.map_some, Option.getD_some, String.toList_ofList, simpleName]

section

variable {path : List String} {classes classes' : ClassPaths}
  (h : ClassPaths.OneMore path classes classes')
include h

/-- A name without dots is guessed as before, or it is guessed to be the new class. -/
theorem guessType_oneMore (name : List Char) :
    guessType classes' name = guessType classes name ∨
      singular name = ClassPaths.form path ∧
        (guessType classes' name).outcome = .ok (.named path) := by
  rcases h.firstWithForm? (singular name) with hfirst | ⟨hform, hfirst⟩
  · exact Or.inl (NameRule.guessType_congr h.usable' h.usable hfirst)
  · cases hknown : knownNames.lookup (String.ofList (singular name)) with
    | some t => exact Or.inl (by rw [guessType_of_known hknown, guessType_of_known hknown])
    | none =>
        have hfind : findClass (singular name) classes'.entries = .ok (some path) := by
          rw [findClass_eq h.usable'.ne_nil]
          exact congrArg Except.ok hfirst
        exact Or.inr ⟨hform.symm, (outcome_guessType_of_unknown h.usable'.frozen hknown).2 _ hfind⟩

/-- **One more class has a local effect.** A name is resolved as before, or it means the new class
and has its form. -/
theorem resolveName_oneMore (name : List Char) :
    resolveName classes' name = resolveName classes name ∨
      singular (simpleName name) = ClassPaths.form path ∧
        (resolveName classes' name).outcome = .ok (.named path) := by
  rw [resolveName_eq h.usable'.frozen, resolveName_eq h.usable.frozen]
  by_cases hold : '.' ∈ trim name ∧ namedPath name ∈ classes.entries
  · rw [if_pos hold, if_pos ⟨hold.1, h.mem_iff.2 (Or.inr hold.2)⟩]
    exact Or.inl rfl
  · rw [if_neg hold]
    by_cases hnew : '.' ∈ trim name ∧ namedPath name ∈ classes'.entries
    · have hpath : namedPath name = path := by
        rcases h.mem_iff.1 hnew.2 with hpath | hmem
        · exact hpath
        · exact absurd ⟨hnew.1, hmem⟩ hold
      rw [if_pos hnew, ← form_namedPath, hpath]
      exact Or.inr ⟨rfl, rfl⟩
    · rw [if_neg hnew]
      exact guessType_oneMore h (simpleName name)

end

end TypedReference

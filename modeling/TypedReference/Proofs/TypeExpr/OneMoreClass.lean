/-
# Types with one more class

What changes for texts when one more class is registered. A text is refused as before, or it has the
same type except that some of its names mean the new class; a text without a name of the same form
as that of the new class is read as before.
-/
import TypedReference.Proofs.Resolution.OneMoreClass
import TypedReference.Proofs.TypeExpr.Names

namespace TypedReference

open Text

section

variable {path : List String} {classes classes' : ClassPaths}

/-- **One more class changes names only.** Every name keeps its type or has that of the new class,
and then it has the form of the new class. A text is refused for the same fault with and without
the class, or it has the types that come from those of its names; it is read in the same way if no
identifier in it has the form of the new class. -/
theorem typeOfText_oneMore (h : ClassPaths.OneMore path classes classes') :
    ∃ f f' : List Char → ApiType,
      (∀ x, (resolveName classes x).outcome = .ok (f x)) ∧
      (∀ x, (resolveName classes' x).outcome = .ok (f' x)) ∧
      (∀ x, f' x = f x ∨
        f' x = .named path ∧ singular (simpleName x) = ClassPaths.form path) ∧
      ∀ l : List Char,
        ((∃ cause, (typeOfText classes l).outcome = .error (.document cause) ∧
            (typeOfText classes' l).outcome = .error (.document cause)) ∨
          (typeOfText classes l).outcome = .ok ((TypeExpr.read l).typeWith f) ∧
            (typeOfText classes' l).outcome = .ok ((TypeExpr.read l).typeWith f')) ∧
        ((∀ x ∈ identifiers l, singular (simpleName x) ≠ ClassPaths.form path) →
          typeOfText classes' l = typeOfText classes l) := by
  choose f hf _ using fun x => outcome_resolveName h.usable x
  choose f' hf' _ using fun x => outcome_resolveName h.usable' x
  refine ⟨f, f', hf, hf', ?_, fun l => ⟨?_, ?_⟩⟩
  · intro x
    rcases resolveName_oneMore h x with hsame | ⟨hform, hnamed⟩
    · have houtcome := congrArg Logged.outcome hsame
      rw [hf', hf] at houtcome
      exact Or.inl (Except.ok.inj houtcome)
    · rw [hf'] at hnamed
      exact Or.inr ⟨Except.ok.inj hnamed, hform⟩
  · rcases TypeExpr.endTogether_resolve hf hf' (TypeExpr.read l) with ⟨e, he, he'⟩ | hok
    · obtain ⟨cause, rfl⟩ := faultsIn_typeOfText h.usable l e he
      exact Or.inl ⟨cause, he, he'⟩
    · exact Or.inr hok
  · intro hforms
    apply typeOfText_congr
    intro x hx
    rcases resolveName_oneMore h x with hsame | ⟨hform, -⟩
    · exact hsame
    · exact absurd hform (hforms x hx)

end

/-- Views in front of a view: the pair of a view and a region is one of these views and a region,
while the text for a region or a number is read as before. -/
theorem typeOfText_oneMore_views :
    ClassPaths.OneMore ["other", "Views"]
      (Registry.ofList [["sublime", "View"], ["sublime", "Region"]])
      (Registry.ofList [["other", "Views"], ["sublime", "View"], ["sublime", "Region"]]) ∧
    (typeOfText (Registry.ofList [["sublime", "View"], ["sublime", "Region"]])
      "[(View, Region)]".toList).outcome =
        .ok (.array (.tuple [.named ["sublime", "View"], .named ["sublime", "Region"]])) ∧
    (typeOfText (Registry.ofList [["other", "Views"], ["sublime", "View"], ["sublime", "Region"]])
      "[(View, Region)]".toList).outcome =
        .ok (.array (.tuple [.named ["other", "Views"], .named ["sublime", "Region"]])) ∧
    typeOfText (Registry.ofList [["other", "Views"], ["sublime", "View"], ["sublime", "Region"]])
        "[region] or int".toList =
      typeOfText (Registry.ofList [["sublime", "View"], ["sublime", "Region"]])
        "[region] or int".toList := by
  have hmore : ClassPaths.OneMore ["other", "Views"]
      (Registry.ofList [["sublime", "View"], ["sublime", "Region"]])
      (Registry.ofList [["other", "Views"], ["sublime", "View"], ["sublime", "Region"]]) :=
    ClassPaths.oneMore_ofList [] _ (by decide)
  obtain ⟨f, g, hf, hg, -, htexts⟩ := typeOfText_oneMore hmore
  have hview : TypeExpr.read "View".toList = .array 0 (.name "View".toList) :=
    TypeExpr.read_of_peel (p := ⟨"View".toList, 0⟩) rfl
  have hregion : TypeExpr.read "Region".toList = .array 0 (.name "Region".toList) :=
    TypeExpr.read_of_peel (p := ⟨"Region".toList, 0⟩) rfl
  have hpair : TypeExpr.read "[(View, Region)]".toList = .array 1 (.tuple
      [TypeExpr.read "View".toList, TypeExpr.read "Region".toList]) :=
    TypeExpr.read_of_peel (p := ⟨"(View, Region)".toList, 1⟩) rfl
  have hfview : f "View".toList = .named ["sublime", "View"] :=
    (Except.ok.inj (hf "View".toList)).symm
  have hfregion : f "Region".toList = .named ["sublime", "Region"] :=
    (Except.ok.inj (hf "Region".toList)).symm
  have hgview : g "View".toList = .named ["other", "Views"] :=
    (Except.ok.inj (hg "View".toList)).symm
  have hgregion : g "Region".toList = .named ["sublime", "Region"] :=
    (Except.ok.inj (hg "Region".toList)).symm
  have htype : ∀ types : List Char → ApiType,
      (TypeExpr.read "[(View, Region)]".toList).typeWith types =
        .array (.tuple [types "View".toList, types "Region".toList]) := by
    intro types
    rw [hpair, hview, hregion]
    rfl
  refine ⟨hmore, ?_⟩
  rcases (htexts "[(View, Region)]".toList).1 with ⟨cause, hfault, -⟩ | ⟨hok, hok'⟩
  · rw [typeOfText, hpair, hview, hregion] at hfault
    cases hfault
  · rw [htype, hfview, hfregion] at hok
    rw [htype, hgview, hgregion] at hok'
    exact ⟨hok, hok', (htexts "[region] or int".toList).2 (by decide)⟩

end TypedReference

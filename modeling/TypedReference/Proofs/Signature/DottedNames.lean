/-
# Dotted references to classes

A class can be referred to by its whole path, with dots between the segments. Such a reference means
this class and no other one, whatever the name of the class means by itself, and it means the same
as a type and as an argument: neither the brackets around it nor the marks and the default value of
the argument make a difference. A dotted name that is not the path of a class means what its last
segment means.
-/
import TypedReference.Proofs.Resolution.ClassNames
import TypedReference.Proofs.Signature.RoundTrip

namespace TypedReference

open Text

/-! ## The text of a path -/

section

variable {path : List String} (hnames : ∀ segment ∈ path, isName segment.toList = true)
  (hne : path ≠ [])
include hnames hne

theorem splitOn_path : (".".intercalate path).toList.splitOn '.' = path.map String.toList := by
  have hdots : ∀ segment ∈ path.map String.toList, '.' ∉ segment := by
    rw [List.forall_mem_map]
    exact fun segment hsegment => not_mem_of_isName (hnames segment hsegment) (by decide)
  rw [String.toList_intercalate]
  apply List.splitOn_intercalate
  · exact hdots
  · simpa using hne

theorem isDottedName_path : isDottedName (".".intercalate path).toList = true := by
  rw [String.toList_intercalate]
  apply isDottedName_joinWith (by simpa using hne)
  rw [List.forall_mem_map]
  exact fun segment hsegment => isDottedName_of_isName (hnames segment hsegment)

/-- The segments can be read off the text. -/
theorem namedPath_path : namedPath (".".intercalate path).toList = path := by
  rw [namedPath, trim_dottedName (isDottedName_path hnames hne), splitOn_path hnames hne]
  simp

/-- Between two segments stands a dot. -/
theorem dot_mem_path (hlength : 2 ≤ path.length) : '.' ∈ (".".intercalate path).toList := by
  have hcount := length_splitOn '.' (".".intercalate path).toList
  rw [splitOn_path hnames hne, List.length_map] at hcount
  exact List.count_pos_iff.1 (by omega)

end

/-! ## Types of dotted names -/

section

variable {classes : ClassPaths}

/-- The path of a registered class means this class. -/
theorem resolveName_path (h : classes.frozen = true) {path : List String}
    (hpath : path ∈ classes.entries) (hlength : 2 ≤ path.length)
    (hnames : ∀ segment ∈ path, isName segment.toList = true) :
    resolveName classes (".".intercalate path).toList = .ok (.named path) := by
  have hne : path ≠ [] := List.ne_nil_of_length_pos (by omega)
  have hdot : '.' ∈ trim (".".intercalate path).toList := by
    rw [trim_dottedName (isDottedName_path hnames hne)]
    exact dot_mem_path hnames hne hlength
  rw [resolveName_eq h, namedPath_path hnames hne, if_pos ⟨hdot, hpath⟩]

/-- A name that is no path of a class means what its last segment means. -/
theorem resolveName_simpleName (h : classes.frozen = true) {x : List Char}
    (hpath : namedPath x ∉ classes.entries) (hlast : isName (simpleName x) = true) :
    resolveName classes (simpleName x) = resolveName classes x := by
  rw [resolveName_of_simple h (trim_dottedName (isDottedName_of_isName hlast))
    (dot_not_mem_simpleName x), resolveName_eq h x, if_neg fun hregistered => hpath hregistered.2]

end

/-! ## Arguments -/

/-- The texts of an argument that are a given text with marks and default values around it. -/
inductive ArgumentText (x : List Char) : List Char → Prop
  /-- The text alone. -/
  | bare : ArgumentText x x
  /-- A text that is marked as optional. -/
  | marked {token : List Char} : ArgumentText x token → ArgumentText x ('<' :: token ++ ['>'])
  /-- A text with a default value behind it. -/
  | withDefault {token : List Char} (value : List Char) :
      ArgumentText x token → ArgumentText x (token ++ '=' :: value)

/-- The marks and the default value are taken off. -/
theorem bareArgument_argumentText {x token : List Char} (hx : trim x = x)
    (hsigns : ∀ c ∈ x, c ≠ '<' ∧ c ≠ '>' ∧ c ≠ '=') (h : ArgumentText x token) :
    bareArgument token = x := by
  have hstart : (token.filter fun c => c != '<' && c != '>').takeWhile (· != '=') = x := by
    induction h with
    | bare =>
        have hkeep : (x.filter fun c => c != '<' && c != '>') = x := by
          rw [List.filter_eq_self]
          intro c hc
          simp [(hsigns c hc).1, (hsigns c hc).2.1]
        rw [hkeep, List.takeWhile_eq_self_iff]
        intro c hc
        simpa using (hsigns c hc).2.2
    | marked _ ih =>
        rw [List.filter_append, List.filter_cons_of_neg (by decide), List.filter_singleton]
        simpa using ih
    | withDefault value _ ih =>
        rw [List.filter_append, List.filter_cons_of_pos (by decide),
          takeWhile_append_cons (by decide), ih]
  rw [bareArgument, hstart, hx]

/-- In any number of brackets a name is written for the type in as many layers of arrays, as a type
expression and as an argument. -/
structure ReadAlike (cfg : Conventions) (classes : ClassPaths) (x : List Char) (t : ApiType) :
    Prop where
  /-- This is the type of the expression. -/
  expression : ∀ depth, (typeOfText classes (inBrackets depth x)).outcome = .ok (t.arrays depth)
  /-- This is the type of the argument, at any position, with its marks and its default value. -/
  argument : ∀ (depth : Nat) (position : Int) (token : List Char),
    ArgumentText (inBrackets depth x) token →
      ∃ arg, (readArgument cfg classes position token).outcome = .ok arg ∧
        arg.arrayDepth = depth ∧ arg.type = t.arrays depth

section

variable {classes : ClassPaths}

/-- No sign that structures an argument stands in a name in brackets. -/
theorem signs_inBrackets {x : List Char} (hx : isDottedName x = true) (depth : Nat) :
    ∀ c ∈ inBrackets depth x, c ≠ '<' ∧ c ≠ '>' ∧ c ≠ '=' := by
  intro c hc
  simp only [inBrackets, List.mem_append, List.mem_replicate] at hc
  rcases hc with (⟨-, rfl⟩ | hc) | ⟨-, rfl⟩
  · decide
  · exact ⟨ne_of_mem_dottedName hx hc (by decide), ne_of_mem_dottedName hx hc (by decide),
      ne_of_mem_dottedName hx hc (by decide)⟩
  · decide

/-- A dotted name is read alike, with the type that it is given as a name. -/
theorem readAlike_of_resolveName (cfg : Conventions) {x : List Char} (hx : isDottedName x = true)
    {t : ApiType} (ht : (resolveName classes x).outcome = .ok t) : ReadAlike cfg classes x t where
  expression := outcome_typeOfText_inBrackets hx ht
  argument := by
    intro depth position token htoken
    have hbare : bareArgument token = inBrackets depth x :=
      bareArgument_argumentText (trim_inBrackets (trim_dottedName hx) depth)
        (signs_inBrackets hx depth) htoken
    have hpeel : peelBrackets (bareArgument token) = .ok ⟨x, depth⟩ := by
      rw [hbare, peelBrackets_bracketedName hx]
    refine ⟨{ name := cfg.escaped (String.ofList (argumentName position x))
              optional := marksOptional token, arrayDepth := depth, type := t.arrays depth },
      ?_, rfl, rfl⟩
    rw [readArgument, hpeel]
    simp only [hx, if_true]
    rw [Logged.outcome_map_eq_ok_iff]
    exact ⟨t, ht, rfl⟩

/-- **Dotted references are exact.** Against a registry that can be read, the whole path of a
registered class of at least two segments means this class, as a type and as an argument. Any other
dotted name whose last segment is a name means the same as this segment alone. -/
theorem readAlike_dotted (h : classes.Usable) (cfg : Conventions) :
    (∀ path ∈ classes.entries, 2 ≤ path.length →
      (∀ segment ∈ path, isName segment.toList = true) →
      ReadAlike cfg classes (".".intercalate path).toList (.named path)) ∧
    ∀ x : List Char, isDottedName x = true → namedPath x ∉ classes.entries →
      isName (simpleName x) = true →
      ∃ t, ReadAlike cfg classes x t ∧ ReadAlike cfg classes (simpleName x) t := by
  constructor
  · intro path hpath hlength hnames
    have hne : path ≠ [] := List.ne_nil_of_length_pos (by omega)
    have hnamed := resolveName_path h.frozen hpath hlength hnames
    exact readAlike_of_resolveName cfg (isDottedName_path hnames hne) (by rw [hnamed]; rfl)
  · intro x hx hpath hlast
    obtain ⟨t, ht, -⟩ := outcome_resolveName h x
    have hsimple : (resolveName classes (simpleName x)).outcome = .ok t := by
      rw [resolveName_simpleName h.frozen hpath hlast, ht]
    exact ⟨t, readAlike_of_resolveName cfg hx ht,
      readAlike_of_resolveName cfg (isDottedName_of_isName hlast) hsimple⟩

end

/-- A view that is not the first class of this name, a class with the name of a primitive as an
optional argument with a default value, and a path that is not registered. -/
theorem readAlike_dotted_views :
    ClassPaths.Usable (Registry.ofList [["other", "View"], ["sublime", "View"], ["pkg", "int"]]) ∧
      (typeOfText (Registry.ofList [["other", "View"], ["sublime", "View"], ["pkg", "int"]])
        "[[sublime.View]]".toList).outcome = .ok (.array (.array (.named ["sublime", "View"]))) ∧
      (∃ arg, (readArgument {}
          (Registry.ofList [["other", "View"], ["sublime", "View"], ["pkg", "int"]]) 1
          "<[pkg.int]=[0, 1]>".toList).outcome = .ok arg ∧
        arg.arrayDepth = 1 ∧ arg.type = .array (.named ["pkg", "int"])) ∧
      ∃ t, (typeOfText (Registry.ofList [["other", "View"], ["sublime", "View"], ["pkg", "int"]])
          "old.Views".toList).outcome = .ok t ∧
        (typeOfText (Registry.ofList [["other", "View"], ["sublime", "View"], ["pkg", "int"]])
          "Views".toList).outcome = .ok t := by
  have husable : ClassPaths.Usable
      (Registry.ofList [["other", "View"], ["sublime", "View"], ["pkg", "int"]]) :=
    ⟨rfl, by decide⟩
  obtain ⟨hpaths, hothers⟩ := readAlike_dotted husable {}
  have hview := hpaths ["sublime", "View"] (by decide) (by decide) (by decide)
  have hint := hpaths ["pkg", "int"] (by decide) (by decide) (by decide)
  obtain ⟨t, hold, hlast⟩ := hothers "old.Views".toList (by decide) (by decide) (by decide)
  have hargument : ArgumentText (inBrackets 1 "pkg.int".toList) "<[pkg.int]=[0, 1]>".toList :=
    .marked (.withDefault "[0, 1]".toList .bare)
  exact ⟨husable, hview.expression 2, hint.argument 1 1 _ hargument, t, hold.expression 0,
    hlast.expression 0⟩

end TypedReference

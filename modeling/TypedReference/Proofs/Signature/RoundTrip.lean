/-
# Written signatures are read back

Signatures as an author writes them: a dotted name and, in parentheses, arguments that may stand in
brackets, have a default value and be marked as optional. Reading a written signature gives its
name and its arguments, each with the type that its bracketed name has as a type expression.
-/
import TypedReference.Proofs.Signature.Acceptance
import TypedReference.Proofs.TypeExpr.Brackets
import TypedReference.Proofs.TypeExpr.RoundTrip

namespace TypedReference

open Text

/-! ## Signatures and their texts -/

/-- An argument as an author means it. -/
structure ArgumentTerm where
  /-- The name. -/
  name : List Char
  /-- It may be left out. -/
  optional : Bool
  /-- How many brackets stand around the name. -/
  depth : Nat
  /-- The text of the default value. -/
  default? : Option (List Char)

namespace ArgumentTerm

/-- The name in its brackets, which is also how its type is written. -/
def bracketed (a : ArgumentTerm) : List Char := inBrackets a.depth a.name

/-- The argument without its optional mark. -/
def unmarked (a : ArgumentTerm) : List Char :=
  match a.default? with
  | none => a.bracketed
  | some text => a.bracketed ++ '=' :: text

/-- The text of an argument. -/
def render (a : ArgumentTerm) : List Char :=
  if a.optional then '<' :: a.unmarked ++ ['>'] else a.unmarked

/-- The arguments that can be written: the name has no underscore at its ends, and the default value
holds none of the signs that structure a list of arguments. -/
structure WellFormed (a : ArgumentTerm) : Prop where
  /-- The name is one. -/
  isName : isName a.name = true
  /-- It starts with no underscore. -/
  head : a.name.head? ≠ some '_'
  /-- It ends with no underscore. -/
  last : a.name.getLast? ≠ some '_'
  /-- The default value is free of commas and angle brackets. -/
  default : ∀ text ∈ a.default?, ∀ c ∈ text, c ≠ ',' ∧ c ≠ '<' ∧ c ≠ '>'

/-- What is read of a written argument. -/
structure ReadAs (cfg : Conventions) (classes : ClassPaths) (a : ArgumentTerm) (arg : Argument) :
    Prop where
  /-- The name is the same, made safe. -/
  name : arg.name = cfg.escaped (String.ofList a.name)
  /-- It may be left out if that is marked. -/
  optional : arg.optional = a.optional
  /-- Each layer of brackets is a layer of arrays. -/
  depth : arg.arrayDepth = a.depth
  /-- Its type is that of the name in its brackets. -/
  type : (typeOfText classes a.bracketed).outcome = .ok arg.type

/-- All of an argument is settled once its type is known. -/
theorem ReadAs.eq_of_type {cfg : Conventions} {classes : ClassPaths} {a : ArgumentTerm}
    {arg : Argument} (h : a.ReadAs cfg classes arg) {t : ApiType}
    (ht : (typeOfText classes a.bracketed).outcome = .ok t) :
    arg = ⟨cfg.escaped (String.ofList a.name), a.optional, a.depth, t⟩ := by
  obtain ⟨name, optional, depth, type⟩ := arg
  obtain ⟨rfl, rfl, rfl, htype⟩ := h
  rw [ht] at htype
  cases htype
  rfl

end ArgumentTerm

/-- A signature as an author means it. -/
structure SignatureTerm where
  /-- The segments in front of the name. -/
  owner : List (List Char)
  /-- The name. -/
  name : List Char
  /-- The arguments in order. -/
  args : List ArgumentTerm

namespace SignatureTerm

/-- The segments and the name with dots between them. -/
def dottedName (t : SignatureTerm) : List Char := joinWith ['.'] (t.owner ++ [t.name])

/-- The arguments with commas between them. -/
def inner (t : SignatureTerm) : List Char := joinWith memberGap (t.args.map ArgumentTerm.render)

/-- The text of a signature. -/
def render (t : SignatureTerm) : List Char := t.dottedName ++ '(' :: (t.inner ++ [')'])

/-- The signatures that can be written. -/
structure WellFormed (t : SignatureTerm) : Prop where
  /-- Every segment is a name. -/
  owner : ∀ segment ∈ t.owner, isName segment = true
  /-- So is the name itself. -/
  name : isName t.name = true
  /-- The arguments can be written. -/
  args : ∀ a ∈ t.args, a.WellFormed

end SignatureTerm

/-! ## Names of arguments -/

/-- A text of word characters has no run to write an underscore for. -/
theorem underscored_of_words {l : List Char} (h : ∀ c ∈ l, isWord c = true) :
    underscored false l = l := by
  induction l with
  | nil => rfl
  | cons c r ih =>
      rw [List.forall_mem_cons] at h
      rw [underscored, if_pos h.1, if_neg (by decide), ih h.2]

/-- Underscores are only taken off the ends. -/
theorem trimUnderscores_eq_self {l : List Char} (hhead : l.head? ≠ some '_')
    (hlast : l.getLast? ≠ some '_') : trimUnderscores l = l := by
  have hfront : ∀ {r : List Char}, r.head? ≠ some '_' → r.dropWhile (· == '_') = r := by
    intro r hr
    cases r with
    | nil => rfl
    | cons c r =>
        have hc : c ≠ '_' := by simpa using hr
        rw [List.dropWhile_cons_of_neg (by simpa using hc)]
  rw [trimUnderscores, hfront hhead, hfront, List.reverse_reverse]
  rwa [List.head?_reverse]

/-- What may start a name is no digit. -/
theorem isDigit_of_startsName {c : Char} (h : startsName c = true) : isDigit c = false :=
  startsName_induction (P := fun c => isDigit c = false) (by decide) h

/-- A name without underscores at its ends is kept as the name of an argument. -/
theorem argumentName_eq_self {x : List Char} (hx : isName x = true) (hhead : x.head? ≠ some '_')
    (hlast : x.getLast? ≠ some '_') (position : Int) :
    argumentName position x = x := by
  rw [argumentName, underscored_of_words (isWord_of_isName hx),
    trimUnderscores_eq_self hhead hlast]
  cases x with
  | nil => exact absurd hx (by decide)
  | cons c r =>
      rw [isName, Bool.and_eq_true] at hx
      simp only [isDigit_of_startsName hx.1]
      rfl

/-! ## Names in brackets -/

section

variable {x : List Char} (hx : isDottedName x = true)
include hx

/-- The brackets around a name are counted. -/
theorem peelBrackets_bracketedName (depth : Nat) :
    peelBrackets (inBrackets depth x) = .ok ⟨x, depth⟩ := by
  have htrim := trim_dottedName hx
  have hbare : peelBrackets x = .ok ⟨x, 0⟩ :=
    peelBrackets_bare htrim (TypeTerm.ends_dottedName hx).1 (TypeTerm.ends_dottedName hx).2
  rw [peelBrackets_inBrackets htrim hbare, Nat.zero_add]

/-- As a type expression, a name in brackets means as many layers of arrays. -/
theorem outcome_typeOfText_inBrackets {classes : ClassPaths} {t : ApiType}
    (ht : (resolveName classes x).outcome = .ok t) (depth : Nat) :
    (typeOfText classes (inBrackets depth x)).outcome = .ok (t.arrays depth) := by
  have hends := TypeTerm.ends_dottedName hx
  have heq : openedBrackets (condense x) = closedBrackets (condense x) := by
    rw [(SelfContained.dottedName hx).condensed, openedBrackets_eq_zero hends.1,
      closedBrackets_eq_zero hends.2]
  rw [typeOfText_inBrackets (trim_dottedName hx) heq, Logged.outcome_map,
    TypeTerm.outcome_name hx, ht]
  rfl

end

/-! ## Arguments -/

namespace ArgumentTerm

variable {a : ArgumentTerm}

/-- The signs in front of the default value: word characters and brackets. -/
theorem mem_bracketed (ha : a.WellFormed) {c : Char} (hc : c ∈ a.bracketed) :
    isWord c = true ∨ c = '[' ∨ c = ']' := by
  simp only [bracketed, inBrackets, List.mem_append, List.mem_replicate] at hc
  rcases hc with (⟨-, hc⟩ | hc) | ⟨-, hc⟩
  · exact Or.inr (Or.inl hc)
  · exact Or.inl (isWord_of_isName ha.isName c hc)
  · exact Or.inr (Or.inr hc)

/-- A sign that is neither a bracket nor part of a word stands in no bracketed name. -/
theorem ne_of_mem_bracketed (ha : a.WellFormed) {c d : Char} (hc : c ∈ a.bracketed)
    (hd : isWord d = false ∧ d ≠ '[' ∧ d ≠ ']') : c ≠ d := by
  rintro rfl
  rcases mem_bracketed ha hc with hword | hopen | hclose
  · rw [hd.1] at hword
    exact absurd hword (by decide)
  · exact hd.2.1 hopen
  · exact hd.2.2 hclose

/-- Without the optional mark there are neither commas nor angle brackets. -/
theorem signs_unmarked (ha : a.WellFormed) :
    ∀ c ∈ a.unmarked, c ≠ ',' ∧ c ≠ '<' ∧ c ≠ '>' := by
  have hbracketed : ∀ c ∈ a.bracketed, c ≠ ',' ∧ c ≠ '<' ∧ c ≠ '>' := fun c hc =>
    ⟨ne_of_mem_bracketed ha hc (by decide), ne_of_mem_bracketed ha hc (by decide),
      ne_of_mem_bracketed ha hc (by decide)⟩
  intro c hc
  unfold unmarked at hc
  split at hc
  · exact hbracketed c hc
  · next text htext =>
    rw [List.mem_append, List.mem_cons] at hc
    rcases hc with hc | rfl | hc
    · exact hbracketed c hc
    · decide
    · exact ha.default text htext c hc

/-- No comma stands in a written argument. -/
theorem comma_not_mem_render (ha : a.WellFormed) : ',' ∉ a.render := by
  have hunmarked : ',' ∉ a.unmarked := fun hc => (signs_unmarked ha ',' hc).1 rfl
  rw [render]
  split
  · simp [hunmarked]
  · exact hunmarked

/-- The name stands in the text. -/
theorem mem_render {c : Char} (hc : c ∈ a.name) : c ∈ a.render := by
  have hbracketed : c ∈ a.bracketed := by simp [bracketed, inBrackets, hc]
  have hunmarked : c ∈ a.unmarked := by
    unfold unmarked
    split
    · exact hbracketed
    · exact List.mem_append_left _ hbracketed
  rw [render]
  split
  · simp [hunmarked]
  · exact hunmarked

/-- Without the optional mark and the default value the bracketed name is left. -/
theorem bareArgument_render (ha : a.WellFormed) : bareArgument a.render = a.bracketed := by
  have hfilter : a.render.filter (fun c => c != '<' && c != '>') = a.unmarked := by
    have hself : a.unmarked.filter (fun c => c != '<' && c != '>') = a.unmarked := by
      rw [List.filter_eq_self]
      intro c hc
      simp [signs_unmarked ha c hc]
    rw [render]
    split
    · simp [hself]
    · exact hself
  have hbracketed : ∀ c ∈ a.bracketed, (c != '=') = true := by
    intro c hc
    rw [bne_iff_ne]
    exact ne_of_mem_bracketed ha hc (by decide)
  have htake : a.unmarked.takeWhile (· != '=') = a.bracketed := by
    unfold unmarked
    split
    · exact List.takeWhile_eq_self_iff.2 hbracketed
    · rw [List.takeWhile_append_of_pos hbracketed, List.takeWhile_cons_of_neg (by decide),
        List.append_nil]
  rw [bareArgument, hfilter, htake]
  exact trim_inBrackets (trim_dottedName (isDottedName_of_isName ha.isName)) _

/-- The optional mark is seen, and nothing else is taken for one. -/
theorem marksOptional_render (ha : a.WellFormed) :
    marksOptional (trim a.render) = a.optional := by
  cases hmark : a.optional with
  | true =>
      have hrender : a.render = '<' :: a.unmarked ++ ['>'] := by rw [render, if_pos hmark]
      have htrim : trim a.render = a.render := by
        rw [trim_eq_self_iff, hrender, List.getLast?_append, List.getLast?_singleton]
        constructor <;> (intro c hc; cases hc; decide)
      rw [htrim, hrender, marksOptional, List.cons_append, List.dropWhile_cons_of_neg (by decide)]
      simp
  | false =>
      have hrender : a.render = a.unmarked := by rw [render, hmark]; rfl
      have hnone : (trim a.render).dropWhile (· != '<') = [] := by
        rw [List.dropWhile_eq_nil_iff]
        intro c hc
        obtain ⟨front, back, hl, -, -⟩ := exists_around_trim a.render
        have hmem : c ∈ a.render := by
          rw [hl]
          simp [hc]
        rw [hrender] at hmem
        simpa using (signs_unmarked ha c hmem).2.1
      rw [marksOptional, hnone]
      rfl

variable (cfg : Conventions) {classes : ClassPaths}

/-- A written argument is read back. -/
theorem readArgument_render (h : classes.Usable) (ha : a.WellFormed) (position : Int) :
    ∃ arg, (readArgument cfg classes position (trim a.render)).outcome = .ok arg ∧
      a.ReadAs cfg classes arg := by
  have hdotted := isDottedName_of_isName ha.isName
  have hpeel : peelBrackets (bareArgument (trim a.render)) = .ok ⟨a.name, a.depth⟩ := by
    rw [bareArgument_trim, bareArgument_render ha]
    exact peelBrackets_bracketedName hdotted _
  obtain ⟨t, ht, -⟩ := outcome_resolveName h a.name
  refine ⟨{ name := cfg.escaped (String.ofList a.name), optional := a.optional,
            arrayDepth := a.depth, type := t.arrays a.depth }, ?_, ?_⟩
  · rw [readArgument, hpeel]
    simp only [argumentName_eq_self ha.isName ha.head ha.last, hdotted, if_true,
      marksOptional_render ha]
    rw [Logged.outcome_map_eq_ok_iff]
    exact ⟨t, ht, rfl⟩
  · exact ⟨rfl, rfl, rfl, outcome_typeOfText_inBrackets hdotted ht _⟩

/-- Written arguments are read back one after the other, from any position on. -/
theorem readArguments_render (h : classes.Usable) {as : List ArgumentTerm}
    (has : ∀ a ∈ as, a.WellFormed) (position : Nat) :
    ∃ args, (Logged.mapAll (fun (token, i) => readArgument cfg classes i token)
        ((as.map fun a => trim a.render).zipIdx position)).outcome = .ok args ∧
      List.Forall₂ (ReadAs cfg classes) as args := by
  induction as generalizing position with
  | nil => exact ⟨[], rfl, List.Forall₂.nil⟩
  | cons a as ih =>
      rw [List.forall_mem_cons] at has
      obtain ⟨arg, harg, hread⟩ := readArgument_render cfg h has.1 (position : Int)
      obtain ⟨args, hargs, hreads⟩ := ih has.2 (position + 1)
      refine ⟨arg :: args, ?_, List.Forall₂.cons hread hreads⟩
      rw [Logged.outcome_mapAll_eq_ok_iff] at hargs ⊢
      exact List.Forall₂.cons harg hargs

end ArgumentTerm

/-! ## Signatures -/

/-- A list written with gaps is cut at its commas; the space of each gap stays with what follows. -/
theorem splitOn_joinWith_memberGap {l : List Char} {ls : List (List Char)}
    (h : ∀ part ∈ l :: ls, ',' ∉ part) :
    (joinWith memberGap (l :: ls)).splitOn ',' = l :: ls.map (' ' :: ·) := by
  have hjoin : joinWith memberGap (l :: ls) = joinWith [','] (l :: ls.map (' ' :: ·)) := by
    rw [joinWith_cons, joinWith_cons, List.flatMap_map]
    rfl
  rw [hjoin, joinWith, List.splitOn_intercalate _ _ (by simp)]
  rw [List.forall_mem_cons] at h ⊢
  refine ⟨h.1, ?_⟩
  intro part hpart
  obtain ⟨p, hp, rfl⟩ := List.mem_map.1 hpart
  simp [h.2 p hp]

/-- Dotted names with dots between them make up a dotted name. -/
theorem isDottedName_joinWith {parts : List (List Char)} (hne : parts ≠ [])
    (h : ∀ part ∈ parts, isDottedName part = true) :
    isDottedName (joinWith ['.'] parts) = true := by
  cases parts with
  | nil => exact absurd rfl hne
  | cons part parts =>
      rw [List.forall_mem_cons] at h
      rw [joinWith_cons]
      apply isDottedName_append h.1
      intro c hc
      obtain ⟨p, hp, hc⟩ := List.mem_flatMap.1 hc
      rw [List.singleton_append, List.mem_cons] at hc
      rcases hc with rfl | hc
      · decide
      · exact isWordOrDot_of_isDottedName (h.2 p hp) c hc

namespace SignatureTerm

variable {t : SignatureTerm}

/-- Segments and the name are names. -/
theorem WellFormed.segments (ht : t.WellFormed) :
    ∀ segment ∈ t.owner ++ [t.name], isName segment = true := by
  intro segment hsegment
  rcases List.mem_append.1 hsegment with hsegment | hsegment
  · exact ht.owner segment hsegment
  · rw [List.mem_singleton.1 hsegment]
    exact ht.name

/-- The dotted name has the name as its last part. -/
theorem rtakeWhile_dottedName (ht : t.WellFormed) :
    t.dottedName.rtakeWhile (· != '.') = t.name :=
  rtakeWhile_joinWith (not_mem_of_isName ht.name (by decide)) t.owner

/-- The dotted name is one. -/
theorem isDottedName_dottedName (ht : t.WellFormed) : isDottedName t.dottedName = true :=
  isDottedName_joinWith (by simp) fun segment hsegment =>
    isDottedName_of_isName (ht.segments segment hsegment)

/-- The call of a written signature is the whole text. -/
theorem find?_render (ht : t.WellFormed) :
    Call.find? t.render = some ⟨t.dottedName, t.inner⟩ := by
  have hname := isDottedName_dottedName ht
  have hall := isWordOrDot_of_isDottedName hname
  rw [Call.find?_eq_some_iff]
  refine ⟨0, ?_, fun j hj => absurd hj (Nat.not_lt_zero j)⟩
  rw [List.drop_zero, render]
  refine ⟨?_, ?_, [], [], ?_, by simp, by simp⟩
  · rw [List.head?_append_of_ne_nil _ (ne_nil_of_isDottedName hname)]
    cases hcases : t.dottedName with
    | nil => exact absurd hcases (ne_nil_of_isDottedName hname)
    | cons c r =>
        rw [hcases, isDottedName, Bool.and_eq_true] at hname
        exact ⟨c, rfl, hname.1⟩
  · rw [List.takeWhile_append_of_pos hall, List.takeWhile_cons_of_neg (by decide), List.append_nil]
  · rw [List.dropWhile_append_of_pos hall, List.dropWhile_cons_of_neg (by decide),
      List.nil_append]

/-- The arguments are what stands between the commas. -/
theorem tokens_render (ht : t.WellFormed) :
    Call.tokens ⟨t.dottedName, t.inner⟩ = t.args.map fun a => trim a.render := by
  rw [Call.tokens_eq, Call.pieces, inner]
  cases hargs : t.args with
  | nil => simp [joinWith]
  | cons a as =>
      have hwf := ht.args
      rw [hargs] at hwf
      have hseen : ¬ (joinWith memberGap ((a :: as).map ArgumentTerm.render)).all isBlank =
          true := by
        -- The first character of the first name is no blank.
        rw [List.all_eq_true]
        intro hblank
        have hname := (hwf a (by simp)).isName
        obtain ⟨c, hc⟩ := List.exists_mem_of_ne_nil _
          (ne_nil_of_isDottedName (isDottedName_of_isName hname))
        have hmem : c ∈ joinWith memberGap ((a :: as).map ArgumentTerm.render) :=
          (infix_joinWith (by simp)).mem (ArgumentTerm.mem_render hc)
        have hword := isBlank_eq_false_of_isWord (isWord_of_isName hname c hc)
        rw [hblank c hmem] at hword
        exact absurd hword (by decide)
      have hcommas : ∀ part ∈ a.render :: as.map ArgumentTerm.render, ',' ∉ part := by
        intro part hpart
        rw [← List.map_cons] at hpart
        obtain ⟨b, hb, rfl⟩ := List.mem_map.1 hpart
        exact ArgumentTerm.comma_not_mem_render (hwf b hb)
      have hgap : ∀ l, trim (' ' :: l) = trim l := fun _ => rfl
      rw [if_neg hseen, List.map_cons, splitOn_joinWith_memberGap hcommas, List.map_cons,
        List.map_map, List.map_map, List.map_cons]
      simp only [Function.comp_def, hgap]

variable {classes : ClassPaths}

/-- **Written signatures are read back.** Against a registry that can be read, the text of every
signature has the name and, in order, the arguments of the signature. -/
theorem readSignature_render (h : classes.Usable) (cfg : Conventions) (ht : t.WellFormed) :
    ∃ args, (readSignature cfg classes t.render).outcome =
        .ok (some ⟨String.ofList t.name, args⟩) ∧
      List.Forall₂ (ArgumentTerm.ReadAs cfg classes) t.args args := by
  obtain ⟨args, hargs, hread⟩ := ArgumentTerm.readArguments_render cfg h ht.args 1
  refine ⟨args, ?_, hread⟩
  rw [readSignature, find?_render ht]
  simp only [tokens_render ht, Call.lastName_eq, rtakeWhile_dottedName ht]
  rw [Logged.outcome_map_eq_ok_iff]
  exact ⟨args, hargs, rfl⟩

/-- A method of a view: an argument with a reserved name, an optional array with a default value,
and an array of arrays whose default value stands in parentheses. -/
theorem readSignature_render_findAll :
    ClassPaths.Usable (Registry.ofList [["sublime", "Region"]]) ∧
      (readSignature {} (Registry.ofList [["sublime", "Region"]])
        "sublime.View.find_all(in, <[flags]=0>, [[regions]]=(a) )".toList).outcome =
          .ok (some ⟨"find_all", [⟨"_in", false, 0, .any⟩, ⟨"flags", true, 1, .array .int⟩,
            ⟨"regions", false, 2, .array (.array (.named ["sublime", "Region"]))⟩]⟩) := by
  have husable : ClassPaths.Usable (Registry.ofList [["sublime", "Region"]]) :=
    ⟨rfl, by decide⟩
  have hwritten : WellFormed ⟨["sublime".toList, "View".toList], "find_all".toList,
      [⟨"in".toList, false, 0, none⟩, ⟨"flags".toList, true, 1, some "0".toList⟩,
        ⟨"regions".toList, false, 2, some "(a) ".toList⟩]⟩ := by
    refine ⟨by decide, by decide, ?_⟩
    rw [List.forall_mem_cons, List.forall_mem_cons, List.forall_mem_singleton]
    exact ⟨⟨by decide, by decide, by decide, by simp⟩, ⟨by decide, by decide, by decide, by simp⟩,
      ⟨by decide, by decide, by decide, by simp⟩⟩
  refine ⟨husable, ?_⟩
  obtain ⟨args, hargs, hread⟩ := readSignature_render husable {} hwritten
  obtain ⟨first, _, hfirst, hread₁, rfl⟩ := List.forall₂_cons_left_iff.1 hread
  obtain ⟨second, _, hsecond, hread₂, rfl⟩ := List.forall₂_cons_left_iff.1 hread₁
  obtain ⟨third, _, hthird, hread₃, rfl⟩ := List.forall₂_cons_left_iff.1 hread₂
  have hin : (typeOfText (Registry.ofList [["sublime", "Region"]])
      (inBrackets 0 "in".toList)).outcome = .ok .any :=
    outcome_typeOfText_inBrackets (t := .any) (by decide) rfl 0
  have hflags : (typeOfText (Registry.ofList [["sublime", "Region"]])
      (inBrackets 1 "flags".toList)).outcome = .ok (.array .int) :=
    outcome_typeOfText_inBrackets (t := .int) (by decide) rfl 1
  have hregions : (typeOfText (Registry.ofList [["sublime", "Region"]])
      (inBrackets 2 "regions".toList)).outcome =
        .ok (.array (.array (.named ["sublime", "Region"]))) :=
    outcome_typeOfText_inBrackets (t := .named ["sublime", "Region"]) (by decide) rfl 2
  rw [List.forall₂_nil_left_iff.1 hread₃, hfirst.eq_of_type hin, hsecond.eq_of_type hflags,
    hthird.eq_of_type hregions] at hargs
  exact hargs

end SignatureTerm

end TypedReference

/-
# How far a reading goes

Reading a text for its type asks for the types of texts inside it, and these texts fall apart into
further ones, also where brackets and parentheses do not fit. `typeStep` is one call of the reading
with the calls inside left open. It asks for shorter texts only, runs of blanks counted as one
space, so the calls come to an end for every text, and a type that comes out is at most one level
deeper than the text is long.
-/
import TypedReference.Proofs.TypeExpr.Brackets

namespace TypedReference

open Text

/-! ## One call -/

/-- Asks for a value for each element in order, where an answer may not come. The first fault ends
the asking. -/
def askAll {ε α β : Type} (ask : α → Option (Logged ε β)) : List α → Option (Logged ε (List β))
  | [] => some (.ok [])
  | a :: l =>
    match ask a with
    | none => none
    | some x =>
      match x.outcome with
      | .error e => some ⟨.error e, x.events⟩
      | .ok _ => (askAll ask l).map fun y => x.andThen fun b => y.map (b :: ·)

/-- The type of a text in no brackets that has the given form, where the texts inside are asked
for. -/
def formStep (classes : ClassPaths) (ask : List Char → Option (Logged AssemblyFault ApiType))
    (text : List Char) : Outline → Option (Logged AssemblyFault ApiType)
  | .tuple members => (askAll ask members).map (Logged.map .tuple)
  | .nullable inner => (ask inner).map (Logged.map .nullable)
  | .alternation => some ⟨.ok .any, [.unresolvedAlternation (String.ofList text)]⟩
  | .name => some (resolveName classes text)
  | .unreadable => some ⟨.ok .any, [.unparsableType (String.ofList text)]⟩

/-- One call of the reading: the type of a text, where the texts inside are asked for. -/
def typeStep (classes : ClassPaths) (ask : List Char → Option (Logged AssemblyFault ApiType))
    (l : List Char) : Option (Logged AssemblyFault ApiType) :=
  match peelBrackets (condense l) with
  | .error fault => some (.fail (.document fault))
  | .ok p => (formStep classes ask p.inner (outline p.inner)).map (Logged.map (.arrays p.depth))

/-- The call for one text asks for another one: with some answers for all texts but this one it does
not come to an end. -/
def AsksFor (classes : ClassPaths) (l m : List Char) : Prop :=
  ∃ ask, (∀ x, ask x = none ↔ x = m) ∧ typeStep classes ask l = none

/-- The texts inside a text of the given form. -/
def Outline.inside : Outline → List (List Char)
  | .tuple members => members
  | .nullable inner => [inner]
  | .alternation => []
  | .name => []
  | .unreadable => []

/-- The reading with at most so many calls inside each other. -/
def typeWithin (classes : ClassPaths) : Nat → List Char → Option (Logged AssemblyFault ApiType)
  | 0, _ => none
  | n + 1, l => typeStep classes (typeWithin classes n) l

/-! ## Answers -/

section

variable {ε α β : Type} {ask : α → Option (Logged ε β)}

/-- With all answers the asking is the computation for each element. -/
theorem askAll_of_answers {f : α → Logged ε β} {l : List α} (h : ∀ a ∈ l, ask a = some (f a)) :
    askAll ask l = some (Logged.mapAll f l) := by
  induction l with
  | nil => rfl
  | cons a l ih =>
      rw [List.forall_mem_cons] at h
      have hmap : ∀ b, ((Logged.mapAll f l).andThen fun bs => Logged.ok (b :: bs)) =
          (Logged.mapAll f l).map (b :: ·) := fun b => (Logged.map_eq_andThen _ _).symm
      rw [askAll, h.1, Logged.mapAll]
      simp only [hmap]
      cases hb : (f a).outcome with
      | error e =>
          simp only
          rw [Logged.andThen, hb]
      | ok b => simp only [ih h.2, Option.map_some]

/-- Where the asking does not end, an answer is missing. -/
theorem exists_unanswered_of_askAll {l : List α} (h : askAll ask l = none) :
    ∃ a ∈ l, ask a = none := by
  induction l with
  | nil => cases h
  | cons a l ih =>
      rw [askAll] at h
      split at h
      · next ha => exact ⟨a, List.mem_cons_self, ha⟩
      · split at h
        · cases h
        · obtain ⟨b, hb, hnone⟩ := ih (Option.map_eq_none_iff.1 h)
          exact ⟨b, List.mem_cons_of_mem a hb, hnone⟩

/-- With values for all other elements the asking comes to the one without an answer. -/
theorem askAll_eq_none {a : α} {l : List α} (hl : a ∈ l) (ha : ask a = none)
    (h : ∀ x ≠ a, ∃ b, ask x = some (.ok b)) : askAll ask l = none := by
  induction l with
  | nil => cases hl
  | cons x l ih =>
      by_cases hx : x = a
      · rw [askAll, hx, ha]
      · obtain ⟨b, hb⟩ := h x hx
        have hrest := ih ((List.mem_cons.1 hl).resolve_left (Ne.symm hx))
        rw [askAll, hb]
        simp only [hrest, Logged.outcome_ok, Option.map_none]

end

section

variable {classes : ClassPaths} {ask : List Char → Option (Logged AssemblyFault ApiType)}
  {l : List Char}

/-- A form asks for no texts but those inside. -/
theorem exists_unanswered_of_formStep {text : List Char} {o : Outline}
    (h : formStep classes ask text o = none) : ∃ m ∈ o.inside, ask m = none := by
  cases o with
  | tuple members => exact exists_unanswered_of_askAll (Option.map_eq_none_iff.1 h)
  | nullable inner => exact ⟨inner, List.mem_cons_self, Option.map_eq_none_iff.1 h⟩
  | alternation | name | unreadable => cases h

/-- It asks for each of them, if it is told a type for all others. -/
theorem formStep_eq_none {text m : List Char} {o : Outline} (hm : m ∈ o.inside)
    (hnone : ask m = none) (h : ∀ x ≠ m, ∃ t, ask x = some (.ok t)) :
    formStep classes ask text o = none := by
  cases o with
  | tuple members =>
      have hmembers : m ∈ members := hm
      rw [formStep, askAll_eq_none hmembers hnone h, Option.map_none]
  | nullable inner =>
      rw [Outline.inside, List.mem_singleton] at hm
      rw [formStep, ← hm, hnone, Option.map_none]
  | alternation | name | unreadable => cases hm

/-- What is asked for are the members of a tuple, and the type that may be missing. -/
theorem asksFor_iff {m : List Char} : AsksFor classes l m ↔
    ∃ p, peelBrackets (condense l) = .ok p ∧ m ∈ (outline p.inner).inside := by
  constructor
  · rintro ⟨ask, hask, hstep⟩
    unfold typeStep at hstep
    split at hstep
    · cases hstep
    · next p hp =>
      obtain ⟨x, hx, hnone⟩ := exists_unanswered_of_formStep (Option.map_eq_none_iff.1 hstep)
      rw [hask] at hnone
      exact ⟨p, hp, hnone ▸ hx⟩
  · rintro ⟨p, hp, hm⟩
    refine ⟨fun x => if x = m then none else some (.ok .any), by simp, ?_⟩
    simp only [typeStep, hp]
    rw [formStep_eq_none hm (if_pos rfl) fun x hx => ⟨.any, if_neg hx⟩, Option.map_none]

/-- The texts inside are shorter. -/
theorem length_lt_of_mem_inside {m : List Char} (hm : m ∈ (outline l).inside) :
    m.length < l.length := by
  cases ho : outline l with
  | tuple members =>
      rw [ho] at hm
      exact length_lt_of_outline_eq_tuple ho hm
  | nullable inner =>
      rw [ho, Outline.inside, List.mem_singleton] at hm
      rw [hm]
      exact length_lt_of_outline_eq_nullable ho
  | alternation | name | unreadable =>
      rw [ho, Outline.inside] at hm
      cases hm

/-- They are shorter than what stands in the brackets, so also with runs of blanks counted as one
space. -/
theorem length_condense_lt_of_mem_inside {p : Peeled} {m : List Char}
    (hp : peelBrackets (condense l) = .ok p) (hm : m ∈ (outline p.inner).inside) :
    (condense m).length < (condense l).length := by
  have hinner := length_inner_le_of_peelBrackets hp
  have hshorter := length_lt_of_mem_inside hm
  have hcondense := length_condense_le m
  omega

theorem AsksFor.length_lt {m : List Char} (h : AsksFor classes l m) :
    (condense m).length < (condense l).length := by
  obtain ⟨p, hp, hm⟩ := asksFor_iff.1 h
  exact length_condense_lt_of_mem_inside hp hm

/-- Told the types of the texts inside, a form gives the text its type. -/
theorem formStep_of_answers {text : List Char} {o : Outline}
    (h : ∀ m ∈ o.inside, ask m = some (typeOfText classes m)) :
    formStep classes ask text o = some ((TypeExpr.ofOutline text o).resolve classes) := by
  cases o with
  | tuple members =>
      have hmembers : ∀ m ∈ members, ask m = some (typeOfText classes m) := h
      have hread : Logged.mapAll (TypeExpr.resolve classes) (members.map TypeExpr.read) =
          Logged.mapAll (typeOfText classes) members :=
        Logged.mapAll_congr (List.forall₂_map_left_iff.2 (List.forall₂_same.2 fun _ _ => rfl))
      rw [formStep, askAll_of_answers hmembers, TypeExpr.ofOutline, TypeExpr.resolve,
        TypeExpr.resolveAll_eq_mapAll, hread, Option.map_some]
  | nullable inner =>
      rw [formStep, h inner List.mem_cons_self]
      rfl
  | alternation | name | unreadable => rfl

/-- Told the types of all shorter texts, a call gives the text its type. -/
theorem typeStep_of_answers
    (h : ∀ m, (condense m).length < (condense l).length → ask m = some (typeOfText classes m)) :
    typeStep classes ask l = some (typeOfText classes l) := by
  unfold typeStep typeOfText
  cases hp : peelBrackets (condense l) with
  | error fault =>
      rw [TypeExpr.read_of_mismatch hp, TypeExpr.resolve]
  | ok p =>
      have hinside : ∀ m ∈ (outline p.inner).inside, ask m = some (typeOfText classes m) :=
        fun m hm => h m (length_condense_lt_of_mem_inside hp hm)
      rw [TypeExpr.read_of_peel hp, TypeExpr.resolve]
      simp only [formStep_of_answers hinside, Option.map_some]

/-- More calls inside each other than the text has characters are never needed. -/
theorem typeWithin_of_length_lt {n : Nat} (h : (condense l).length < n) :
    typeWithin classes n l = some (typeOfText classes l) := by
  induction n generalizing l with
  | zero => exact absurd h (Nat.not_lt_zero _)
  | succ n ih =>
      apply typeStep_of_answers
      intro m hm
      exact ih (by omega)

end

/-! ## Nested types -/

namespace ApiType

mutual

/-- How deep a type is nested; one without types inside counts as one. -/
def nesting : ApiType → Nat
  | nullable inner => nesting inner + 1
  | array inner => nesting inner + 1
  | tuple items => nestingAll items + 1
  | map key value => max (nesting key) (nesting value) + 1
  | function args ret => max (nestingAll args) (nesting ret) + 1
  | primitive _ => 1
  | any => 1
  | regex => 1
  | named _ => 1

/-- How deep the deepest of several types is nested. -/
def nestingAll : List ApiType → Nat
  | [] => 0
  | t :: ts => max (nesting t) (nestingAll ts)

end

theorem nestingAll_le {n : Nat} {ts : List ApiType} (h : ∀ t ∈ ts, t.nesting ≤ n) :
    nestingAll ts ≤ n := by
  induction ts with
  | nil => exact Nat.zero_le n
  | cons t ts ih =>
      rw [List.forall_mem_cons] at h
      rw [nestingAll]
      exact Nat.max_le.2 ⟨h.1, ih h.2⟩

/-- Each layer of arrays is one more level. -/
theorem nesting_arrays (n : Nat) (t : ApiType) : (t.arrays n).nesting = t.nesting + n := by
  induction n with
  | zero => rfl
  | succ n ih => rw [arrays, nesting, ih, Nat.add_assoc]

end ApiType

/-- Names stand for tables and functions at most. -/
theorem ClassPaths.Names.nesting_le {classes : ClassPaths} {t : ApiType} (h : classes.Names t) :
    t.nesting ≤ 2 := by
  rcases h with hfixed | ⟨path, -, rfl⟩
  · have hall : (NameRule.fixedTypes.all fun t => decide (t.nesting ≤ 2)) = true := by decide
    exact of_decide_eq_true (List.all_eq_true.1 hall t hfixed)
  · rw [ApiType.nesting]
    omega

/-- Both ends of a text hold the brackets that are taken off. -/
theorem length_of_peelBrackets {l : List Char} (ht : trim l = l) {p : Peeled}
    (h : peelBrackets l = .ok p) : p.inner.length + 2 * p.depth ≤ l.length := by
  have heq : openedBrackets l = closedBrackets l := by
    by_contra hne
    rw [peelBrackets_eq ht, if_neg hne] at h
    cases h
  obtain ⟨inner, hl, hopened, hclosed⟩ := exists_inBrackets heq
  generalize openedBrackets l = depth at hl
  subst hl
  rw [peelBrackets_innermost ht hopened hclosed] at h
  cases h
  have htrim := length_trim_le inner
  simp only [inBrackets, List.length_append, List.length_replicate]
  omega

section

variable {classes : ClassPaths} (h : classes.Usable)
include h

/-- A form adds one level to the types of the texts inside at most. -/
theorem nesting_ofOutline_le {text : List Char} {t : ApiType}
    (hinside : ∀ m ∈ (outline text).inside, ∀ u, (typeOfText classes m).outcome = .ok u →
      u.nesting ≤ text.length)
    (ht : ((TypeExpr.ofOutline text (outline text)).resolve classes).outcome = .ok t) :
    t.nesting ≤ text.length + 1 := by
  cases ho : outline text with
  | tuple members =>
      rw [ho] at hinside
      rw [ho, TypeExpr.ofOutline, TypeExpr.resolve, TypeExpr.resolveAll_eq_mapAll,
        Logged.outcome_map_eq_ok_iff] at ht
      obtain ⟨ts, hts, rfl⟩ := ht
      rw [ApiType.nesting]
      apply Nat.succ_le_succ
      apply ApiType.nestingAll_le
      intro u hu
      obtain ⟨e, he, heu⟩ := Logged.exists_of_mem_mapAll hts hu
      obtain ⟨m, hm, rfl⟩ := List.mem_map.1 he
      exact hinside m hm u heu
  | nullable inner =>
      rw [ho] at hinside
      rw [ho, TypeExpr.ofOutline, TypeExpr.resolve, Logged.outcome_map_eq_ok_iff] at ht
      obtain ⟨u, hu, rfl⟩ := ht
      rw [ApiType.nesting]
      exact Nat.succ_le_succ (hinside inner List.mem_cons_self u hu)
  | name =>
      -- A name can stand for a type of two levels, but it has a character.
      obtain ⟨u, hu, hnames⟩ := outcome_resolveName h text
      rw [ho, TypeExpr.ofOutline, TypeExpr.resolve, hu] at ht
      cases ht
      have htwo := hnames.nesting_le
      have hpos := List.length_pos_iff.2 (ne_nil_of_isDottedName (outline_eq_name ho))
      omega
  | alternation | unreadable =>
      rw [ho, TypeExpr.ofOutline, TypeExpr.resolve] at ht
      cases ht
      rw [ApiType.nesting]
      omega

/-- A type is at most one level deeper than its text is long, runs of blanks counted as one
space. -/
theorem nesting_typeOfText_le {l : List Char} {t : ApiType}
    (ht : (typeOfText classes l).outcome = .ok t) : t.nesting ≤ (condense l).length + 1 := by
  -- The recursion follows that of the reading, into the texts inside the text.
  cases hp : peelBrackets (condense l) with
  | error fault =>
      rw [typeOfText, TypeExpr.read_of_mismatch hp, TypeExpr.resolve] at ht
      cases ht
  | ok p =>
      rw [typeOfText, TypeExpr.read_of_peel hp, TypeExpr.resolve,
        Logged.outcome_map_eq_ok_iff] at ht
      obtain ⟨u, hu, rfl⟩ := ht
      have hdeep : u.nesting ≤ p.inner.length + 1 := by
        apply nesting_ofOutline_le h _ hu
        intro m hm v hv
        have hinner := nesting_typeOfText_le hv
        have hshorter := length_lt_of_mem_inside hm
        have hcondense := length_condense_le m
        omega
      have hlength := length_of_peelBrackets (trim_condense l) hp
      rw [ApiType.nesting_arrays]
      omega
termination_by (condense l).length
decreasing_by exact length_condense_lt_of_mem_inside hp hm

/-- **Every reading ends.** Against a registry that can be read, each call of the reading asks for
the types of shorter texts only, runs of blanks counted as one space. So the calls inside each other
come to an end for every text, whether it has a type or is refused, and a type that comes out is at
most one level deeper than the text is long. -/
theorem typeOfText_ends (l : List Char) :
    (∀ m, AsksFor classes l m → (condense m).length < (condense l).length) ∧
    (∀ n, (condense l).length < n → typeWithin classes n l = some (typeOfText classes l)) ∧
    ∀ t, (typeOfText classes l).outcome = .ok t → t.nesting ≤ (condense l).length + 1 := by
  refine ⟨?_, ?_, ?_⟩
  · exact fun m hm => hm.length_lt
  · exact fun n hn => typeWithin_of_length_lt hn
  · exact fun t ht => nesting_typeOfText_le h ht

end

/-- A table and an array in a tuple in brackets, and a tuple of which the second member is not
closed. -/
theorem typeOfText_ends_pair :
    ClassPaths.Usable (Registry.ofList [["sublime", "View"]]) ∧
      AsksFor (Registry.ofList [["sublime", "View"]]) "[(dict, [str])]".toList "[str]".toList ∧
      (condense "[str]".toList).length < (condense "[(dict, [str])]".toList).length ∧
      (typeOfText (Registry.ofList [["sublime", "View"]]) "[(dict, [str])]".toList).outcome =
        .ok (.array (.tuple [.stringMap, .array .string])) ∧
      (ApiType.array (.tuple [.stringMap, .array .string])).nesting ≤ 16 ∧
      typeWithin (Registry.ofList [["sublime", "View"]]) 13 "(int,  [str)".toList =
        some (typeOfText (Registry.ofList [["sublime", "View"]]) "(int,  [str)".toList) := by
  have husable : ClassPaths.Usable (Registry.ofList [["sublime", "View"]]) := ⟨rfl, by decide⟩
  obtain ⟨hshorter, hwithin, hdeep⟩ := typeOfText_ends husable "[(dict, [str])]".toList
  obtain ⟨-, hmalformed, -⟩ := typeOfText_ends husable "(int,  [str)".toList
  have hasks : AsksFor (Registry.ofList [["sublime", "View"]]) "[(dict, [str])]".toList
      "[str]".toList :=
    asksFor_iff.2 ⟨⟨"(dict, [str])".toList, 1⟩, rfl, by decide⟩
  have hread : (typeOfText (Registry.ofList [["sublime", "View"]])
      "[(dict, [str])]".toList).outcome = .ok (.array (.tuple [.stringMap, .array .string])) := by
    have hfew := hwithin 16 (by decide)
    rw [← Option.some.inj hfew]
    rfl
  exact ⟨husable, hasks, hshorter _ hasks, hread, hdeep _ hread, hmalformed 13 (by decide)⟩

end TypedReference

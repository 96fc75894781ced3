/-
# The names in a type expression

Every name that a reading holds stands in the text as an identifier, since a text is only taken
apart at characters that no name holds. Apart from its names a reading has nothing to do with the
registry, so the type of a text depends on no more than the types of its identifiers.
-/
import TypedReference.Proofs.Text.Identifiers
import TypedReference.Proofs.TypeExpr.Typing

namespace TypedReference

open Text

namespace TypeExpr

mutual

/-- The names in an expression, from left to right. -/
def names : TypeExpr → List (List Char)
  | array _ inner => names inner
  | tuple members => namesAll members
  | nullable inner => names inner
  | name text => [text]
  | mismatched _ => []
  | alternation _ => []
  | unreadable _ => []

/-- The names in several expressions. -/
def namesAll : List TypeExpr → List (List Char)
  | [] => []
  | e :: es => names e ++ namesAll es

end

theorem namesAll_eq_flatMap (es : List TypeExpr) : namesAll es = es.flatMap names := by
  induction es with
  | nil => rfl
  | cons e es ih => rw [namesAll, List.flatMap_cons, ih]

end TypeExpr

/-! ## Texts inside a text -/

/-- Taking off the brackets at the ends keeps the identifiers. -/
theorem identifiers_inner {l : List Char} (ht : trim l = l) {p : Peeled}
    (h : peelBrackets l = .ok p) : identifiers p.inner = identifiers l := by
  have hclosed : identifiers (l.take (l.length - closedBrackets l)) = identifiers l := by
    conv_rhs => rw [← List.take_append_drop (l.length - closedBrackets l) l]
    rw [identifiers_append_right]
    intro c hc
    rw [eq_of_mem_drop_closedBrackets hc]
    decide
  have hopened : identifiers ((l.take (l.length - closedBrackets l)).drop (openedBrackets l)) =
      identifiers (l.take (l.length - closedBrackets l)) := by
    conv_rhs => rw [← List.take_append_drop (openedBrackets l) (l.take _)]
    rw [identifiers_append_left]
    intro c hc
    -- What is dropped here stands at the start of the whole text, too.
    rw [List.take_take, Nat.min_comm, ← List.take_take] at hc
    rw [eq_of_mem_take_openedBrackets (List.mem_of_mem_take hc)]
    decide
  rw [peelBrackets_eq ht] at h
  split at h
  · cases h
    rw [identifiers_trim, hopened, hclosed]
  · cases h

/-- The texts between parentheses have no other identifiers than the whole. -/
theorem mem_identifiers_of_outline_eq_tuple {l m x : List Char} {members : List (List Char)}
    (h : outline l = .tuple members) (hm : m ∈ members) (hx : x ∈ identifiers m) :
    x ∈ identifiers l := by
  obtain ⟨body, hbody, rfl⟩ := outline_eq_tuple h
  rw [parenthesized?_eq_some hbody, identifiers_append_right (by simp; decide),
    identifiers_cons (by decide)]
  exact mem_identifiers_of_mem_topLevelParts (by decide) hm hx

/-- The text of a type that may be missing has no other identifiers than the choice. -/
theorem mem_identifiers_of_outline_eq_nullable {l inner x : List Char}
    (h : outline l = .nullable inner) (hx : x ∈ identifiers inner) : x ∈ identifiers l := by
  obtain ⟨before, rest, only, hsplit, honly, hinner⟩ := outline_eq_nullable h
  obtain ⟨o, r, rfl, -, -⟩ := splitOr?_eq_some hsplit
  have hspace : isWordOrDot ' ' = false := by decide
  have hchoice : identifiers (before ++ ' ' :: o :: r :: ' ' :: rest) =
      identifiers before ++ (identifiers [o, r] ++ identifiers rest) := by
    rw [identifiers_gap hspace, ← identifiers_gap hspace [o, r] rest]
    rfl
  rw [hchoice]
  rcases hinner with ⟨-, rfl⟩ | ⟨-, rfl⟩
  · rw [identifiers_trim] at hx
    exact List.mem_append_right _ (List.mem_append_right _ hx)
  · have hpart : inner ∈ topLevelParts [','] before := by
      rw [honly]
      exact List.mem_singleton_self _
    exact List.mem_append_left _ (mem_identifiers_of_mem_topLevelParts (by decide) hpart hx)

/-! ## The names of a reading -/

namespace TypeExpr

/-- **Names stand in the text.** Every name that a reading holds is an identifier of the text. -/
theorem mem_identifiers_of_mem_names {l x : List Char} (hx : x ∈ (read l).names) :
    x ∈ identifiers l := by
  -- The recursion follows that of the reading, into the texts inside the text.
  cases hp : peelBrackets (condense l) with
  | error fault =>
      rw [read_of_mismatch hp, names] at hx
      cases hx
  | ok p =>
      rw [read_of_peel hp, names] at hx
      rw [← identifiers_condense, ← identifiers_inner (trim_condense l) hp]
      cases ho : outline p.inner with
      | tuple members =>
          rw [ho, ofOutline, names, namesAll_eq_flatMap, List.mem_flatMap] at hx
          obtain ⟨e, he, hxe⟩ := hx
          obtain ⟨m, hm, rfl⟩ := List.mem_map.1 he
          exact mem_identifiers_of_outline_eq_tuple ho hm (mem_identifiers_of_mem_names hxe)
      | nullable inner =>
          rw [ho, ofOutline, names] at hx
          exact mem_identifiers_of_outline_eq_nullable ho (mem_identifiers_of_mem_names hx)
      | name =>
          rw [ho, ofOutline, names, List.mem_singleton] at hx
          rw [hx, identifiers_dottedName (outline_eq_name ho)]
          exact List.mem_singleton_self _
      | alternation =>
          rw [ho, ofOutline, names] at hx
          cases hx
      | unreadable =>
          rw [ho, ofOutline, names] at hx
          cases hx
termination_by (condense l).length
decreasing_by
  · exact length_condense_lt_of_tuple hp ho hm
  · exact length_condense_lt_of_nullable hp ho

variable {classes classes' : ClassPaths}

/-- Two registries that give the names of an expression the same types give the expression the same
type. -/
theorem resolve_congr (e : TypeExpr)
    (h : ∀ x ∈ e.names, resolveName classes x = resolveName classes' x) :
    e.resolve classes = e.resolve classes' := by
  induction e using TypeExpr.induction with
  | mismatched fault | alternation text | unreadable text => rw [resolve, resolve]
  | array depth inner ih => rw [resolve, resolve, ih h]
  | nullable inner ih => rw [resolve, resolve, ih h]
  | name text => rw [resolve, resolve, h text (List.mem_singleton_self _)]
  | tuple members ih =>
      rw [names, namesAll_eq_flatMap] at h
      have hmembers : ∀ e ∈ members, e.resolve classes = e.resolve classes' := fun e he =>
        ih e he fun x hx => h x (List.mem_flatMap.2 ⟨e, he, hx⟩)
      rw [resolve, resolve, resolveAll_eq_mapAll, resolveAll_eq_mapAll,
        Logged.mapAll_congr (List.forall₂_same.2 hmembers)]

/-! ## Types of names put together -/

mutual

/-- The type of an expression whose names have the given types. -/
def typeWith (f : List Char → ApiType) : TypeExpr → ApiType
  | array depth inner => .arrays depth (typeWith f inner)
  | tuple members => .tuple (typesWith f members)
  | nullable inner => .nullable (typeWith f inner)
  | name text => f text
  | mismatched _ => .any
  | alternation _ => .any
  | unreadable _ => .any

/-- The types of several expressions whose names have the given types. -/
def typesWith (f : List Char → ApiType) : List TypeExpr → List ApiType
  | [] => []
  | e :: es => typeWith f e :: typesWith f es

end

theorem typesWith_eq_map (f : List Char → ApiType) (es : List TypeExpr) :
    typesWith f es = es.map (typeWith f) := by
  induction es with
  | nil => rfl
  | cons e es ih => rw [typesWith, List.map_cons, ih]

/-- Against two registries that give every name a type, an expression is refused for the same
fault, or it has the types that come from those of its names. -/
theorem endTogether_resolve {f f' : List Char → ApiType}
    (h : ∀ x, (resolveName classes x).outcome = .ok (f x))
    (h' : ∀ x, (resolveName classes' x).outcome = .ok (f' x)) (e : TypeExpr) :
    Logged.EndTogether (e.resolve classes) (e.resolve classes') (e.typeWith f)
      (e.typeWith f') := by
  induction e using TypeExpr.induction with
  | mismatched fault =>
      rw [resolve, resolve]
      exact Or.inl ⟨_, rfl, rfl⟩
  | alternation text | unreadable text =>
      rw [resolve, resolve]
      exact Or.inr ⟨rfl, rfl⟩
  | name text =>
      rw [resolve, resolve]
      exact Or.inr ⟨h text, h' text⟩
  | array depth inner ih | nullable inner ih =>
      rw [resolve, resolve]
      exact ih.map
  | tuple members ih =>
      rw [resolve, resolve, resolveAll_eq_mapAll, resolveAll_eq_mapAll, typeWith, typeWith,
        typesWith_eq_map, typesWith_eq_map]
      exact (Logged.EndTogether.mapAll ih).map

end TypeExpr

/-- The type of a text, and what is reported on the way to it, depends on the types of its
identifiers only. -/
theorem typeOfText_congr {classes classes' : ClassPaths} {l : List Char}
    (h : ∀ x ∈ identifiers l, resolveName classes x = resolveName classes' x) :
    typeOfText classes l = typeOfText classes' l :=
  TypeExpr.resolve_congr _ fun x hx => h x (TypeExpr.mem_identifiers_of_mem_names hx)

end TypedReference

/-
# Acceptable data

A datum is acceptable when its schema finds no violation. For each kind of schema and each kind of
datum that can meet it there is one law, which goes from the whole to the parts; where the
violation of a datum that is not acceptable lies does not matter here.
-/
import TypedReference.Schema

namespace TypedReference.Schema

variable {Name : Type} {define : Name → Schema Name}

/-- The names that the schema of an object asks for. -/
def requiredNames : Schema Name → List String
  | object required _ _ => required
  | _ => []

/-- The schemas for the values of an object, by name. -/
def properties : Schema Name → List (String × Schema Name)
  | object _ _ properties => properties
  | _ => []

/-- A datum in which the schema finds no violation. -/
def Accepts (define : Name → Schema Name) (s : Schema Name) (d : Datum) : Prop :=
  violation? define s d = none

/-- A reference is as its definition, when that does not refer on. -/
theorem accepts_ref {name : Name} (h : (define name).unfolded define = define name) {d : Datum} :
    Accepts define (ref name) d ↔ Accepts define (define name) d := by
  rw [Accepts, Accepts, violation?.eq_def, violation?.eq_def define (define name), h]
  rfl

/-! ## Texts, numbers and words -/

@[simp] theorem accepts_text {nonEmpty : Bool} {t : String} :
    Accepts define (text nonEmpty) (.text t) ↔ (nonEmpty = true → t ≠ "") := by
  rw [Accepts, violation?.eq_def]
  show (if nonEmpty && t.isEmpty then some (Violation.here .emptyText) else none) = none ↔ _
  cases nonEmpty <;> simp

@[simp] theorem accepts_bool (b : Bool) : Accepts define bool (.bool b) := by
  rw [Accepts, violation?.eq_def]
  rfl

@[simp] theorem accepts_natural {n : Int} : Accepts define natural (.int n) ↔ 0 ≤ n := by
  rw [Accepts, violation?.eq_def]
  show ((if n < 0 then some (Breach.negative (.int n)) else none).map Violation.here) = none ↔ _
  by_cases h : n < 0
  · have hn : ¬ 0 ≤ n := by omega
    simp [h, hn]
  · have hn : 0 ≤ n := by omega
    simp [h, hn]

@[simp] theorem accepts_oneOf {words : List String} {t : String} :
    Accepts define (oneOf words) (.text t) ↔ t ∈ words := by
  rw [Accepts, violation?.eq_def]
  show (if words.contains t then none
    else some (Violation.here (.notAllowed (.text t) words))) = none ↔ _
  simp

/-! ## Lists -/

/-- No item is at fault when the schema accepts each of them. -/
theorem itemViolation?_eq_none {items : Schema Name} {ds : List Datum} (i : Nat) :
    itemViolation? define items i ds = none ↔ ∀ d ∈ ds, Accepts define items d := by
  induction ds generalizing i with
  | nil => simp [itemViolation?]
  | cons d ds ih =>
      rw [itemViolation?, List.forall_mem_cons, ← ih (i + 1)]
      cases h : violation? define items d <;> simp [Accepts, h]

theorem accepts_list {items : Schema Name} {nonEmpty : Bool} {ds : List Datum} :
    Accepts define (list items nonEmpty) (.list ds) ↔
      (∀ d ∈ ds, Accepts define items d) ∧ (nonEmpty = true → ds ≠ []) := by
  rw [Accepts, violation?.eq_def, ← itemViolation?_eq_none 0]
  simp only [unfolded]
  cases itemViolation? define items 0 ds with
  | some v => simp
  | none => cases nonEmpty <;> simp

/-! ## Objects -/

/-- The fields of an object have all required names and, in a closed one, no others than known
names. -/
structure Complete (required : List String) (closed : Bool)
    (properties : List (String × Schema Name)) (fields : List (String × Datum)) : Prop where
  /-- The required names are there. -/
  required : ∀ k ∈ required, k ∈ fields.map Prod.fst
  /-- The names are known, if they have to be. -/
  known : closed = true → ∀ k ∈ fields.map Prod.fst, k ∈ properties.map Prod.fst

/-- A complete object is not at fault itself. -/
theorem objectBreach?_eq_none {required : List String} {closed : Bool}
    {properties : List (String × Schema Name)} {fields : List (String × Datum)}
    (h : Complete required closed properties fields) :
    objectBreach? required closed properties fields = none := by
  have hfind : (required.find? fun k => (fields.lookup k).isNone) = none := by
    rw [List.find?_eq_none]
    intro k hk
    obtain ⟨f, hf, rfl⟩ := List.mem_map.1 (h.required k hk)
    rw [Option.isNone_iff_eq_none, List.lookup_eq_none_iff]
    intro hnone
    simpa using hnone f hf
  have hunknown : closed = true → unknownNames properties fields = [] := by
    intro hclosed
    -- Names are sorted only when there are any to complain about.
    have hfilter : ((fields.map Prod.fst).filter fun k =>
        (properties.map Prod.fst).all (· != k)) = [] := by
      rw [List.filter_eq_nil_iff]
      intro k hk hall
      rw [List.all_eq_true] at hall
      simpa using hall k (h.known hclosed k hk)
    rw [unknownNames, hfilter, List.mergeSort_nil]
  rw [objectBreach?, hfind]
  cases closed with
  | false => simp
  | true => simp [hunknown rfl]

/-- What an object's schema finds in the value under a name. -/
def fieldViolation? (define : Name → Schema Name) (properties : List (String × Schema Name))
    (f : String × Datum) : Option Violation :=
  match properties.lookup f.1 with
  | none => none
  | some s => (violation? define s f.2).map (Violation.under (.key f.1))

/-- Nothing is found in the value under a name that is unknown or has an acceptable value. -/
theorem fieldViolation?_eq_none {properties : List (String × Schema Name)} {f : String × Datum} :
    fieldViolation? define properties f = none ↔
      ∀ s ∈ properties.lookup f.1, Accepts define s f.2 := by
  unfold fieldViolation?
  cases properties.lookup f.1 with
  | none => simp
  | some s => simp [Accepts]

theorem fieldViolations_eq_map (properties : List (String × Schema Name))
    (fields : List (String × Datum)) :
    fieldViolations define properties fields =
      fields.map fun f => (f.1, fieldViolation? define properties f) := by
  induction fields with
  | nil => rfl
  | cons f fields ih =>
      rw [fieldViolations, ih]
      rfl

/-- A field is found under its name, where no other field has the same name. -/
theorem lookup_map_of_mem {β : Type} {g : String × Datum → β} {fields : List (String × Datum)}
    (hnodup : (fields.map Prod.fst).Nodup) {f : String × Datum} (hf : f ∈ fields) :
    (fields.map fun f => (f.1, g f)).lookup f.1 = some (g f) := by
  induction fields with
  | nil => cases hf
  | cons first fields ih =>
      rw [List.map_cons, List.nodup_cons] at hnodup
      rw [List.map_cons]
      rcases List.mem_cons.1 hf with rfl | hf
      · exact List.lookup_cons_self
      · have hne : (f.1 == first.1) = false := by
          rw [beq_eq_false_iff_ne]
          intro heq
          exact hnodup.1 (heq ▸ List.mem_map_of_mem hf)
        rw [List.lookup_cons, hne]
        exact ih hnodup.2 hf

/-- An object is acceptable when it is complete and so are the values under known names. -/
theorem accepts_object {required : List String} {closed : Bool}
    {properties : List (String × Schema Name)} {fields : List (String × Datum)}
    (hcomplete : Complete required closed properties fields)
    (hnodup : (fields.map Prod.fst).Nodup) :
    Accepts define (object required closed properties) (.object fields) ↔
      ∀ f ∈ fields, ∀ s ∈ properties.lookup f.1, Accepts define s f.2 := by
  rw [Accepts, violation?.eq_def]
  simp only [unfolded, objectBreach?_eq_none hcomplete, fieldViolations_eq_map,
    List.findSome?_eq_none_iff, ← fieldViolation?_eq_none]
  constructor
  · -- A field is found under its own name, since no field in front of it has that name.
    intro h f hf
    rw [fieldViolation?_eq_none]
    intro s hs
    obtain ⟨l₁, l₂, hl, -⟩ := List.lookup_eq_some_iff.1 hs
    have hfound := h (f.1, s) (by rw [hl]; simp)
    rw [lookup_map_of_mem hnodup hf] at hfound
    exact fieldViolation?_eq_none.1 hfound s hs
  · -- What is found under a name is what was found in some field.
    rintro h ⟨name, s⟩ -
    cases hfound : (fields.map fun f => (f.1, fieldViolation? define properties f)).lookup name with
    | none => rfl
    | some found =>
        obtain ⟨l₁, l₂, hl, -⟩ := List.lookup_eq_some_iff.1 hfound
        have hmem : (name, found) ∈
            fields.map fun f => (f.1, fieldViolation? define properties f) := by
          rw [hl]
          simp
        obtain ⟨f, hf, hpair⟩ := List.mem_map.1 hmem
        cases hpair
        exact h f hf

end TypedReference.Schema

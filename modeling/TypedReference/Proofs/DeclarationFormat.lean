/-
# Declarations that meet their schema

Which types, arguments, members and declarations the schema accepts. The words for kinds, the counts
and the texts that are written are always right; what is left to ask is that names are there, that
depths are not negative, and that no reference is empty.
-/
import TypedReference.DeclarationFormat
import TypedReference.Proofs.Schema
import TypedReference.Proofs.Signature

namespace TypedReference

open Schema

/-! ## Parts -/

namespace Part

/-- A part is as its definition. -/
theorem accepts_ref {p : Part} {d : Datum} :
    Accepts Part.schema (.ref p) d ↔ Accepts Part.schema p.schema d := by
  apply Schema.accepts_ref
  cases p <;> rfl

/-- A part is acceptable when the values under known names are, and none is missing. -/
theorem accepts_object {p : Part} {fields : List (String × Datum)}
    (hrequired : ∀ k ∈ p.schema.requiredNames, k ∈ fields.map Prod.fst)
    (hnodup : (fields.map Prod.fst).Nodup) :
    Accepts Part.schema (.ref p) (.object fields) ↔
      ∀ f ∈ fields, ∀ s ∈ p.schema.properties.lookup f.1, Accepts Part.schema s f.2 := by
  rw [accepts_ref]
  cases p <;> exact Schema.accepts_object ⟨hrequired, by simp⟩ hnodup

/-- A list of parts is acceptable when each of them is. -/
@[simp] theorem accepts_listOf {p : Part} {ds : List Datum} :
    Accepts Part.schema p.listOf (.list ds) ↔ ∀ d ∈ ds, Accepts Part.schema (.ref p) d := by
  rw [listOf, accepts_list]
  simp

/-- A list of texts is acceptable when neither it nor any text is empty without leave. -/
@[simp] theorem accepts_texts {nonEmptyText nonEmpty : Bool} {texts : List String} :
    Accepts Part.schema (.list (.text nonEmptyText) nonEmpty) (.ofTexts texts) ↔
      (∀ t ∈ texts, nonEmptyText = true → t ≠ "") ∧ (nonEmpty = true → texts ≠ []) := by
  rw [Datum.ofTexts, accepts_list]
  simp

end Part

/-! ## Types -/

namespace ApiType

/-- A type without an empty path in it. -/
def Grounded (t : ApiType) : Prop := ∀ path ∈ t.references, path ≠ []

theorem toData_eq_map (ts : List ApiType) : toData ts = ts.map toDatum := by
  induction ts with
  | nil => rfl
  | cons t ts ih => rw [toData, ih, List.map_cons]

/-- A list of types is grounded when each of them is. -/
theorem forall_mem_referencesAll {ts : List ApiType} :
    (∀ path ∈ referencesAll ts, path ≠ []) ↔ ∀ t ∈ ts, t.Grounded := by
  simp only [mem_referencesAll, Grounded]
  constructor
  · intro h t ht path hpath
    exact h path ⟨t, ht, hpath⟩
  · rintro h path ⟨t, ht, hpath⟩
    exact h t ht path hpath

/-- **Acceptable types.** The schema accepts a type exactly when it is grounded. -/
theorem accepts_toDatum (t : ApiType) :
    Accepts Part.schema (.ref .type) t.toDatum ↔ t.Grounded := by
  -- Tuples and functions hold lists of types, which are written item by item.
  have hlist : ∀ ts : List ApiType,
      (∀ t ∈ ts, Accepts Part.schema (.ref .type) t.toDatum ↔ t.Grounded) →
      ((∀ d ∈ toData ts, Accepts Part.schema (.ref .type) d) ↔ ∀ t ∈ ts, t.Grounded) := by
    intro ts hts
    rw [toData_eq_map, List.forall_mem_map]
    exact forall₂_congr hts
  induction t using ApiType.induction with
  | primitive name | any | regex | named path =>
      rw [toDatum, Part.accepts_object (by simp [Part.schema, requiredNames]) (by simp)]
      simp [Part.schema, properties, List.lookup_cons, Grounded, references]
  | nullable inner ih | array inner ih =>
      rw [toDatum, Part.accepts_object (by simp [Part.schema, requiredNames]) (by simp)]
      simp [Part.schema, properties, List.lookup_cons, ih, Grounded, references]
  | tuple items ih =>
      rw [toDatum, Part.accepts_object (by simp [Part.schema, requiredNames]) (by simp),
        Grounded, references, forall_mem_referencesAll, ← hlist items ih]
      simp [Part.schema, properties, List.lookup_cons]
  | map key value hkey hvalue =>
      rw [toDatum, Part.accepts_object (by simp [Part.schema, requiredNames]) (by simp)]
      simp [Part.schema, properties, List.lookup_cons, hkey, hvalue, Grounded, references, or_imp,
        forall_and]
  | function args ret hargs hret =>
      have hsplit : (function args ret).Grounded ↔ (∀ t ∈ args, t.Grounded) ∧ ret.Grounded := by
        rw [Grounded, references, List.forall_mem_append, forall_mem_referencesAll, Grounded]
      rw [toDatum, Part.accepts_object (by simp [Part.schema, requiredNames]) (by simp), hsplit,
        ← hlist args hargs]
      simp [Part.schema, properties, List.lookup_cons, hret]

end ApiType

/-! ## Members -/

/-- **Acceptable arguments.** The schema accepts an argument exactly when it fits. -/
theorem Argument.accepts_toDatum (arg : Argument) :
    Accepts Part.schema (.ref .argument) arg.toDatum ↔ arg.Fits ApiType.Grounded := by
  rw [toDatum, Part.accepts_object (by simp [Part.schema, requiredNames]) (by simp)]
  simp only [Part.schema, properties, List.lookup_cons]
  simp [ApiType.accepts_toDatum]
  constructor
  · rintro ⟨hname, hdepth, htype⟩
    exact ⟨hname, hdepth, htype⟩
  · rintro ⟨hname, hdepth, htype⟩
    exact ⟨hname, hdepth, htype⟩

/-- **Acceptable signatures.** The schema accepts a signature exactly when all of it fits. -/
theorem MemberKind.accepts_toDatum (k : MemberKind) :
    Accepts Part.schema (.ref .kind) k.toDatum ↔ k.Fits ApiType.Grounded := by
  cases k with
  | method args ret | constructor args | property type | constant type =>
      rw [toDatum, Part.accepts_object (by simp [Part.schema, requiredNames]) (by simp)]
      simp [Part.schema, properties, List.lookup_cons, ApiType.accepts_toDatum,
        Argument.accepts_toDatum, Fits]

/-- **Acceptable members.** The schema accepts a member exactly when it has a name and all its
signatures fit. -/
theorem Member.accepts_toDatum (m : Member) :
    Accepts Part.schema (.ref .member) m.toDatum ↔
      m.name ≠ "" ∧ ∀ k ∈ m.kinds, k.Fits ApiType.Grounded := by
  rw [toDatum, Part.accepts_object (by simp [Part.schema, requiredNames]) (by simp)]
  simp [Part.schema, properties, List.lookup_cons, MemberKind.accepts_toDatum, kinds]

/-! ## Declarations -/

/-- **Acceptable declarations.** The schema accepts a declaration exactly when no segment of its
path is empty, every member has a name, and all signatures fit. -/
theorem declarationViolation?_toDatum (d : Declaration) :
    declarationViolation? d.toDatum = none ↔
      (∀ segment ∈ d.package, segment ≠ "") ∧ d.name ≠ "" ∧
      ∀ m ∈ d.members, m.name ≠ "" ∧ ∀ k ∈ m.kinds, k.Fits ApiType.Grounded := by
  show Accepts Part.schema declarationSchema d.toDatum ↔ _
  rw [Declaration.toDatum, declarationSchema, accepts_object ⟨by simp, by simp⟩ (by simp)]
  simp [List.lookup_cons, Member.accepts_toDatum]

end TypedReference

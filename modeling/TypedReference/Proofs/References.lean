/-
# References to classes

The class paths that a type, a member or a declaration refers to, wherever in it they stand.
-/
import TypedReference.Declaration

namespace TypedReference

/-! ## Types -/

namespace ApiType

mutual

/-- The class paths that a type refers to, at any depth. -/
def references : ApiType → List (List String)
  | primitive _ => []
  | any => []
  | regex => []
  | nullable inner => inner.references
  | array inner => inner.references
  | tuple items => referencesAll items
  | named path => [path]
  | map key value => key.references ++ value.references
  | function args ret => referencesAll args ++ ret.references

/-- The class paths that several types refer to. -/
def referencesAll : List ApiType → List (List String)
  | [] => []
  | t :: ts => t.references ++ referencesAll ts

end

theorem mem_referencesAll {path : List String} {ts : List ApiType} :
    path ∈ referencesAll ts ↔ ∃ t ∈ ts, path ∈ t.references := by
  induction ts with
  | nil => simp [referencesAll]
  | cons t ts ih => simp [referencesAll, ih]

/-- What holds of every type if it passes from the parts of a type to the type. -/
theorem induction {motive : ApiType → Prop} (primitive : ∀ name, motive (primitive name))
    (any : motive any) (regex : motive regex)
    (nullable : ∀ inner, motive inner → motive (nullable inner))
    (array : ∀ inner, motive inner → motive (array inner))
    (tuple : ∀ items, (∀ t ∈ items, motive t) → motive (tuple items))
    (named : ∀ path, motive (named path))
    (map : ∀ key value, motive key → motive value → motive (map key value))
    (function : ∀ args ret, (∀ t ∈ args, motive t) → motive ret → motive (function args ret))
    (t : ApiType) : motive t := by
  refine @ApiType.rec motive (fun ts => ∀ t ∈ ts, motive t) primitive any regex nullable array
    tuple named map function ?_ ?_ t
  · simp
  · intro head tail hhead htail
    rw [List.forall_mem_cons]
    exact ⟨hhead, htail⟩

/-- A property that passes from types to the arrays, tuples and choices made of them. -/
structure Hereditary (P : ApiType → Prop) : Prop where
  /-- It holds where nothing is said. -/
  any : P .any
  /-- It passes to lists of values. -/
  array : ∀ t, P t → P (.array t)
  /-- It passes to values that may be missing. -/
  nullable : ∀ t, P t → P (.nullable t)
  /-- It passes to values side by side. -/
  tuple : ∀ ts, (∀ t ∈ ts, P t) → P (.tuple ts)

/-- A hereditary property passes to several layers of arrays. -/
theorem Hereditary.arrays {P : ApiType → Prop} (h : Hereditary P) (n : Nat) {t : ApiType}
    (ht : P t) : P (t.arrays n) := by
  induction n with
  | zero => exact ht
  | succ n ih => exact h.array _ ih

/-- What holds of every reference of the parts holds of every reference of the whole. -/
theorem hereditary_references (q : List String → Prop) :
    Hereditary fun t => ∀ path ∈ t.references, q path where
  any := by simp [references]
  array := fun t ht => by simpa [references] using ht
  nullable := fun t ht => by simpa [references] using ht
  tuple := fun ts hts path hpath => by
    rw [references, mem_referencesAll] at hpath
    obtain ⟨t, ht, hpath⟩ := hpath
    exact hts t ht path hpath

end ApiType

/-! ## Members and declarations -/

/-- The types of the arguments, the result or the value of a member. -/
def MemberKind.types : MemberKind → List ApiType
  | method args ret => args.map Argument.type ++ [ret]
  | constructor args => args.map Argument.type
  | property type => [type]
  | constant type => [type]

/-- The class paths that a member refers to in one of its signatures. -/
def MemberKind.references (k : MemberKind) : List (List String) :=
  k.types.flatMap ApiType.references

/-- All signatures of a member, the overloads last. -/
def Member.kinds (m : Member) : List MemberKind := m.kind :: m.overloads

/-- The class paths that a declaration refers to, in any member and any overload. -/
def Declaration.references (d : Declaration) : List (List String) :=
  d.members.flatMap fun m => m.kinds.flatMap MemberKind.references

theorem Declaration.mem_references {d : Declaration} {path : List String} :
    path ∈ d.references ↔
      ∃ m ∈ d.members, ∃ k ∈ m.kinds, ∃ t ∈ k.types, path ∈ t.references := by
  simp [references, MemberKind.references]

end TypedReference

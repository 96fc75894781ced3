/-
# Declarations that are rejected

A declaration is not written when several of its members have one name, or when it is checked and
breaks the schema. The names are looked at first, and those that are shared are reported in
ascending order, each once.
-/
import Mathlib.Data.List.Sort
import Mathlib.Data.String.Basic
import TypedReference.Emission
import TypedReference.Proofs.Lists

namespace TypedReference

namespace Declaration

variable {o : OutputOptions} {d : Declaration}

/-! ## Shared names -/

/-- The shared names are those of several members. -/
theorem mem_sharedNames {n : String} : n ∈ d.sharedNames ↔ 1 < d.memberNames.count n := by
  rw [sharedNames, List.mem_eraseDups, List.mem_filter, decide_eq_true_iff]
  refine ⟨And.right, fun h => ⟨?_, h⟩⟩
  exact List.count_pos_iff.1 (by omega)

/-- No name is shared when each member has a name of its own. -/
theorem sharedNames_eq_nil : d.sharedNames = [] ↔ d.memberNames.Nodup := by
  rw [List.eq_nil_iff_forall_not_mem, List.nodup_iff_count_le_one]
  refine forall_congr' fun n => ?_
  rw [mem_sharedNames, not_lt]

/-- Only a declaration with two members of one name is held back for it. -/
theorem sharing?_eq_none : d.sharing? = none ↔ d.memberNames.Nodup := by
  rw [← sharedNames_eq_nil, sharing?]
  cases d.sharedNames with
  | nil => simp
  | cons n ns => simp

/-- The names in a report, in order. -/
def reportedNames (d : Declaration) : List String :=
  d.sharedNames.mergeSort fun a b => !(decide (b < a))

theorem mem_reportedNames {n : String} :
    n ∈ d.reportedNames ↔ 1 < d.memberNames.count n := by
  rw [reportedNames, (List.mergeSort_perm _ _).mem_iff, mem_sharedNames]

/-- The names in a report ascend. -/
theorem pairwise_reportedNames (d : Declaration) : d.reportedNames.Pairwise (· < ·) := by
  have hle : ∀ a b : String, (!decide (b < a)) = true ↔ a ≤ b := by
    intro a b
    rw [Bool.not_eq_true', decide_eq_false_iff_not, not_lt]
  have hsorted : d.reportedNames.Pairwise fun a b => !(decide (b < a)) := by
    apply List.pairwise_mergeSort
    · intro a b c hab hbc
      rw [hle] at hab hbc ⊢
      exact hab.trans hbc
    · intro a b
      rw [Bool.or_eq_true, hle, hle]
      exact le_total a b
  have hnodup : d.reportedNames.Nodup :=
    (List.mergeSort_perm _ _).nodup_iff.2 (Lists.nodup_eraseDups _)
  refine (hsorted.and hnodup).imp fun {a b} hab => ?_
  exact lt_of_le_of_ne ((hle a b).1 hab.1) hab.2

theorem reportedNames_eq_nil : d.reportedNames = [] ↔ d.memberNames.Nodup := by
  rw [← sharedNames_eq_nil, reportedNames, ← List.length_eq_zero_iff, List.length_mergeSort,
    List.length_eq_zero_iff]

/-- A declaration with shared names is held back with a report of them. -/
theorem sharing?_eq_some {f : Failure} : d.sharing? = some f ↔
    ¬ d.memberNames.Nodup ∧ f = .sharedNames d.dottedPath d.reportedNames := by
  rw [← sharedNames_eq_nil, sharing?, reportedNames]
  cases d.sharedNames with
  | nil => simp
  | cons n ns =>
      rw [List.isEmpty_cons, if_neg (by decide), Option.some.injEq,
        and_iff_right (List.cons_ne_nil n ns)]
      exact eq_comm

/-! ## Rejections -/

/-- Why a declaration is rejected. -/
inductive Rejected (o : OutputOptions) (d : Declaration) : Failure → Prop where
  /-- Several members have one name; the names are reported in ascending order. -/
  | shared (names : List String) (ascending : names.Pairwise (· < ·)) (some_shared : names ≠ [])
      (mem : ∀ n, n ∈ names ↔ 1 < d.memberNames.count n) :
      Rejected o d (.sharedNames d.dottedPath names)
  /-- The declaration is checked, and breaks the schema. -/
  | schema (v : Violation) (checked : o.validate = true) (nodup : d.memberNames.Nodup)
      (breaks : declarationViolation? d.toDatum = some v) : Rejected o d (.schema v)

/-- **Rejections.** A declaration is rejected for shared names first, and then for the schema. -/
theorem rejection?_eq_some_iff {f : Failure} : d.rejection? o = some f ↔ d.Rejected o f := by
  constructor
  · intro h
    rw [rejection?] at h
    split at h
    · next g hsharing =>
      obtain ⟨hnodup, rfl⟩ := sharing?_eq_some.1 hsharing
      cases h
      rw [← reportedNames_eq_nil] at hnodup
      exact .shared _ d.pairwise_reportedNames hnodup fun n => mem_reportedNames
    · next hsharing =>
      split at h
      · next hchecked =>
        obtain ⟨v, hv, rfl⟩ := Option.map_eq_some_iff.1 h
        exact .schema v hchecked (sharing?_eq_none.1 hsharing) hv
      · cases h
  · intro h
    cases h with
    | shared names hascending hnames hmem =>
        -- The names are told by their order and by which they are.
        have heq : names = d.reportedNames :=
          hascending.eq_of_mem_iff d.pairwise_reportedNames fun n => by
            rw [hmem, mem_reportedNames]
        rw [heq] at hnames ⊢
        rw [Ne, reportedNames_eq_nil] at hnames
        rw [rejection?, sharing?_eq_some.2 ⟨hnames, rfl⟩]
    | schema v hchecked hnodup hbreaks =>
        rw [rejection?, sharing?_eq_none.2 hnodup, hbreaks]
        simp [hchecked]

/-- A declaration that is not rejected can be written. -/
theorem rejection?_eq_none_iff : d.rejection? o = none ↔ ∀ f, ¬ d.Rejected o f := by
  rw [Option.eq_none_iff_forall_not_mem]
  exact forall_congr' fun f => not_congr rejection?_eq_some_iff

end Declaration

end TypedReference

/-
# First occurrences, selections, listings and rearranged lists

What a list keeps of its first occurrences when it grows by one element or is put in another order,
which of its elements a selection comes from, how listings are put together, and what a search finds
in a list whose elements have changed their places.
-/
import Mathlib.Data.List.FinRange
import Mathlib.Data.List.Forall2
import Mathlib.Data.List.Induction
import Mathlib.Data.List.Nodup
import Mathlib.Logic.Equiv.Defs
import Mathlib.Order.Fin.Basic

namespace TypedReference.Lists

variable {α : Type}

/-! ## First occurrences -/

section

variable [DecidableEq α]

/-- A further element is a first occurrence unless it is there already. -/
theorem eraseDups_concat (l : List α) (a : α) :
    (l ++ [a]).eraseDups = if a ∈ l then l.eraseDups else l.eraseDups ++ [a] := by
  rw [List.eraseDups_append]
  by_cases hmem : a ∈ l
  · simp [List.removeAll, hmem]
  · simp [List.removeAll, List.eraseDups_cons, hmem]

theorem nodup_eraseDups (l : List α) : l.eraseDups.Nodup := by
  induction l using List.reverseRecOn with
  | nil => exact List.nodup_nil
  | append_singleton l a ih =>
      rw [eraseDups_concat]
      split
      · exact ih
      · next hnew =>
        rw [← List.concat_eq_append]
        exact ih.concat (mt List.mem_eraseDups.1 hnew)

/-- The order of a list only decides the order of its first occurrences. -/
theorem perm_eraseDups {l l' : List α} (h : l.Perm l') :
    l.eraseDups.Perm l'.eraseDups := by
  rw [List.perm_ext_iff_of_nodup (nodup_eraseDups l) (nodup_eraseDups l')]
  intro a
  rw [List.mem_eraseDups, List.mem_eraseDups, h.mem_iff]

end

/-! ## Selections -/

/-- What is selected stands beside the elements that it comes from. -/
theorem forall₂_filterMap {β : Type} (f : α → Option β) (l : List α) :
    List.Forall₂ (fun a b => f a = some b) (l.filter fun a => (f a).isSome) (l.filterMap f) := by
  induction l with
  | nil => exact List.Forall₂.nil
  | cons a l ih =>
      cases hf : f a with
      | none => simpa [hf] using ih
      | some b => simpa [hf] using ih

/-! ## Listings -/

/-- The list holds what has a property and nothing else, one after the other in a given order. -/
structure IsListing (R : α → α → Prop) (P : α → Prop) (l : List α) : Prop where
  /-- The elements are in order. -/
  pairwise : l.Pairwise R
  /-- The elements are those with the property. -/
  mem_iff : ∀ a, a ∈ l ↔ P a

namespace IsListing

variable {R : α → α → Prop} {P Q : α → Prop} {l : List α}

theorem congr (h : IsListing R P l) (hiff : ∀ a, P a ↔ Q a) : IsListing R Q l where
  pairwise := h.pairwise
  mem_iff a := (h.mem_iff a).trans (hiff a)

/-- A further element in front of all others. -/
theorem cons (h : IsListing R P l) {b : α} (hb : ∀ a, P a → R b a) :
    IsListing R (fun a => a = b ∨ P a) (b :: l) where
  pairwise := List.pairwise_cons.2 ⟨fun a ha => hb a ((h.mem_iff a).1 ha), h.pairwise⟩
  mem_iff a := by rw [List.mem_cons, h.mem_iff]

/-- What keeps the order makes a listing out of a listing. -/
theorem map {β : Type} {S : β → β → Prop} {g : α → β} (h : IsListing R P l)
    (hg : ∀ a a', R a a' → S (g a) (g a')) :
    IsListing S (fun b => ∃ a, P a ∧ g a = b) (l.map g) where
  pairwise := by
    rw [List.pairwise_map]
    exact h.pairwise.imp (hg _ _)
  mem_iff b := by simp only [List.mem_map, h.mem_iff]

end IsListing

/-- The places of a list are in order. -/
theorem pairwise_zipIdx (l : List α) (n : Nat) :
    (l.zipIdx n).Pairwise fun x y => x.2 < y.2 := by
  induction l generalizing n with
  | nil => exact List.Pairwise.nil
  | cons a l ih =>
      rw [List.zipIdx_cons, List.pairwise_cons]
      exact ⟨fun x hx => List.le_snd_of_mem_zipIdx hx, ih (n + 1)⟩

/-- Listings of what belongs to each element of a list make up a listing of what belongs to all of
them, in the order of their places and then in the order of each. -/
theorem exists_listing_flatMap {β γ : Type} {R : β → β → Prop} {P : α → β → Prop} {g : β → γ}
    {f : α → List γ} (h : ∀ a, ∃ found, IsListing R (P a) found ∧ found.map g = f a) (l : List α) :
    ∃ found : List (Nat × β),
      IsListing (Prod.Lex (· < ·) R) (fun x => ∃ a, l[x.1]? = some a ∧ P a x.2) found ∧
      found.map (fun x => g x.2) = l.flatMap f := by
  choose found hfound hmap using h
  refine ⟨l.zipIdx.flatMap fun x => (found x.1).map (Prod.mk x.2), ⟨?_, ?_⟩, ?_⟩
  · rw [List.pairwise_flatMap]
    constructor
    · intro x _
      rw [List.pairwise_map]
      exact (hfound x.1).pairwise.imp fun hR => Prod.Lex.right x.2 hR
    · apply (pairwise_zipIdx l 0).imp
      intro x y hxy b hb b' hb'
      obtain ⟨_, -, rfl⟩ := List.mem_map.1 hb
      obtain ⟨_, -, rfl⟩ := List.mem_map.1 hb'
      exact Prod.Lex.left _ _ hxy
  · rintro ⟨i, b⟩
    simp only [List.mem_flatMap, List.mem_map, Prod.mk.injEq]
    constructor
    · rintro ⟨⟨a, j⟩, hplace, b, hb, rfl, rfl⟩
      exact ⟨a, List.mem_zipIdx_iff_getElem?.1 hplace, ((hfound a).mem_iff b).1 hb⟩
    · rintro ⟨a, ha, hb⟩
      exact ⟨(a, i), List.mem_zipIdx_iff_getElem?.2 ha, b, ((hfound a).mem_iff b).2 hb, rfl, rfl⟩
  · rw [List.map_flatMap]
    conv_rhs => rw [← List.zipIdx_map_fst 0 l, List.flatMap_map]
    apply List.flatMap_congr
    intro x _
    rw [List.map_map, ← hmap x.1]
    rfl

/-! ## Other places -/

/-- Values that change their places make up the same list in another order. -/
theorem perm_ofFn {n m : Nat} (position : Fin n ≃ Fin m) {f : Fin n → α} {g : Fin m → α}
    (h : ∀ i, g (position i) = f i) : (List.ofFn f).Perm (List.ofFn g) := by
  have hf : f = g ∘ position := (funext h).symm
  have hplaces : ((List.finRange n).map position).Perm (List.finRange m) := by
    rw [List.perm_ext_iff_of_nodup ((List.nodup_finRange n).map position.injective)
      (List.nodup_finRange m)]
    intro k
    simpa using position.surjective k
  rw [List.ofFn_eq_map, List.ofFn_eq_map, hf, ← List.map_map]
  exact hplaces.map g

/-- A search finds the same element in a rearranged list if the elements that it may find keep
their order. -/
theorem find?_eq_of_position {l l' : List α} (position : Fin l.length ≃ Fin l'.length)
    (hget : ∀ i, l'[position i] = l[i]) {p : α → Bool}
    (hmono : ∀ i j, i < j → p l[i] = true → p l[j] = true → position i < position j) :
    l'.find? p = l.find? p := by
  -- Each place in the second list is the new place of some element of the first.
  have hback : ∀ k : Fin l'.length, ∃ i, position i = k ∧ l'[k] = l[i] := by
    intro k
    obtain ⟨i, rfl⟩ := position.surjective k
    exact ⟨i, rfl, hget i⟩
  cases hfind : l.find? p with
  | none =>
      rw [List.find?_eq_none] at hfind ⊢
      intro a ha
      obtain ⟨k, hk, rfl⟩ := List.getElem_of_mem ha
      obtain ⟨i, -, hi⟩ := hback ⟨k, hk⟩
      rw [show l'[k] = l[i] from hi]
      exact hfind _ (List.getElem_mem _)
  | some a =>
      rw [List.find?_eq_some_iff_getElem] at hfind ⊢
      obtain ⟨hp, i, hi, rfl, hbefore⟩ := hfind
      refine ⟨hp, position ⟨i, hi⟩, (position ⟨i, hi⟩).isLt, hget ⟨i, hi⟩, ?_⟩
      -- Whatever stands in front of the new place and can be found stood in front before.
      intro k hk
      obtain ⟨j, hj, hjk⟩ := hback ⟨k, Nat.lt_trans hk (position ⟨i, hi⟩).isLt⟩
      have hlt : position j < position ⟨i, hi⟩ := by
        rw [hj]
        exact hk
      rw [show l'[k] = l[j] from hjk]
      rcases lt_trichotomy j ⟨i, hi⟩ with hji | rfl | hij
      · exact hbefore j hji
      · exact absurd hlt (lt_irrefl _)
      · rw [Bool.not_eq_true', Bool.eq_false_iff]
        intro hpj
        exact absurd (hmono ⟨i, hi⟩ j hij hp hpj) (lt_asymm hlt)

end TypedReference.Lists

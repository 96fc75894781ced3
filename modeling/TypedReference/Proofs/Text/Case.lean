/-
# Letter case

A full stop survives lower case, and a change of case leaves no text empty.
-/
import TypedReference.Text.Case

namespace TypedReference.Text

/-! ## Lower case -/

/-- A character whose lower case form is itself is kept. -/
theorem mem_lowerFrom {c : Char} (hlower : lowerChar c = [c]) (hsigma : c ≠ 'Σ') {l : List Char}
    (h : c ∈ l) (cased : Bool) : c ∈ lowerFrom cased l := by
  induction l generalizing cased with
  | nil => simp at h
  | cons d r ih =>
      rw [lowerFrom]
      by_cases hd : d = 'Σ'
      · have hr : c ∈ r := by
          rcases List.mem_cons.1 h with rfl | hr
          · exact absurd hd hsigma
          · exact hr
        rw [if_pos (by simpa using hd)]
        exact List.mem_cons_of_mem _ (ih hr true)
      · rw [if_neg (by simpa using hd), List.mem_append]
        rcases List.mem_cons.1 h with rfl | hr
        · exact Or.inl (by rw [hlower]; simp)
        · exact Or.inr (ih hr _)

/-- A full stop stays a full stop in lower case. -/
theorem dot_mem_lower {l : List Char} (h : '.' ∈ l) : '.' ∈ lower l :=
  mem_lowerFrom (by decide) (by decide) h false

/-! ## Upper case -/

/-- The upper case form of a character has at least one character. -/
theorem upperChar_ne_nil (c : Char) : upperChar c ≠ [] := by
  unfold upperChar
  split
  · simp
  · split
    · next ns hns =>
      have hexpansions : ∀ p ∈ upperExpansions, p.2 ≠ [] := by decide
      obtain ⟨l₁, l₂, hl, -⟩ := List.lookup_eq_some_iff.1 hns
      have hne : ns ≠ [] := hexpansions (c.toNat, ns) (by rw [hl]; simp)
      simpa using hne
    · split <;> simp

/-- A capitalized text is as empty as the text. -/
theorem capitalized_ne_nil {l : List Char} (h : l ≠ []) : capitalized l ≠ [] := by
  cases l with
  | nil => exact absurd rfl h
  | cons c r =>
      rw [capitalized]
      exact List.append_ne_nil_of_left_ne_nil (upperChar_ne_nil c) r

end TypedReference.Text

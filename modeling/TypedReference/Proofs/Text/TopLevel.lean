/-
# Parts outside brackets

A text is uncut at a depth when no cut falls into it and the depth behind it is the one in front of
it. Uncut texts can be put side by side and into brackets; joined by a separator they are exactly
the parts that `topLevelParts` finds.
-/
import TypedReference.Proofs.Text.Blank
import TypedReference.Proofs.Text.Split

namespace TypedReference.Text

variable {isSep : Char → Bool} {depth : Nat}

/-! ## Cut texts -/

theorem cutTopLevel_ne_nil (isSep : Char → Bool) (depth : Nat) (l : List Char) :
    cutTopLevel isSep depth l ≠ [] := by
  cases l with
  | nil => simp [cutTopLevel]
  | cons c r =>
      rw [cutTopLevel]
      split
      · simp
      · cases cutTopLevel isSep (depthAfter depth c) r <;> simp [consFirst]

/-- What is cut at a separator can be joined with it again, wherever it has been cut. -/
theorem joinWith_cutTopLevel {sep : Char} (hsep : ∀ c, isSep c = true → c = sep)
    (l : List Char) (depth : Nat) : joinWith [sep] (cutTopLevel isSep depth l) = l := by
  induction l generalizing depth with
  | nil => rfl
  | cons c r ih =>
      rw [cutTopLevel]
      have hne := cutTopLevel_ne_nil isSep (depthAfter depth c) r
      split
      · next hcut =>
        rw [Bool.and_eq_true] at hcut
        have hjoin : joinWith [sep] ([] :: cutTopLevel isSep (depthAfter depth c) r) =
            sep :: joinWith [sep] (cutTopLevel isSep (depthAfter depth c) r) := by
          rw [joinWith, List.intercalate_cons_of_ne_nil hne]
          rfl
        rw [hjoin, ih, hsep c hcut.1]
      · rw [joinWith_consFirst hne, ih]

/-! ## Uncut texts -/

/-- No cut falls into the text when it stands at the depth, and the depth is the same behind it. -/
def Uncut (isSep : Char → Bool) (depth : Nat) (l : List Char) : Prop :=
  ∀ rest, cutTopLevel isSep depth (l ++ rest) = l.foldr consFirst (cutTopLevel isSep depth rest)

namespace Uncut

theorem nil : Uncut isSep depth [] := fun _ => rfl

theorem append {a b : List Char} (ha : Uncut isSep depth a) (hb : Uncut isSep depth b) :
    Uncut isSep depth (a ++ b) := by
  intro rest
  rw [List.append_assoc, ha, hb, List.foldr_append]

/-- A character that is no bracket is uncut unless it separates at depth zero. -/
theorem char {c : Char} (hopen : opensLevel c = false) (hclose : closesLevel c = false)
    (hsep : isSep c = false ∨ depth ≠ 0) : Uncut isSep depth [c] := by
  intro rest
  have hdepth : depthAfter depth c = depth := by simp [depthAfter, hopen, hclose]
  have hcut : (isSep c && depth == 0) = false := by
    rcases hsep with h | h <;> simp [h]
  rw [List.singleton_append, cutTopLevel, hdepth, hcut]
  rfl

/-- Characters that neither separate nor open or close a bracket are uncut at any depth. -/
theorem of_plain {l : List Char}
    (h : ∀ c ∈ l, opensLevel c = false ∧ closesLevel c = false ∧ isSep c = false) :
    Uncut isSep depth l := by
  induction l with
  | nil => exact nil
  | cons c r ih =>
      obtain ⟨hopen, hclose, hsep⟩ := h c (by simp)
      exact (char hopen hclose (Or.inl hsep)).append (ih fun d hd => h d (by simp [hd]))

/-- In brackets a text needs to be uncut one level further in. -/
theorem enclose {opening closing : Char} {l : List Char} (ho : opensLevel opening = true)
    (hc : closesLevel closing = true) (hc' : opensLevel closing = false)
    (hsep : isSep opening = false ∧ isSep closing = false)
    (hl : Uncut isSep (depth + 1) l) : Uncut isSep depth (opening :: l ++ [closing]) := by
  intro rest
  have hin : depthAfter depth opening = depth + 1 := by simp [depthAfter, ho]
  have hout : depthAfter (depth + 1) closing = depth := by simp [depthAfter, hc, hc']
  rw [List.append_assoc, List.cons_append, cutTopLevel, hin, hsep.1, hl, List.singleton_append,
    cutTopLevel, hout, hsep.2, List.cons_append, List.foldr_cons, List.foldr_append]
  rfl

end Uncut

/-! ## Joined parts -/

/-- Uncut parts that stand behind separators are cut apart again, with the gap in front of each. -/
theorem cutTopLevel_joined {sep : Char} {gap : List Char} (hsep : isSep sep = true)
    (hopen : opensLevel sep = false) (hclose : closesLevel sep = false)
    (hgap : Uncut isSep 0 gap) (part : List Char) (parts : List (List Char))
    (hpart : Uncut isSep 0 part) (hparts : ∀ p ∈ parts, Uncut isSep 0 p) :
    cutTopLevel isSep 0 (part ++ parts.flatMap fun p => sep :: gap ++ p) =
      part :: parts.map fun p => gap ++ p := by
  -- The gap behind a separator goes with the part after it, so the first part has to be arbitrary.
  induction parts generalizing part with
  | nil =>
      rw [List.flatMap_nil, hpart, cutTopLevel, foldr_consFirst, List.append_nil, List.map_nil]
  | cons p ps ih =>
      have hdepth : depthAfter 0 sep = 0 := by simp [depthAfter, hopen, hclose]
      have hrest := ih (gap ++ p) (hgap.append (hparts p (by simp)))
        (fun q hq => hparts q (by simp [hq]))
      rw [hpart, List.flatMap_cons, List.cons_append, List.cons_append, cutTopLevel, hdepth, hsep,
        hrest]
      simp only [Bool.true_and, beq_self_eq_true, if_true, foldr_consFirst, List.append_nil,
        List.map_cons]

/-- A text in front of which blanks stand is trimmed to the same. -/
theorem trim_blanks_append {gap l : List Char} (hgap : ∀ c ∈ gap, isBlank c = true) :
    trim (gap ++ l) = trim l := by
  rw [trim, trimStart, List.dropWhile_append_of_pos hgap]
  rfl

/-- **Joining is undone.** Trimmed uncut texts that are not empty, joined by a separator with
blanks behind it, are the parts of the joined text. -/
theorem topLevelParts_joinWith {sep : Char} {gap : List Char} (hopen : opensLevel sep = false)
    (hclose : closesLevel sep = false) (hgap : ∀ c ∈ gap, isBlank c = true)
    (huncut : Uncut (fun c => [sep] == [c]) 0 gap) (parts : List (List Char))
    (hne : ∀ p ∈ parts, p ≠ []) (htrim : ∀ p ∈ parts, trim p = p)
    (hparts : ∀ p ∈ parts, Uncut (fun c => [sep] == [c]) 0 p) :
    topLevelParts [sep] (joinWith (sep :: gap) parts) = parts := by
  cases parts with
  | nil => rfl
  | cons part parts =>
      have hcut : cutTopLevel (fun c => [sep] == [c]) 0
          (part ++ parts.flatMap fun p => sep :: gap ++ p) = part :: parts.map fun p => gap ++ p :=
        cutTopLevel_joined (by simp) hopen hclose huncut part parts (hparts part (by simp))
          (fun p hp => hparts p (by simp [hp]))
      -- Each later part is cut off with the gap in front of it, which trimming takes away.
      have hmap : (parts.map fun p => gap ++ p).map trim = parts := by
        rw [List.map_map]
        conv_rhs => rw [← List.map_id parts]
        apply List.map_congr_left
        intro p hp
        rw [Function.comp_apply, trim_blanks_append hgap, htrim p (by simp [hp]), id]
      rw [topLevelParts, joinWith_cons, hcut, List.map_cons, htrim part (by simp), hmap,
        List.filter_eq_self]
      intro p hp
      simpa using hne p hp

/-- A trimmed uncut text that is not empty is its only part. -/
theorem topLevelParts_uncut {sep : Char} {l : List Char} (hopen : opensLevel sep = false)
    (hclose : closesLevel sep = false) (hne : l ≠ []) (htrim : trim l = l)
    (huncut : Uncut (fun c => [sep] == [c]) 0 l) : topLevelParts [sep] l = [l] := by
  have h : topLevelParts [sep] (joinWith [sep] [l]) = [l] :=
    topLevelParts_joinWith hopen hclose (by simp) Uncut.nil [l]
      (by simpa using hne) (by simpa using htrim) (by simpa using huncut)
  rwa [joinWith_cons, List.flatMap_nil, List.append_nil] at h

end TypedReference.Text

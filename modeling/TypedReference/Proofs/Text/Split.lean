/-
# Splitting and joining

Splitting at a character makes one part more than the character occurs, and the last part is what
stands behind the last occurrence. A joined list is cut apart again where no part holds a separator.
-/
import Mathlib.Data.List.DropRight
import TypedReference.Text.Split

namespace TypedReference.Text

variable {α : Type}

/-! ## In front of the first part -/

/-- Putting several characters in front of the first part. -/
theorem foldr_consFirst (l part : List α) (parts : List (List α)) :
    l.foldr consFirst (part :: parts) = (l ++ part) :: parts := by
  induction l with
  | nil => rfl
  | cons a l ih => rw [List.foldr_cons, ih, consFirst, List.cons_append]

/-- An element in front of the first part makes no further part. -/
theorem length_consFirst (a : α) {parts : List (List α)} (h : parts ≠ []) :
    (consFirst a parts).length = parts.length := by
  cases parts with
  | nil => exact absurd rfl h
  | cons part parts => rfl

/-- An element in front of the first part is not noticed behind it. -/
theorem consFirst_append (a : α) {parts : List (List α)} (h : parts ≠ [])
    (more : List (List α)) : consFirst a (parts ++ more) = consFirst a parts ++ more := by
  cases parts with
  | nil => exact absurd rfl h
  | cons part parts => rfl

/-! ## Cutting -/

/-- Each occurrence of the character makes one more part. -/
theorem length_splitOn (sep : Char) (l : List Char) : (l.splitOn sep).length = l.count sep + 1 := by
  rw [List.splitOn_eq_splitOnP]
  induction l with
  | nil => rfl
  | cons c l ih =>
      rw [List.splitOnP_cons_eq_if_modifyHead, List.count_cons]
      split
      · rw [List.length_cons, ih]
      · rw [List.length_modifyHead, ih]

/-- A text with the character has more than one part. -/
theorem splitOn_ne_singleton_of_mem {sep : Char} {l : List Char} (h : sep ∈ l) (part : List Char) :
    l.splitOn sep ≠ [part] := by
  intro hone
  have hlength := length_splitOn sep l
  have hcount := List.count_pos_iff.2 h
  rw [hone, List.length_singleton] at hlength
  omega

/-! ## The last part -/

/-- Behind the last occurrence of a character stands the end of the text without it. -/
theorem rtakeWhile_behind {sep : Char} {after : List Char} (h : sep ∉ after) (before : List Char) :
    (before ++ sep :: after).rtakeWhile (· != sep) = after := by
  have hall : ∀ c ∈ after.reverse, (c != sep) = true := by
    intro c hc
    rw [bne_iff_ne]
    rintro rfl
    exact h (List.mem_reverse.1 hc)
  rw [List.rtakeWhile, List.reverse_append, List.reverse_cons, List.append_assoc,
    List.takeWhile_append_of_pos hall, List.singleton_append, List.takeWhile_cons_of_neg (by simp),
    List.append_nil, List.reverse_reverse]

/-- A text without the character is its own end. -/
theorem rtakeWhile_of_not_mem {sep : Char} {l : List Char} (h : sep ∉ l) :
    l.rtakeWhile (· != sep) = l := by
  rw [List.rtakeWhile_eq_self_iff]
  intro c hc
  rw [bne_iff_ne]
  rintro rfl
  exact h hc

/-- A text with the character in it is cut at the last occurrence. -/
theorem exists_last_of_mem {sep : Char} {l : List Char} (h : sep ∈ l) :
    ∃ before after, l = before ++ sep :: after ∧ sep ∉ after := by
  obtain ⟨after, before, hrev, hafter⟩ := List.eq_append_cons_of_mem (List.mem_reverse.2 h)
  refine ⟨before.reverse, after.reverse, ?_, mt List.mem_reverse.1 hafter⟩
  rw [← List.reverse_reverse l, hrev]
  simp

/-- The last part of a text is its end without the character. -/
theorem getLast?_splitOn (sep : Char) (l : List Char) :
    (l.splitOn sep).getLast? = some (l.rtakeWhile (· != sep)) := by
  by_cases hsep : sep ∈ l
  · obtain ⟨before, after, rfl, hafter⟩ := exists_last_of_mem hsep
    rw [List.splitOn_append_cons_self, List.splitOn_eq_singleton hafter, List.getLast?_concat,
      rtakeWhile_behind hafter]
  · rw [List.splitOn_eq_singleton hsep, List.getLast?_singleton, rtakeWhile_of_not_mem hsep]

/-! ## Joining -/

/-- A joined list is its first part, and each later part behind a separator. -/
theorem joinWith_cons (sep part : List Char) (parts : List (List Char)) :
    joinWith sep (part :: parts) = part ++ parts.flatMap fun p => sep ++ p := by
  induction parts generalizing part with
  | nil => simp [joinWith]
  | cons p ps ih =>
      have hcons : joinWith sep (part :: p :: ps) = part ++ (sep ++ joinWith sep (p :: ps)) := by
        rw [joinWith, List.intercalate_cons_cons, joinWith, List.append_assoc]
      rw [hcons, ih, List.flatMap_cons, List.append_assoc]

/-- A character in front of the first part stands in front of the joined list. -/
theorem joinWith_consFirst {sep : List Char} {parts : List (List Char)} (h : parts ≠ [])
    (c : Char) : joinWith sep (consFirst c parts) = c :: joinWith sep parts := by
  cases parts with
  | nil => exact absurd rfl h
  | cons part parts => rw [consFirst, joinWith_cons, joinWith_cons, List.cons_append]

/-- The last of the joined parts stands behind the last separator, if it holds none. -/
theorem rtakeWhile_joinWith {sep : Char} {last : List Char} (h : sep ∉ last)
    (parts : List (List Char)) :
    (joinWith [sep] (parts ++ [last])).rtakeWhile (· != sep) = last := by
  cases parts with
  | nil =>
      rw [List.nil_append, joinWith_cons, List.flatMap_nil, List.append_nil,
        rtakeWhile_of_not_mem h]
  | cons part parts =>
      rw [List.cons_append, joinWith_cons, List.flatMap_append, List.flatMap_singleton,
        List.singleton_append, ← List.append_assoc, rtakeWhile_behind h]

/-- Each part is a piece of the joined list. -/
theorem infix_joinWith {sep p : List Char} {parts : List (List Char)} (h : p ∈ parts) :
    p <:+: joinWith sep parts := by
  cases parts with
  | nil => cases h
  | cons part parts =>
      rw [joinWith_cons]
      rcases List.mem_cons.1 h with rfl | h
      · exact (List.prefix_append _ _).isInfix
      · -- A later part has a separator in front of it.
        obtain ⟨as, bs, rfl⟩ := List.append_of_mem h
        rw [List.flatMap_append, List.flatMap_cons]
        refine ⟨part ++ (as.flatMap fun q => sep ++ q) ++ sep, bs.flatMap fun q => sep ++ q, ?_⟩
        simp only [List.append_assoc]

/-- Fewer parts are joined to a front piece of what all are joined to. -/
theorem joinWith_start {sep : List Char} {parts parts' : List (List Char)}
    (h : parts <+: parts') : joinWith sep parts <+: joinWith sep parts' := by
  obtain ⟨more, rfl⟩ := h
  cases parts with
  | nil => exact List.nil_prefix
  | cons part parts =>
      rw [List.cons_append, joinWith_cons, joinWith_cons, List.flatMap_append, ← List.append_assoc]
      exact List.prefix_append _ _

/-- What passes to texts in a row passes to a joined list, if it holds of each part as it stands
and behind a separator. -/
theorem joinWith_induction {P : List Char → Prop} {sep : List Char} {parts : List (List Char)}
    (nil : P []) (append : ∀ a b, P a → P b → P (a ++ b)) (alone : ∀ p ∈ parts, P p)
    (behind : ∀ p ∈ parts, P (sep ++ p)) : P (joinWith sep parts) := by
  cases parts with
  | nil => exact nil
  | cons part parts =>
      rw [joinWith_cons]
      apply append _ _ (alone part (by simp))
      have hrest : ∀ p ∈ parts, P (sep ++ p) := fun p hp => behind p (by simp [hp])
      clear alone behind
      induction parts with
      | nil => exact nil
      | cons p ps ih =>
          rw [List.flatMap_cons]
          exact append _ _ (hrest p (by simp)) (ih fun q hq => hrest q (by simp [hq]))

/-- Up to the first separator a text goes into the first part. -/
theorem splitOnP_append {isSep : α → Bool} {part : List α} (h : ∀ a ∈ part, isSep a = false)
    (rest : List α) :
    (part ++ rest).splitOnP isSep = (rest.splitOnP isSep).modifyHead (part ++ ·) := by
  induction part with
  | nil => exact (congrFun List.modifyHead_id _).symm
  | cons a part ih =>
      rw [List.forall_mem_cons] at h
      rw [List.cons_append, List.splitOnP_cons_eq_if_modifyHead, if_neg (by simp [h.1]), ih h.2,
        List.modifyHead_modifyHead]
      rfl

/-- Parts without separators that are joined by one are cut apart again. -/
theorem splitOnP_joinWith {isSep : Char → Bool} {sep : Char} (hsep : isSep sep = true)
    {parts : List (List Char)} (hne : parts ≠ [])
    (h : ∀ part ∈ parts, ∀ c ∈ part, isSep c = false) :
    (joinWith [sep] parts).splitOnP isSep = parts := by
  induction parts with
  | nil => exact absurd rfl hne
  | cons part parts ih =>
      rw [List.forall_mem_cons] at h
      have hpart : part.splitOnP isSep = [part] := List.splitOnP_eq_singleton h.1
      cases parts with
      | nil => rw [joinWith_cons, List.flatMap_nil, List.append_nil, hpart]
      | cons next parts =>
          have hjoin : joinWith [sep] (part :: next :: parts) =
              part ++ sep :: joinWith [sep] (next :: parts) := by
            rw [joinWith_cons, joinWith_cons, List.flatMap_cons]
            rfl
          rw [hjoin, List.splitOnP_append_cons _ _ hsep, hpart, ih (by simp) h.2,
            List.singleton_append]

end TypedReference.Text

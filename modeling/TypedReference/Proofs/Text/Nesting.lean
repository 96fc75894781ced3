/-
# Cutting and joining

A text closes all it opens when a scan of it comes back to depth zero, stray closing brackets passed
over. Behind such a text a separator is outside brackets, so a longer text can be cut there before
its parts are looked at. A text whose separators all stand in brackets is in one piece, and so is
every part that is cut off.
-/
import TypedReference.Proofs.Text.Gap

namespace TypedReference.Text

/-! ## The depth behind a text -/

/-- The depth behind a text that stands at the given depth. -/
def depthBehind (depth : Nat) (l : List Char) : Nat := l.foldl depthAfter depth

/-- Blanks leave the depth as it is. -/
theorem depthBehind_blanks {l : List Char} (h : ∀ c ∈ l, isBlank c = true) (depth : Nat) :
    depthBehind depth l = depth := by
  induction l with
  | nil => rfl
  | cons c l ih =>
      rw [List.forall_mem_cons] at h
      rw [depthBehind, List.foldl_cons, depthAfter_blank h.1, ← depthBehind, ih h.2]

/-! ## Texts in one piece -/

/-- When the text stands at the given depth, every separator in it is in brackets. -/
def Sheltered (sep : Char) (depth : Nat) (l : List Char) : Prop :=
  ∀ before after, l = before ++ sep :: after → 0 < depthBehind depth before

section

variable {sep : Char} {depth : Nat}

theorem sheltered_nil : Sheltered sep depth [] := by
  intro before after h
  exact absurd h (by simp)

/-- A character counts for itself, and then for the depth of what follows. -/
theorem sheltered_cons_iff {c : Char} {r : List Char} : Sheltered sep depth (c :: r) ↔
    (c = sep → 0 < depth) ∧ Sheltered sep (depthAfter depth c) r := by
  constructor
  · intro h
    constructor
    · rintro rfl
      exact h [] r rfl
    · rintro before after rfl
      exact h (c :: before) after rfl
  · rintro ⟨hfirst, hrest⟩ before after heq
    cases before with
    | nil =>
        cases heq
        exact hfirst rfl
    | cons d before =>
        cases heq
        exact hrest before after rfl

/-- What follows a text stands at the depth behind it. -/
theorem sheltered_append_iff {a b : List Char} : Sheltered sep depth (a ++ b) ↔
    Sheltered sep depth a ∧ Sheltered sep (depthBehind depth a) b := by
  induction a generalizing depth with
  | nil => exact (and_iff_right sheltered_nil).symm
  | cons c a ih =>
      rw [List.cons_append, sheltered_cons_iff, sheltered_cons_iff, ih, and_assoc]
      rfl

instance decidableSheltered (sep : Char) :
    (depth : Nat) → (l : List Char) → Decidable (Sheltered sep depth l)
  | _, [] => isTrue sheltered_nil
  | depth, c :: r =>
    have := decidableSheltered sep (depthAfter depth c) r
    decidable_of_iff _ sheltered_cons_iff.symm

/-- Trimming changes neither the depths nor the separators in brackets. -/
theorem sheltered_trim {l : List Char} (h : Sheltered sep depth l) :
    Sheltered sep depth (trim l) := by
  obtain ⟨a, b, hl, ha, -⟩ := exists_around_trim l
  rw [hl, sheltered_append_iff, sheltered_append_iff, depthBehind_blanks ha] at h
  exact h.1.2

variable (hopen : opensLevel sep = false) (hclose : closesLevel sep = false)
include hopen hclose

/-- A separator that is no bracket leaves the depth as it is. -/
theorem depthAfter_sep (depth : Nat) : depthAfter depth sep = depth := by
  rw [depthAfter, hopen, hclose]
  rfl

/-- A sheltered text goes uncut to the first part of what follows it. -/
theorem cutTopLevel_sheltered {l : List Char} (h : Sheltered sep depth l) (rest : List Char) :
    cutTopLevel (fun c => [sep] == [c]) depth (l ++ rest) =
      l.foldr consFirst (cutTopLevel (fun c => [sep] == [c]) (depthBehind depth l) rest) := by
  induction l generalizing depth with
  | nil => rfl
  | cons c l ih =>
      rw [sheltered_cons_iff] at h
      have hcut : ([sep] == [c] && depthAfter depth c == 0) = false := by
        by_cases hc : c = sep
        · have hdepth := h.1 hc
          rw [hc, depthAfter_sep hopen hclose]
          simp only [beq_self_eq_true, Bool.true_and, beq_eq_false_iff_ne]
          omega
        · simp [Ne.symm hc]
      rw [List.cons_append, cutTopLevel, hcut, ih h.2]
      rfl

/-- A sheltered text behind which the depth is the same is uncut. -/
theorem Uncut.of_sheltered {l : List Char} (h : Sheltered sep depth l)
    (hclosed : depthBehind depth l = depth) : Uncut (fun c => [sep] == [c]) depth l := by
  intro rest
  rw [cutTopLevel_sheltered hopen hclose h, hclosed]

/-- A trimmed sheltered text that is not empty is its only part, also if it leaves brackets open. -/
theorem topLevelParts_sheltered {l : List Char} (hne : l ≠ []) (htrim : trim l = l)
    (h : Sheltered sep 0 l) : topLevelParts [sep] l = [l] := by
  have hcut := cutTopLevel_sheltered hopen hclose h []
  rw [List.append_nil, cutTopLevel, foldr_consFirst, List.append_nil] at hcut
  rw [topLevelParts, hcut, List.map_singleton, htrim, List.filter_singleton,
    List.isEmpty_eq_false_iff.2 hne]
  rfl

/-- Every piece that is cut off is sheltered: the first one at the depth of the text, and each later
one at depth zero, at which it starts. -/
theorem sheltered_of_mem_cutTopLevel (depth : Nat) (l : List Char) :
    ∃ first later, cutTopLevel (fun c => [sep] == [c]) depth l = first :: later ∧
      Sheltered sep depth first ∧ ∀ p ∈ later, Sheltered sep 0 p := by
  induction l generalizing depth with
  | nil => exact ⟨[], [], rfl, sheltered_nil, List.forall_mem_nil _⟩
  | cons c r ih =>
      obtain ⟨first, later, hcut, hfirst, hlater⟩ := ih (depthAfter depth c)
      rw [cutTopLevel, hcut]
      by_cases hc : ([sep] == [c] && depthAfter depth c == 0) = true
      · -- Here the text is cut, so what has been the first piece starts at depth zero.
        rw [if_pos hc]
        rw [Bool.and_eq_true, beq_iff_eq, beq_iff_eq] at hc
        rw [hc.2] at hfirst
        exact ⟨[], first :: later, rfl, sheltered_nil, List.forall_mem_cons.2 ⟨hfirst, hlater⟩⟩
      · rw [if_neg hc]
        refine ⟨c :: first, later, rfl, sheltered_cons_iff.2 ⟨?_, hfirst⟩, hlater⟩
        rintro rfl
        rw [depthAfter_sep hopen hclose] at hc
        simp only [beq_self_eq_true, Bool.true_and, beq_iff_eq] at hc
        omega

/-- Every part of a text is sheltered, trimmed and not empty. -/
theorem sheltered_of_mem_topLevelParts {l p : List Char} (h : p ∈ topLevelParts [sep] l) :
    p ≠ [] ∧ trim p = p ∧ Sheltered sep 0 p := by
  obtain ⟨first, later, hcut, hfirst, hlater⟩ := sheltered_of_mem_cutTopLevel hopen hclose 0 l
  rw [topLevelParts, List.mem_filter, List.mem_map] at h
  obtain ⟨⟨piece, hpiece, rfl⟩, hne⟩ := h
  have hsheltered : ∀ q ∈ first :: later, Sheltered sep 0 q :=
    List.forall_mem_cons.2 ⟨hfirst, hlater⟩
  rw [← hcut] at hsheltered
  exact ⟨by simpa using hne, trim_trim piece, sheltered_trim (hsheltered piece hpiece)⟩

/-! ## Cutting behind a closed text -/

/-- Behind a text that comes back to depth zero a separator cuts. -/
theorem cutTopLevel_append_sep {a : List Char} (h : depthBehind depth a = 0) (b : List Char) :
    cutTopLevel (fun c => [sep] == [c]) depth (a ++ sep :: b) =
      cutTopLevel (fun c => [sep] == [c]) depth a ++ cutTopLevel (fun c => [sep] == [c]) 0 b := by
  induction a generalizing depth with
  | nil =>
      have hzero : depth = 0 := h
      rw [hzero, List.nil_append]
      simp [cutTopLevel, depthAfter_sep hopen hclose]
  | cons c a ih =>
      rw [List.cons_append, cutTopLevel, cutTopLevel, ih h]
      split
      · rfl
      · exact consFirst_append c (cutTopLevel_ne_nil _ _ a) _

/-- **Cutting undoes joining.** A text that closes all it opens and what stands behind a separator
are cut apart from each other. Trimmed texts of this kind that are not empty and have no separator
outside brackets are the parts of what they are joined to. Every part of any text is trimmed, not
empty, and its own only part. -/
theorem topLevelParts_cut_joined :
    (∀ a b, depthBehind 0 a = 0 →
      topLevelParts [sep] (a ++ sep :: b) = topLevelParts [sep] a ++ topLevelParts [sep] b) ∧
    (∀ parts : List (List Char), (∀ p ∈ parts,
        p ≠ [] ∧ trim p = p ∧ depthBehind 0 p = 0 ∧ Sheltered sep 0 p) →
      topLevelParts [sep] (joinWith [sep] parts) = parts) ∧
    ∀ l, ∀ p ∈ topLevelParts [sep] l, p ≠ [] ∧ trim p = p ∧ topLevelParts [sep] p = [p] := by
  refine ⟨?_, ?_, ?_⟩
  · intro a b ha
    rw [topLevelParts, cutTopLevel_append_sep hopen hclose ha, List.map_append, List.filter_append]
    rfl
  · intro parts hparts
    apply topLevelParts_joinWith hopen hclose (List.forall_mem_nil _) Uncut.nil
    · exact fun p hp => (hparts p hp).1
    · exact fun p hp => (hparts p hp).2.1
    · intro p hp
      obtain ⟨-, -, hclosed, hsheltered⟩ := hparts p hp
      exact Uncut.of_sheltered hopen hclose hsheltered hclosed
  · intro l p hp
    obtain ⟨hne, htrim, hsheltered⟩ := sheltered_of_mem_topLevelParts hopen hclose hp
    exact ⟨hne, htrim, topLevelParts_sheltered hopen hclose hne htrim hsheltered⟩

end

/-- A closing bracket that nothing opened, brackets of different kinds that close one another, and
brackets that are left open. -/
theorem topLevelParts_cut_joined_comma :
    opensLevel ',' = false ∧ closesLevel ',' = false ∧
      depthBehind 0 ")(x, [y>> ".toList = 0 ∧
      topLevelParts [','] (")(x, [y>> ".toList ++ ',' :: "b,, (c,d".toList) =
        [")(x, [y>>".toList, "b".toList, "(c,d".toList] ∧
      (∀ p ∈ ["f(a,b>".toList, "[x, y])".toList],
        p ≠ [] ∧ trim p = p ∧ depthBehind 0 p = 0 ∧ Sheltered ',' 0 p) ∧
      topLevelParts [','] "f(a,b>,[x, y])".toList = ["f(a,b>".toList, "[x, y])".toList] ∧
      "(c,d".toList ∈ topLevelParts [','] "b,, (c,d".toList ∧
      topLevelParts [','] "(c,d".toList = ["(c,d".toList] := by
  have hdepth : depthBehind 0 ")(x, [y>> ".toList = 0 := by decide
  have hclosed : ∀ p ∈ ["f(a,b>".toList, "[x, y])".toList],
      p ≠ [] ∧ trim p = p ∧ depthBehind 0 p = 0 ∧ Sheltered ',' 0 p := by decide
  have hpart : "(c,d".toList ∈ topLevelParts [','] "b,, (c,d".toList := by decide
  have hopen : opensLevel ',' = false := by decide
  have hclose : closesLevel ',' = false := by decide
  obtain ⟨hcut, hjoined, hparts⟩ := topLevelParts_cut_joined hopen hclose
  refine ⟨hopen, hclose, hdepth, ?_, hclosed, hjoined _ hclosed, hpart, (hparts _ _ hpart).2.2⟩
  rw [hcut _ _ hdepth]
  decide

end TypedReference.Text

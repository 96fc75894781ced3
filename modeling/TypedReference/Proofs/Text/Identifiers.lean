/-
# Identifiers in a text

The dotted names that stand in a text as they are, with neither a word character nor a dot beside
them. Any other character divides a text in this respect, so a tidied text has the same identifiers,
and the identifiers of a text are those of the parts that it is cut into.
-/
import TypedReference.Proofs.Text.Name
import TypedReference.Proofs.Text.TopLevel

namespace TypedReference.Text

/-- The dotted names among the longest pieces of a text that hold word characters and dots only. -/
def identifiers (l : List Char) : List (List Char) :=
  (l.splitOnP fun c => !isWordOrDot c).filter isDottedName

/-! ## Gaps -/

/-- A character that stands in no dotted name divides a text. -/
theorem identifiers_gap {c : Char} (hc : isWordOrDot c = false) (a b : List Char) :
    identifiers (a ++ c :: b) = identifiers a ++ identifiers b := by
  rw [identifiers, List.splitOnP_append_cons _ _ (by simp [hc]), List.filter_append, identifiers,
    identifiers]

theorem identifiers_cons {c : Char} (hc : isWordOrDot c = false) (l : List Char) :
    identifiers (c :: l) = identifiers l :=
  identifiers_gap hc [] l

/-- What stands in front of the first name does not count. -/
theorem identifiers_append_left {a : List Char} (ha : ∀ c ∈ a, isWordOrDot c = false)
    (l : List Char) : identifiers (a ++ l) = identifiers l := by
  induction a with
  | nil => rfl
  | cons c a ih =>
      rw [List.forall_mem_cons] at ha
      rw [List.cons_append, identifiers_cons ha.1, ih ha.2]

/-- What stands behind the last name does not count. -/
theorem identifiers_append_right {b : List Char} (hb : ∀ c ∈ b, isWordOrDot c = false)
    (l : List Char) : identifiers (l ++ b) = identifiers l := by
  cases b with
  | nil => rw [List.append_nil]
  | cons c b =>
      rw [List.forall_mem_cons] at hb
      have hnone : identifiers b = [] := by
        rw [← List.append_nil b, identifiers_append_left hb.2]
        rfl
      rw [identifiers_gap hb.1, hnone, List.append_nil]

/-- A dotted name is the one identifier in it. -/
theorem identifiers_dottedName {x : List Char} (hx : isDottedName x = true) :
    identifiers x = [x] := by
  have hone : x.splitOnP (fun c => !isWordOrDot c) = [x] := by
    apply List.splitOnP_eq_singleton
    intro c hc
    rw [isWordOrDot_of_isDottedName hx c hc, Bool.not_true]
  rw [identifiers, hone, List.filter_cons_of_pos hx, List.filter_nil]

/-! ## Tidied texts -/

theorem identifiers_trim (l : List Char) : identifiers (trim l) = identifiers l := by
  obtain ⟨a, b, hl, ha, hb⟩ := exists_around_trim l
  conv_rhs => rw [hl]
  rw [identifiers_append_right fun c hc => isWordOrDot_eq_false_of_isBlank (hb c hc),
    identifiers_append_left fun c hc => isWordOrDot_eq_false_of_isBlank (ha c hc)]

/-- Collapsing the blanks of a text keeps the identifiers, whatever stands in front of it. If a run
of blanks has just been read, it counts as one. -/
theorem identifiers_collapse (l before : List Char) :
    identifiers (before ++ collapse false l) = identifiers (before ++ l) ∧
      identifiers (before ++ collapse true l) = identifiers (before ++ ' ' :: l) := by
  have hspace : isWordOrDot ' ' = false := by decide
  induction l generalizing before with
  | nil =>
      refine ⟨rfl, ?_⟩
      rw [collapse, List.append_nil, identifiers_gap hspace]
      exact (List.append_nil _).symm
  | cons c r ih =>
      rw [collapse, collapse]
      by_cases hc : isBlank c = true
      · have hgap := isWordOrDot_eq_false_of_isBlank hc
        rw [if_pos hc, if_pos hc, (ih before).2, identifiers_gap hspace, identifiers_gap hgap,
          identifiers_gap hspace, identifiers_cons hgap]
        exact ⟨rfl, rfl⟩
      · -- The character is kept, and it joins what stands in front of the rest.
        have hkept := (ih (before ++ [c])).1
        have hgap := (ih (before ++ [' ', c])).1
        rw [List.append_assoc, List.append_assoc] at hkept hgap
        rw [if_neg hc, if_neg hc]
        exact ⟨hkept, hgap⟩

theorem identifiers_condense (l : List Char) : identifiers (condense l) = identifiers l := by
  have hstart : identifiers (trimStart l) = identifiers l := by
    conv_rhs => rw [← List.takeWhile_append_dropWhile (p := isBlank) (l := l)]
    rw [identifiers_append_left, trimStart]
    intro c hc
    exact isWordOrDot_eq_false_of_isBlank (List.mem_takeWhile_imp hc)
  rw [← hstart]
  exact (identifiers_collapse (trimStart l) []).1

/-! ## Parts -/

/-- The identifiers of joined parts are those of the parts. -/
theorem identifiers_joinWith {sep : Char} (hsep : isWordOrDot sep = false)
    (parts : List (List Char)) :
    identifiers (joinWith [sep] parts) = parts.flatMap identifiers := by
  cases parts with
  | nil => rfl
  | cons part parts =>
      rw [joinWith_cons, List.flatMap_cons]
      induction parts generalizing part with
      | nil => rw [List.flatMap_nil, List.flatMap_nil, List.append_nil, List.append_nil]
      | cons p parts ih =>
          rw [List.flatMap_cons, List.flatMap_cons, List.singleton_append, List.cons_append,
            identifiers_gap hsep, ih]

/-- A part of a text has no other identifiers than the text. -/
theorem mem_identifiers_of_mem_topLevelParts {sep : Char} (hsep : isWordOrDot sep = false)
    {l part x : List Char} (hpart : part ∈ topLevelParts [sep] l) (hx : x ∈ identifiers part) :
    x ∈ identifiers l := by
  rw [topLevelParts, List.mem_filter, List.mem_map] at hpart
  obtain ⟨⟨piece, hpiece, rfl⟩, -⟩ := hpart
  rw [identifiers_trim] at hx
  have hjoin : joinWith [sep] (cutTopLevel (fun c => [sep] == [c]) 0 l) = l := by
    apply joinWith_cutTopLevel
    intro c hc
    exact (List.singleton_inj.1 (eq_of_beq hc)).symm
  rw [← hjoin, identifiers_joinWith hsep]
  exact List.mem_flatMap.2 ⟨piece, hpiece, hx⟩

end TypedReference.Text

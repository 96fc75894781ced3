/-
# Gaps

Blanks between two characters of a text are a gap, which condensing writes as one space. Around a
text gaps are not written at all, and for the parts into which a text is cut it makes no difference
whether gaps are written so before the cutting or after it.
-/
import TypedReference.Proofs.Text.TopLevel

namespace TypedReference.Text

/-! ## Writing gaps -/

/-- What is written for a run of blanks between two texts. -/
def gapOf (l : List Char) : List Char := if l.isEmpty then [] else [' ']

theorem isBlank_gapOf (l : List Char) : ∀ c ∈ gapOf l, isBlank c = true := by
  unfold gapOf
  split
  · exact List.forall_mem_nil _
  · exact List.forall_mem_singleton.2 (by decide)

/-- A run of blanks in front of a text is written as its gap. -/
theorem collapse_gap {a : List Char} (ha : ∀ c ∈ a, isBlank c = true) {c : Char}
    (hc : isBlank c = false) (l : List Char) :
    collapse false (a ++ c :: l) = gapOf a ++ collapse false (c :: l) := by
  have hread : ∀ b : List Char, (∀ d ∈ b, isBlank d = true) →
      collapse true (b ++ c :: l) = ' ' :: collapse false (c :: l) := by
    intro b hb
    induction b with
    | nil => simp [collapse, hc]
    | cons d b ih =>
        rw [List.forall_mem_cons] at hb
        rw [List.cons_append, collapse, if_pos hb.1, ih hb.2]
  cases a with
  | nil => rfl
  | cons d a =>
      rw [List.forall_mem_cons] at ha
      rw [List.cons_append, collapse, if_pos ha.1, hread a ha.2]
      rfl

/-- Nothing is written for blanks alone. -/
theorem collapse_blanks {b : List Char} (hb : ∀ c ∈ b, isBlank c = true) (gap : Bool) :
    collapse gap b = [] := by
  induction b generalizing gap with
  | nil => rfl
  | cons c b ih =>
      rw [List.forall_mem_cons] at hb
      rw [collapse, if_pos hb.1, ih hb.2]

/-- Blanks at the end of a text are not written. -/
theorem collapse_append_blanks {b : List Char} (hb : ∀ c ∈ b, isBlank c = true) (l : List Char)
    (gap : Bool) : collapse gap (l ++ b) = collapse gap l := by
  induction l generalizing gap with
  | nil => rw [List.nil_append, collapse_blanks hb, collapse]
  | cons c l ih => rw [List.cons_append, collapse, collapse, ih true, ih false]

/-- Blanks around a text are all the same to condensing. -/
theorem condense_around {a b : List Char} (ha : ∀ c ∈ a, isBlank c = true)
    (hb : ∀ c ∈ b, isBlank c = true) (l : List Char) : condense (a ++ l ++ b) = condense l := by
  unfold condense
  rw [List.append_assoc, trimStart, List.dropWhile_append_of_pos ha, List.dropWhile_append]
  split
  · next h =>
    rw [trimStart, List.isEmpty_iff.1 h, List.dropWhile_eq_nil_iff.2 hb]
  · rw [collapse_append_blanks hb, trimStart]

theorem condense_trim (l : List Char) : condense (trim l) = condense l := by
  obtain ⟨a, b, hl, ha, hb⟩ := exists_around_trim l
  conv_rhs => rw [hl, condense_around ha hb]

/-- A text that has been collapsed is condensed as before. -/
theorem condense_collapse (l : List Char) : condense (collapse false l) = condense l := by
  have hfront : ∀ c ∈ l.takeWhile isBlank, isBlank c = true := fun c hc => List.mem_takeWhile_imp hc
  have hsplit : l.takeWhile isBlank ++ trimStart l = l := List.takeWhile_append_dropWhile
  cases hs : trimStart l with
  | nil =>
      have hblank := trimStart_eq_nil_iff.1 hs
      rw [collapse_blanks hblank, condense_eq_nil_iff.2 hblank]
      rfl
  | cons c r =>
      have hc : isBlank c = false := isBlank_head_trimStart l c (by rw [hs]; rfl)
      have hself : condense (condense l) = condense l := condense_condense l
      have hcondense : condense l = collapse false (c :: r) := by rw [condense, hs]
      rw [hs] at hsplit
      conv_lhs => rw [← hsplit, collapse_gap hfront hc, ← hcondense]
      rw [← List.append_nil (_ ++ _), condense_around (isBlank_gapOf _) (by simp), hself]

/-- A text in front of a character that is no blank is collapsed with its gap. -/
theorem collapse_concat {c : Char} (hc : isBlank c = false) (l : List Char) :
    ∃ b, (∀ d ∈ b, isBlank d = true) ∧
      collapse false (l ++ [c]) = collapse false l ++ b ++ [c] := by
  -- The blanks at the end of the text are what the gap is written for.
  have hsplit : l.rdropWhile isBlank ++ l.rtakeWhile isBlank = l :=
    List.rdropWhile_append_rtakeWhile ..
  have hend : ∀ d ∈ l.rtakeWhile isBlank, isBlank d = true :=
    fun d hd => List.mem_rtakeWhile_imp hd
  have htail : collapse false (l.rtakeWhile isBlank ++ [c]) =
      gapOf (l.rtakeWhile isBlank) ++ [c] := by
    rw [collapse_gap hend hc, collapse, if_neg (by simp [hc])]
    rfl
  have hcollapse : collapse false l = collapse false (l.rdropWhile isBlank) := by
    conv_lhs => rw [← hsplit, collapse_append_blanks hend]
  refine ⟨gapOf (l.rtakeWhile isBlank), isBlank_gapOf _, ?_⟩
  rw [hcollapse]
  conv_lhs => rw [← hsplit]
  by_cases hfront : l.rdropWhile isBlank = []
  · rw [hfront, List.nil_append, htail]
    rfl
  · have htrimmed : trimEnd (trimEnd l) = trimEnd l := by
      rw [trimEnd_eq_rdropWhile, trimEnd_eq_rdropWhile, List.rdropWhile_idempotent]
    rw [List.append_assoc, collapse_append _ _ hfront (trimEnd_eq_self_iff.1 htrimmed), htail,
      List.append_assoc]

/-! ## Cutting -/

variable {isSep : Char → Bool} {depth : Nat}

/-- Blanks are no brackets. -/
theorem depthAfter_blank {c : Char} (hc : isBlank c = true) (depth : Nat) :
    depthAfter depth c = depth := by
  have hne : ∀ d, isBlank d = false → (c == d) = false := fun d hd =>
    beq_eq_false_iff_ne.2 (ne_of_isBlank hc hd)
  unfold depthAfter opensLevel closesLevel
  rw [hne '(' (by decide), hne '[' (by decide), hne '<' (by decide), hne ')' (by decide),
    hne ']' (by decide), hne '>' (by decide)]
  rfl

/-- The pieces of a text, each collapsed; `gap` says that blanks have been read in front of the
first. -/
def collapseEach (gap : Bool) : List (List Char) → List (List Char)
  | [] => []
  | piece :: pieces => collapse gap piece :: pieces.map (collapse false)

theorem collapseEach_false (pieces : List (List Char)) :
    collapseEach false pieces = pieces.map (collapse false) := by
  cases pieces <;> rfl

/-- A blank in front of the first piece is one more that has been read. -/
theorem collapseEach_blank {c : Char} (hc : isBlank c = true) (gap : Bool)
    {pieces : List (List Char)} (h : pieces ≠ []) :
    collapseEach gap (consFirst c pieces) = collapseEach true pieces := by
  cases pieces with
  | nil => exact absurd rfl h
  | cons piece pieces => rw [consFirst, collapseEach, collapse, if_pos hc, collapseEach]

/-- Any other character stands in front of the first piece behind the gap. -/
theorem collapseEach_consFirst {c : Char} (hc : isBlank c = false) (gap : Bool)
    {pieces : List (List Char)} (h : pieces ≠ []) :
    collapseEach gap (consFirst c pieces) =
      (if gap then consFirst ' ' else id) (consFirst c (collapseEach false pieces)) := by
  cases pieces with
  | nil => exact absurd rfl h
  | cons piece pieces => cases gap <;> simp [consFirst, collapseEach, collapse, hc]

/-- Collapsing first makes no difference to the pieces, once these are collapsed. -/
theorem collapseEach_cutTopLevel (hsep : ∀ c, isBlank c = true → isSep c = false)
    (l : List Char) (gap : Bool) :
    collapseEach false (cutTopLevel isSep depth (collapse gap l)) =
      collapseEach gap (cutTopLevel isSep depth l) := by
  have hblank : ∀ {c : Char}, isBlank c = true → ∀ (depth : Nat) (r : List Char),
      cutTopLevel isSep depth (c :: r) = consFirst c (cutTopLevel isSep depth r) := by
    intro c hc depth r
    rw [cutTopLevel, depthAfter_blank hc, hsep c hc]
    rfl
  have hspace : isBlank ' ' = true := by decide
  induction l generalizing depth gap with
  | nil => cases gap <;> rfl
  | cons c r ih =>
      by_cases hc : isBlank c = true
      · rw [collapse, if_pos hc, ih, hblank hc, collapseEach_blank hc _ (cutTopLevel_ne_nil _ _ _)]
      · have hc' : isBlank c = false := by simpa using hc
        -- Behind the gap both texts start with this character; the rest is left to the induction.
        have hcut : ∀ gap, collapseEach gap (cutTopLevel isSep depth (c :: collapse false r)) =
            collapseEach gap (cutTopLevel isSep depth (c :: r)) := by
          intro gap
          rw [cutTopLevel, cutTopLevel]
          split
          · show collapse gap [] :: _ = collapse gap [] :: _
            rw [← collapseEach_false, ← collapseEach_false, ih]
          · rw [collapseEach_consFirst hc' _ (cutTopLevel_ne_nil _ _ _),
              collapseEach_consFirst hc' _ (cutTopLevel_ne_nil _ _ _), ih]
        rw [collapse, if_neg hc]
        cases gap with
        | false => exact hcut false
        | true =>
            rw [if_pos rfl, hblank hspace, collapseEach_blank hspace _ (cutTopLevel_ne_nil _ _ _)]
            exact hcut true

/-- Texts that collapse to the same have the same parts, up to runs of blanks. -/
theorem map_condense_topLevelParts {sep : Char} (hsep : isBlank sep = false) {a b : List Char}
    (h : collapse false a = collapse false b) :
    (topLevelParts [sep] a).map condense = (topLevelParts [sep] b).map condense := by
  have hempty : (fun part : List Char => !part.isEmpty) ∘ trim =
      (fun part => !part.isEmpty) ∘ condense := by
    funext part
    rw [Function.comp_apply, Function.comp_apply, Bool.eq_iff_iff]
    simp only [Bool.not_eq_true', List.isEmpty_eq_false_iff, ne_eq, trim_eq_nil_iff,
      condense_eq_nil_iff]
  have htrim : condense ∘ trim = condense := funext condense_trim
  have hcollapse : condense ∘ collapse false = condense := funext condense_collapse
  have hparts : ∀ l : List Char, (topLevelParts [sep] l).map condense =
      ((collapseEach false (cutTopLevel (fun c => [sep] == [c]) 0 l)).map condense).filter
        fun part => !part.isEmpty := by
    intro l
    rw [collapseEach_false, List.map_map, hcollapse, topLevelParts, List.filter_map, List.map_map,
      htrim, hempty, List.filter_map]
  have hblank : ∀ c, isBlank c = true → ([sep] == [c]) = false := by
    intro c hc
    have hne := (ne_of_isBlank hc hsep).symm
    simpa using hne
  rw [hparts, hparts, ← collapseEach_cutTopLevel hblank a, h, collapseEach_cutTopLevel hblank b]

end TypedReference.Text

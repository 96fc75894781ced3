/-
# Tidied texts

What `trim` and `condense` leave of a text. A trimmed text has no blank at either end; a condensed
one is trimmed, and condensing it again changes nothing. Texts that `collapse` passes over as they
are (`Settled`) can be put together from such pieces.
-/
import Mathlib.Data.List.DropRight
import Mathlib.Data.List.TakeWhile
import TypedReference.Text.Blank
import TypedReference.Text.Word

namespace TypedReference.Text

/-! ## Blanks are no word characters -/

/-- The code points of the blanks beyond ASCII. -/
def wideBlanks : List Nat :=
  [0x85, 0xA0, 0x1680, 0x2000, 0x2001, 0x2002, 0x2003, 0x2004, 0x2005, 0x2006, 0x2007, 0x2008,
    0x2009, 0x200A, 0x2028, 0x2029, 0x202F, 0x205F, 0x3000]

/-- Beyond ASCII the blanks are finitely many. -/
theorem mem_wideBlanks {c : Char} (h : isBlank c = true) (hwide : ¬ c.toNat < 0x80) :
    c.toNat ∈ wideBlanks := by
  simp only [isBlank, Bool.or_eq_true, Bool.and_eq_true, decide_eq_true_eq, beq_iff_eq] at h
  simp only [wideBlanks, List.mem_cons, List.not_mem_nil, or_false]
  omega

/-- No blank beyond ASCII is in the table of words. -/
theorem wordRanges_wideBlanks : ∀ n ∈ wideBlanks, inRanges wordRanges n = false := by
  decide +kernel

/-- The ASCII letters and digits lie between the code points of `0` and `z`. -/
theorem toNat_bounds_of_isAlphanum {c : Char} (h : c.isAlphanum = true) :
    0x30 ≤ c.toNat ∧ c.toNat ≤ 0x7A := by
  have hcases : ((decide (0x41 ≤ c.val ∧ c.val ≤ 0x5A) ||
      (decide (0x61 ≤ c.val) && decide (c.val ≤ 0x7A))) ||
      (decide (0x30 ≤ c.val) && decide (c.val ≤ 0x39))) = true := h
  simp only [Bool.or_eq_true, Bool.and_eq_true, decide_eq_true_eq,
    UInt32.le_iff_toNat_le] at hcases
  change ((0x41 ≤ c.toNat ∧ c.toNat ≤ 0x5A) ∨ (0x61 ≤ c.toNat ∧ c.toNat ≤ 0x7A)) ∨
    (0x30 ≤ c.toNat ∧ c.toNat ≤ 0x39) at hcases
  omega

/-- A word character is no blank. -/
theorem isBlank_eq_false_of_isWord {c : Char} (h : isWord c = true) : isBlank c = false := by
  by_contra hblank
  rw [Bool.not_eq_false] at hblank
  by_cases hascii : c.toNat < 0x80
  · -- The ASCII blanks lie in front of the digits.
    simp only [isWord, hascii, if_true, Bool.or_eq_true, beq_iff_eq] at h
    rcases h with h | rfl
    · have := toNat_bounds_of_isAlphanum h
      simp only [isBlank, Bool.or_eq_true, Bool.and_eq_true, decide_eq_true_eq,
        beq_iff_eq] at hblank
      omega
    · exact absurd hblank (by decide)
  · simp only [isWord, hascii, if_false] at h
    rw [wordRanges_wideBlanks _ (mem_wideBlanks hblank hascii)] at h
    exact absurd h (by decide)

/-- A character that is no blank is none of the blanks. -/
theorem ne_of_isBlank {c d : Char} (hc : isBlank c = true) (hd : isBlank d = false) : c ≠ d := by
  rintro rfl
  rw [hc] at hd
  exact absurd hd (by decide)

/-! ## Trimming -/

/-- Trimming the end is dropping blanks from the right. -/
theorem trimEnd_eq_rdropWhile (l : List Char) : trimEnd l = l.rdropWhile isBlank := rfl

/-- A text is trimmed at the start when its first character, if any, is no blank. -/
theorem trimStart_eq_self_iff {l : List Char} :
    trimStart l = l ↔ ∀ c ∈ l.head?, isBlank c = false := by
  rw [trimStart, List.dropWhile_eq_self_iff]
  cases l <;> simp

/-- A text is trimmed at the end when its last character, if any, is no blank. -/
theorem trimEnd_eq_self_iff {l : List Char} :
    trimEnd l = l ↔ ∀ c ∈ l.getLast?, isBlank c = false := by
  rw [trimEnd_eq_rdropWhile, List.rdropWhile_eq_self_iff]
  constructor
  · intro h c hc
    have hne : l ≠ [] := by
      rintro rfl
      simp at hc
    rw [List.getLast?_eq_some_getLast hne, Option.mem_def, Option.some.injEq] at hc
    rw [← hc]
    simpa using h hne
  · intro h hne
    rw [h _ (List.getLast?_eq_some_getLast hne)]
    decide

/-- The trimmed texts are those with no blank at either end. -/
theorem trim_eq_self_iff {l : List Char} :
    trim l = l ↔ (∀ c ∈ l.head?, isBlank c = false) ∧ ∀ c ∈ l.getLast?, isBlank c = false := by
  rw [← trimStart_eq_self_iff, ← trimEnd_eq_self_iff]
  constructor
  · intro h
    have hsub : (trim l).length ≤ (trimStart l).length :=
      (List.rdropWhile_prefix _ _).length_le
    have hstart : trimStart l = l := by
      apply (List.dropWhile_suffix _).eq_of_length_le
      rwa [h] at hsub
    rw [trim, hstart] at h
    exact ⟨hstart, h⟩
  · rintro ⟨hstart, hend⟩
    rw [trim, hstart, hend]

/-- The first character that `trimStart` leaves is no blank. -/
theorem isBlank_head_trimStart (l : List Char) :
    ∀ c ∈ (trimStart l).head?, isBlank c = false := by
  intro c hc
  have hhead := List.head?_dropWhile_not isBlank l
  rw [← trimStart, Option.mem_def.1 hc] at hhead
  simpa using hhead

theorem trimStart_eq_nil_iff {l : List Char} : trimStart l = [] ↔ ∀ c ∈ l, isBlank c = true := by
  rw [trimStart, List.dropWhile_eq_nil_iff]

theorem trimEnd_eq_nil_iff {l : List Char} : trimEnd l = [] ↔ ∀ c ∈ l, isBlank c = true := by
  rw [trimEnd_eq_rdropWhile, List.rdropWhile_eq_nil_iff]

/-- Exactly the texts of blanks only are trimmed to nothing. -/
theorem trim_eq_nil_iff {l : List Char} : trim l = [] ↔ ∀ c ∈ l, isBlank c = true := by
  rw [trim, trimEnd_eq_nil_iff]
  constructor
  · intro h
    rw [← trimStart_eq_nil_iff]
    cases hs : trimStart l with
    | nil => rfl
    | cons c r =>
        have hblank : isBlank c = true := h c (by rw [hs]; simp)
        have hhead : isBlank c = false := isBlank_head_trimStart l c (by rw [hs]; simp)
        rw [hhead] at hblank
        exact absurd hblank (by decide)
  · intro h c hc
    exact h c ((List.dropWhile_sublist _).mem hc)

/-- Blanks around a text are all that trimming takes away. -/
theorem trim_around {a b : List Char} (ha : ∀ c ∈ a, isBlank c = true)
    (hb : ∀ c ∈ b, isBlank c = true) (l : List Char) : trim (a ++ l ++ b) = trim l := by
  by_cases hl : ∀ c ∈ l, isBlank c = true
  · -- Nothing is left of blanks alone.
    rw [trim_eq_nil_iff.2 hl, trim_eq_nil_iff]
    intro c hc
    simp only [List.mem_append] at hc
    rcases hc with (hc | hc) | hc
    · exact ha c hc
    · exact hl c hc
    · exact hb c hc
  · have hstart : trimStart (a ++ l ++ b) = trimStart l ++ b := by
      rw [List.append_assoc, trimStart, List.dropWhile_append_of_pos ha, List.dropWhile_append,
        if_neg, trimStart]
      rwa [List.isEmpty_iff, List.dropWhile_eq_nil_iff]
    rw [trim, hstart, trim, trimEnd, List.reverse_append, List.dropWhile_append_of_pos, trimEnd]
    intro c hc
    exact hb c (List.mem_reverse.1 hc)

/-- A text is what trimming leaves of it, between blanks. -/
theorem exists_around_trim (l : List Char) :
    ∃ a b, l = a ++ trim l ++ b ∧ (∀ c ∈ a, isBlank c = true) ∧ ∀ c ∈ b, isBlank c = true := by
  refine ⟨l.takeWhile isBlank, (trimStart l).rtakeWhile isBlank, ?_,
    fun c hc => List.mem_takeWhile_imp hc, fun c hc => List.mem_rtakeWhile_imp hc⟩
  rw [trim, trimEnd_eq_rdropWhile, List.append_assoc, List.rdropWhile_append_rtakeWhile, trimStart,
    List.takeWhile_append_dropWhile]

theorem trim_trim (l : List Char) : trim (trim l) = trim l := by
  obtain ⟨a, b, hl, ha, hb⟩ := exists_around_trim l
  conv_rhs => rw [hl, trim_around ha hb]

/-- Trimming keeps what is no blank. -/
theorem mem_trim {c : Char} (hc : isBlank c = false) {l : List Char} (h : c ∈ l) : c ∈ trim l := by
  obtain ⟨a, b, hl, ha, hb⟩ := exists_around_trim l
  rw [hl, List.mem_append, List.mem_append] at h
  rcases h with (h | h) | h
  · exact absurd rfl (ne_of_isBlank (ha c h) hc)
  · exact h
  · exact absurd rfl (ne_of_isBlank (hb c h) hc)

/-! ## Runs of blanks -/

/-- A text that `collapse` passes over unchanged, whatever follows it. -/
def Settled (l : List Char) : Prop :=
  ∀ rest, collapse false (l ++ rest) = l ++ collapse false rest

namespace Settled

theorem nil : Settled [] := fun _ => rfl

/-- A character that is no blank is settled. -/
theorem char {c : Char} (hc : isBlank c = false) : Settled [c] := by
  intro rest
  simp [collapse, hc]

/-- A space in front of a settled text is settled when the text starts with no blank. -/
theorem space {c : Char} {l : List Char} (hc : isBlank c = false) (hl : Settled (c :: l)) :
    Settled (' ' :: c :: l) := by
  intro rest
  have hspace : isBlank ' ' = true := by decide
  have hrest : collapse false (l ++ rest) = l ++ collapse false rest := by
    have := hl rest
    simpa [collapse, hc] using this
  simp [collapse, hc, hspace, hrest]

/-- Settled texts in a row are settled. -/
theorem append {a b : List Char} (ha : Settled a) (hb : Settled b) : Settled (a ++ b) := by
  intro rest
  rw [List.append_assoc, ha, hb, List.append_assoc]

theorem cons {c : Char} {l : List Char} (hc : isBlank c = false) (hl : Settled l) :
    Settled (c :: l) :=
  (char hc).append hl

/-- A text without blanks is settled. -/
theorem of_noBlank {l : List Char} (h : ∀ c ∈ l, isBlank c = false) : Settled l := by
  induction l with
  | nil => exact nil
  | cons c r ih => exact cons (h c (by simp)) (ih fun d hd => h d (by simp [hd]))

end Settled

/-- What `collapse` writes is settled. -/
theorem settled_collapse (l : List Char) (gap : Bool) : Settled (collapse gap l) := by
  induction l generalizing gap with
  | nil => exact Settled.nil
  | cons c r ih =>
      -- The induction has to leave open whether a gap has just been read.
      rw [collapse]
      by_cases hc : isBlank c = true
      · rw [if_pos hc]
        exact ih true
      · have hc' : isBlank c = false := by simpa using hc
        rw [if_neg hc]
        cases gap with
        | false => exact (ih false).cons hc'
        | true => exact Settled.space hc' ((ih false).cons hc')

/-- Collapsing goes through a text that does not end in a blank. -/
theorem collapse_append {a : List Char} (b : List Char) (gap : Bool) (hne : a ≠ [])
    (hlast : ∀ c ∈ a.getLast?, isBlank c = false) :
    collapse gap (a ++ b) = collapse gap a ++ collapse false b := by
  induction a generalizing gap with
  | nil => exact absurd rfl hne
  | cons c r ih =>
      by_cases hr : r = []
      · -- The text ends here, so its last character clears the gap for what follows.
        subst hr
        have hc : isBlank c = false := hlast c (by simp)
        cases gap <;> simp [collapse, hc]
      · have hlast' : ∀ d ∈ r.getLast?, isBlank d = false := by
          intro d hd
          exact hlast d (by rw [List.getLast?_cons_of_ne_nil hr]; exact hd)
        rw [List.cons_append, collapse, collapse, ih true hr hlast', ih false hr hlast']
        split
        · rfl
        · split <;> rfl

/-- The last character that `collapse` writes is no blank. -/
theorem isBlank_last_collapse {l : List Char} {gap : Bool} :
    ∀ c ∈ (collapse gap l).getLast?, isBlank c = false := by
  induction l generalizing gap with
  | nil => simp [collapse]
  | cons d r ih =>
      intro c hc
      rw [collapse] at hc
      by_cases hd : isBlank d = true
      · rw [if_pos hd] at hc
        exact ih c hc
      · rw [if_neg hd] at hc
        have hlast : c ∈ (d :: collapse false r).getLast? := by
          cases gap with
          | false => exact hc
          | true => rwa [if_pos rfl, List.getLast?_cons_of_ne_nil (by simp)] at hc
        by_cases hr : collapse false r = []
        · -- Nothing is written behind the character, so it is the last one itself.
          rw [hr] at hlast
          simp only [List.getLast?_singleton, Option.mem_def, Option.some.injEq] at hlast
          rw [← hlast]
          simpa using hd
        · rw [List.getLast?_cons_of_ne_nil hr] at hlast
          exact ih c hlast

/-! ## Condensing -/

/-- A settled text that starts with no blank is condensed as it stands. -/
theorem condense_eq_self {l : List Char} (hhead : ∀ c ∈ l.head?, isBlank c = false)
    (hl : Settled l) : condense l = l := by
  have hself := hl []
  rw [List.append_nil, collapse, List.append_nil] at hself
  rw [condense, trimStart_eq_self_iff.2 hhead, hself]

/-- The first character of a condensed text is no blank. -/
theorem isBlank_head_condense (l : List Char) : ∀ c ∈ (condense l).head?, isBlank c = false := by
  rw [condense]
  cases hs : trimStart l with
  | nil => simp [collapse]
  | cons d r =>
      have hd : isBlank d = false := isBlank_head_trimStart l d (by rw [hs]; simp)
      simp [collapse, hd]

/-- A condensed text has no blank at either end. -/
theorem trim_condense (l : List Char) : trim (condense l) = condense l :=
  trim_eq_self_iff.2 ⟨isBlank_head_condense l, isBlank_last_collapse⟩

/-- Condensing twice is condensing once. -/
theorem condense_condense (l : List Char) : condense (condense l) = condense l :=
  condense_eq_self (isBlank_head_condense l) (settled_collapse _ _)

/-- Exactly the texts of blanks only are condensed to nothing. -/
theorem condense_eq_nil_iff {l : List Char} : condense l = [] ↔ ∀ c ∈ l, isBlank c = true := by
  rw [← trimStart_eq_nil_iff, condense]
  cases hs : trimStart l with
  | nil => simp [collapse]
  | cons c r =>
      have hc : isBlank c = false := isBlank_head_trimStart l c (by rw [hs]; simp)
      simp [collapse, hc]

end TypedReference.Text

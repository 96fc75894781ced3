/-
# Characters of names

A dotted name holds word characters and dots only, so none of the signs that structure a type
expression stands in it. A name holds no dots either, and with a capital it is a name again.
-/
import TypedReference.Proofs.Text.Blank
import TypedReference.Text.Case

namespace TypedReference.Text

/-- Names start with ASCII characters. -/
theorem toNat_lt_of_startsName {c : Char} (h : startsName c = true) : c.toNat < 0x80 := by
  simp only [startsName, Bool.or_eq_true, beq_iff_eq] at h
  rcases h with h | rfl
  · have halnum : c.isAlphanum = true := by
      show (c.isAlpha || c.isDigit) = true
      rw [h, Bool.true_or]
    have := toNat_bounds_of_isAlphanum halnum
    omega
  · decide

/-- What holds of every ASCII character that may start a name holds of all that may. -/
theorem startsName_induction {P : Char → Prop}
    (ascii : ∀ n < 0x80, startsName (Char.ofNat n) = true → P (Char.ofNat n)) {c : Char}
    (h : startsName c = true) : P c := by
  have hc := ascii c.toNat (toNat_lt_of_startsName h)
  rw [Char.ofNat_toNat] at hc
  exact hc h

/-- What may start a name is a word character. -/
theorem isWord_of_startsName {c : Char} (h : startsName c = true) : isWord c = true :=
  startsName_induction (P := fun c => isWord c = true) (by decide) h

/-- What may stand in a dotted name is no blank. -/
theorem isBlank_eq_false_of_isWordOrDot {c : Char} (h : isWordOrDot c = true) :
    isBlank c = false := by
  simp only [isWordOrDot, Bool.or_eq_true, beq_iff_eq] at h
  rcases h with h | rfl
  · exact isBlank_eq_false_of_isWord h
  · decide

/-- A blank stands in no dotted name. -/
theorem isWordOrDot_eq_false_of_isBlank {c : Char} (h : isBlank c = true) :
    isWordOrDot c = false := by
  by_contra hword
  rw [isBlank_eq_false_of_isWordOrDot (Bool.not_eq_false _ ▸ hword)] at h
  exact absurd h (by decide)

/-- A dotted name holds word characters and dots only. -/
theorem isWordOrDot_of_isDottedName {x : List Char} (h : isDottedName x = true) :
    ∀ c ∈ x, isWordOrDot c = true := by
  cases x with
  | nil => exact absurd h (by decide)
  | cons c r =>
      simp only [isDottedName, Bool.and_eq_true, List.all_eq_true] at h
      intro d hd
      rcases List.mem_cons.1 hd with rfl | hd
      · simp [isWordOrDot, isWord_of_startsName h.1]
      · exact h.2 d hd

/-- A character that belongs to no dotted name stands in none. -/
theorem ne_of_mem_dottedName {x : List Char} (h : isDottedName x = true) {c d : Char}
    (hc : c ∈ x) (hd : isWordOrDot d = false) : c ≠ d := by
  rintro rfl
  rw [isWordOrDot_of_isDottedName h c hc] at hd
  exact absurd hd (by decide)

theorem ne_nil_of_isDottedName {x : List Char} (h : isDottedName x = true) : x ≠ [] := by
  rintro rfl
  exact absurd h (by decide)

/-- A dotted name goes on with word characters and dots. -/
theorem isDottedName_append {x r : List Char} (hx : isDottedName x = true)
    (hr : ∀ c ∈ r, isWordOrDot c = true) : isDottedName (x ++ r) = true := by
  cases x with
  | nil => exact absurd hx (by decide)
  | cons c x =>
      rw [isDottedName, Bool.and_eq_true, List.all_eq_true] at hx
      rw [List.cons_append, isDottedName, Bool.and_eq_true, List.all_eq_true]
      exact ⟨hx.1, List.forall_mem_append.2 ⟨hx.2, hr⟩⟩

/-- A dotted name has no blank in it, so trimming leaves it as it is. -/
theorem trim_dottedName {x : List Char} (h : isDottedName x = true) : trim x = x := by
  rw [trim_eq_self_iff]
  constructor
  · intro c hc
    exact isBlank_eq_false_of_isWordOrDot
      (isWordOrDot_of_isDottedName h c (List.mem_of_mem_head? hc))
  · intro c hc
    exact isBlank_eq_false_of_isWordOrDot
      (isWordOrDot_of_isDottedName h c (List.mem_of_mem_getLast? hc))

/-! ## Names without dots -/

/-- A name holds word characters only. -/
theorem isWord_of_isName {x : List Char} (h : isName x = true) : ∀ c ∈ x, isWord c = true := by
  cases x with
  | nil => exact absurd h (by decide)
  | cons c r =>
      rw [isName, Bool.and_eq_true, List.all_eq_true] at h
      rw [List.forall_mem_cons]
      exact ⟨isWord_of_startsName h.1, h.2⟩

/-- A name is a dotted name without dots. -/
theorem isDottedName_of_isName {x : List Char} (hx : isName x = true) : isDottedName x = true := by
  cases x with
  | nil => exact hx
  | cons c r =>
      rw [isName, Bool.and_eq_true, List.all_eq_true] at hx
      rw [isDottedName, Bool.and_eq_true, List.all_eq_true]
      refine ⟨hx.1, ?_⟩
      intro d hd
      rw [isWordOrDot, hx.2 d hd, Bool.true_or]

/-- Word characters make up a name when a name can start with the first one. -/
theorem isName_iff_of_words {x : List Char} (h : ∀ c ∈ x, isWord c = true) :
    isName x = true ↔ ∃ c ∈ x.head?, startsName c = true := by
  cases x with
  | nil => simp [isName]
  | cons c r =>
      rw [List.forall_mem_cons] at h
      simp only [isName, List.all_eq_true.2 h.2, Bool.and_true, List.head?_cons, Option.mem_def,
        Option.some.injEq, exists_eq_left']

/-- A character that belongs to no word stands in no name. -/
theorem not_mem_of_isName {x : List Char} (h : isName x = true) {c : Char}
    (hc : isWord c = false) : c ∉ x := by
  intro hmem
  rw [isWord_of_isName h c hmem] at hc
  exact absurd hc (by decide)

/-- The capital of what may start a name is one character, which may start a name. -/
theorem upperChar_of_startsName {c : Char} (h : startsName c = true) :
    ∃ d, upperChar c = [d] ∧ startsName d = true := by
  refine ⟨c.toUpper, ?_, startsName_induction (P := fun c => startsName c.toUpper = true) ?_ h⟩
  · rw [upperChar, if_pos (toNat_lt_of_startsName h)]
  · decide

/-- A name with a capital is a name. -/
theorem isName_capitalized {x : List Char} (h : isName x = true) :
    isName (capitalized x) = true := by
  cases x with
  | nil => exact h
  | cons c r =>
      rw [isName, Bool.and_eq_true] at h
      obtain ⟨d, hd, hstarts⟩ := upperChar_of_startsName h.1
      rw [capitalized, hd, List.singleton_append, isName, hstarts, h.2, Bool.true_and]

end TypedReference.Text

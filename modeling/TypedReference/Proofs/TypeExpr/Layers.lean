/-
# The layers of a type expression

What each layer of a type expression makes of a text: brackets around the whole are counted and
taken off, parentheses around the whole are recognised, and the first "or" splits the text. Each
layer has a notion for texts that it leaves alone (`Balanced`, `Orless`), which passes to texts put
together from such pieces.
-/
import TypedReference.Proofs.Text.Blank
import TypedReference.TypeExpr

namespace TypedReference

open Text

/-! ## Brackets around the whole -/

/-- How many opening brackets stand in front. -/
def openedBrackets (l : List Char) : Nat := (l.takeWhile (· == '[')).length

/-- How many closing brackets stand at the end. -/
def closedBrackets (l : List Char) : Nat := (l.reverse.takeWhile (· == ']')).length

/-- A run ends in front of a character that does not belong to it, whatever stands behind. -/
theorem takeWhile_append_cons {p : Char → Bool} {c : Char} (hc : p c = false) (l r : List Char) :
    (l ++ c :: r).takeWhile p = l.takeWhile p := by
  induction l with
  | nil => simp [hc]
  | cons d l ih => rw [List.cons_append, List.takeWhile_cons, List.takeWhile_cons, ih]

theorem openedBrackets_enclosed (l : List Char) :
    openedBrackets ('[' :: l ++ [']']) = openedBrackets l + 1 := by
  rw [openedBrackets, List.cons_append, List.takeWhile_cons_of_pos (by decide),
    takeWhile_append_cons (by decide), List.length_cons, openedBrackets]

theorem closedBrackets_enclosed (l : List Char) :
    closedBrackets ('[' :: l ++ [']']) = closedBrackets l + 1 := by
  have hrev : ('[' :: l ++ [']']).reverse = ']' :: (l.reverse ++ ['[']) := by simp
  rw [closedBrackets, hrev, List.takeWhile_cons_of_pos (by decide), takeWhile_append_cons (by decide),
    List.length_cons, closedBrackets]

theorem openedBrackets_eq_zero {l : List Char} (h : ∀ c ∈ l.head?, c ≠ '[') :
    openedBrackets l = 0 := by
  cases l with
  | nil => rfl
  | cons c r =>
      have hc : c ≠ '[' := h c (by simp)
      rw [openedBrackets, List.takeWhile_cons_of_neg (by simpa using hc), List.length_nil]

theorem closedBrackets_eq_zero {l : List Char} (h : ∀ c ∈ l.getLast?, c ≠ ']') :
    closedBrackets l = 0 := by
  rw [closedBrackets]
  cases hl : l.reverse with
  | nil => rfl
  | cons c r =>
      have hc : c ≠ ']' := h c (by rw [← List.head?_reverse, hl]; simp)
      rw [List.takeWhile_cons_of_neg (by simpa using hc), List.length_nil]

/-- What follows a text without a bracket in front opens none in it. -/
theorem openedBrackets_append {l r : List Char} (hr : ∀ c ∈ r.head?, c ≠ '[') :
    openedBrackets (l ++ r) = openedBrackets l := by
  induction l with
  | nil => exact openedBrackets_eq_zero hr
  | cons c l ih =>
      unfold openedBrackets at ih ⊢
      rw [List.cons_append, List.takeWhile_cons, List.takeWhile_cons]
      split
      · rw [List.length_cons, List.length_cons, ih]
      · rfl

/-- What stands in front of a text without a bracket at its end closes none in it. -/
theorem closedBrackets_append {l r : List Char} (hl : ∀ c ∈ l.getLast?, c ≠ ']') :
    closedBrackets (l ++ r) = closedBrackets r := by
  have hhead : ∀ c ∈ l.reverse.head?, c ≠ ']' := by rwa [List.head?_reverse]
  unfold closedBrackets
  rw [List.reverse_append]
  induction r.reverse with
  | nil =>
      have hnone := closedBrackets_eq_zero hl
      rwa [closedBrackets] at hnone
  | cons c rest ih =>
      rw [List.cons_append, List.takeWhile_cons, List.takeWhile_cons]
      split
      · rw [List.length_cons, List.length_cons, ih]
      · rfl

theorem closedBrackets_le (l : List Char) : closedBrackets l ≤ l.length := by
  have h := (List.takeWhile_sublist (l := l.reverse) fun c => c == ']').length_le
  rwa [List.length_reverse] at h

/-- Only opening brackets are counted in front. -/
theorem eq_of_mem_take_openedBrackets {l : List Char} {c : Char}
    (h : c ∈ l.take (openedBrackets l)) : c = '[' := by
  have hrun : l.takeWhile (· == '[') = l.take (openedBrackets l) :=
    List.prefix_iff_eq_take.1 (List.takeWhile_prefix _)
  rw [← hrun] at h
  exact eq_of_beq (List.mem_takeWhile_imp (p := (· == '[')) h)

/-- Only closing brackets are counted at the end. -/
theorem eq_of_mem_drop_closedBrackets {l : List Char} {c : Char}
    (h : c ∈ l.drop (l.length - closedBrackets l)) : c = ']' := by
  have hrun : l.reverse.takeWhile (· == ']') = (l.drop (l.length - closedBrackets l)).reverse := by
    rw [← List.take_reverse]
    exact List.prefix_iff_eq_take.1 (List.takeWhile_prefix _)
  rw [← List.mem_reverse, ← hrun] at h
  exact eq_of_beq (List.mem_takeWhile_imp (p := (· == ']')) h)

/-- Brackets are taken off a trimmed text when both ends have as many. -/
theorem peelBrackets_eq {l : List Char} (ht : trim l = l) :
    peelBrackets l =
      if openedBrackets l = closedBrackets l then
        .ok ⟨trim ((l.take (l.length - closedBrackets l)).drop (openedBrackets l)),
          openedBrackets l⟩
      else .error (.mismatchedBrackets (String.ofList l) (openedBrackets l) (closedBrackets l)) := by
  rw [peelBrackets, ht]
  show (if openedBrackets l ≠ closedBrackets l then _ else if openedBrackets l = 0 then _ else _) = _
  by_cases heq : openedBrackets l = closedBrackets l
  · rw [if_neg (not_not.2 heq), if_pos heq]
    by_cases hzero : openedBrackets l = 0
    · have hclosed : closedBrackets l = 0 := heq ▸ hzero
      rw [if_pos hzero, hzero, hclosed, Nat.sub_zero, List.take_length, List.drop_zero, ht]
    · rw [if_neg hzero]
      rfl
  · rw [if_pos heq, if_neg heq]
    rfl

/-- A trimmed text without brackets at its ends stays as it is. -/
theorem peelBrackets_bare {l : List Char} (ht : trim l = l) (hhead : ∀ c ∈ l.head?, c ≠ '[')
    (hlast : ∀ c ∈ l.getLast?, c ≠ ']') : peelBrackets l = .ok ⟨l, 0⟩ := by
  rw [peelBrackets_eq ht, openedBrackets_eq_zero hhead, closedBrackets_eq_zero hlast, if_pos rfl,
    Nat.sub_zero, List.take_length, List.drop_zero, ht]

/-- A pair of brackets around a trimmed text. -/
theorem trim_enclosed (l : List Char) : trim ('[' :: l ++ [']']) = '[' :: l ++ [']'] := by
  rw [trim_eq_self_iff]
  constructor
  · intro c hc
    rw [List.cons_append, List.head?_cons, Option.mem_def, Option.some.injEq] at hc
    rw [← hc]
    decide
  · intro c hc
    rw [List.getLast?_append, List.getLast?_singleton] at hc
    cases hc
    decide

/-- One more pair of brackets is one more level, and the inside stays the same. -/
theorem peelBrackets_enclosed {l : List Char} (ht : trim l = l) {p : Peeled}
    (h : peelBrackets l = .ok p) :
    peelBrackets ('[' :: l ++ [']']) = .ok ⟨p.inner, p.depth + 1⟩ := by
  rw [peelBrackets_eq ht] at h
  rw [peelBrackets_eq (trim_enclosed l), openedBrackets_enclosed, closedBrackets_enclosed]
  by_cases heq : openedBrackets l = closedBrackets l
  · -- Both counts grow by one, and so do the places where the inside begins and ends.
    rw [if_pos heq] at h
    cases h
    have hlen : ('[' :: l ++ [']']).length - (closedBrackets l + 1) =
        (l.length - closedBrackets l) + 1 := by
      have := closedBrackets_le l
      simp only [List.cons_append, List.length_cons, List.length_append, List.length_nil]
      omega
    rw [if_pos (by rw [heq]), hlen, List.cons_append, List.take_succ_cons, List.drop_succ_cons,
      List.take_append_of_le_length (Nat.sub_le _ _)]
  · rw [if_neg heq] at h
    cases h

/-! ## Parentheses around the whole -/

/-- Every parenthesis that opens in the text is closed in it, and the other way round. -/
def Balanced (l : List Char) : Prop :=
  ∀ depth rest, closesAtEnd (depth + 1) (l ++ rest) = closesAtEnd (depth + 1) rest

namespace Balanced

theorem nil : Balanced [] := fun _ _ => rfl

theorem append {a b : List Char} (ha : Balanced a) (hb : Balanced b) : Balanced (a ++ b) := by
  intro depth rest
  rw [List.append_assoc, ha, hb]

/-- A character that is no parenthesis is balanced. -/
theorem char {c : Char} (ho : c ≠ '(') (hc : c ≠ ')') : Balanced [c] := by
  intro depth rest
  simp [closesAtEnd, ho, hc]

theorem of_noParenthesis {l : List Char} (h : ∀ c ∈ l, c ≠ '(' ∧ c ≠ ')') : Balanced l := by
  induction l with
  | nil => exact nil
  | cons c r ih =>
      exact (char (h c (by simp)).1 (h c (by simp)).2).append (ih fun d hd => h d (by simp [hd]))

/-- A balanced text in parentheses is balanced. -/
theorem enclose {l : List Char} (hl : Balanced l) : Balanced ('(' :: l ++ [')']) := by
  intro depth rest
  rw [List.append_assoc, List.cons_append, closesAtEnd, if_pos (by decide), hl,
    List.singleton_append, closesAtEnd, if_neg (by decide), if_pos (by decide),
    if_neg (by omega), Nat.add_sub_cancel]

end Balanced

/-- A balanced text in parentheses is recognised, whatever it holds. -/
theorem parenthesized?_enclosed {body : List Char} (h : Balanced body) :
    parenthesized? ('(' :: body ++ [')']) = some body := by
  have hclose : closesAtEnd 1 (body ++ [')']) = true := by
    rw [h 0]
    decide
  rw [List.cons_append, parenthesized?, hclose, List.dropLast_concat]
  rfl

/-- With something behind the closing parenthesis the whole is not in parentheses. -/
theorem parenthesized?_followed {body rest : List Char} (h : Balanced body) (hrest : rest ≠ []) :
    parenthesized? ('(' :: body ++ [')'] ++ rest) = none := by
  have hclose : closesAtEnd 1 (body ++ ([')'] ++ rest)) = false := by
    rw [h 0, List.singleton_append, closesAtEnd, if_neg (by decide), if_pos (by decide),
      if_pos rfl]
    simpa using hrest
  rw [List.append_assoc, List.cons_append, parenthesized?, hclose, Bool.and_false]
  rfl

theorem parenthesized?_other {l : List Char} (h : ∀ c ∈ l.head?, c ≠ '(') :
    parenthesized? l = none := by
  cases l with
  | nil => rfl
  | cons c r =>
      have hc : (c == '(') = false := by simpa using h c (by simp)
      rw [parenthesized?, hc, Bool.false_and]
      rfl

/-- What is closed at its end has a parenthesis there. -/
theorem getLast?_of_closesAtEnd {l : List Char} {depth : Nat} (h : closesAtEnd depth l = true) :
    l.getLast? = some ')' := by
  induction l generalizing depth with
  | nil => exact absurd h (by simp [closesAtEnd])
  | cons c r ih =>
      rw [closesAtEnd] at h
      have hrest : r.getLast? = some ')' → (c :: r).getLast? = some ')' := by
        intro hr
        rw [List.getLast?_cons, hr, Option.getD_some]
      split at h
      · exact hrest (ih h)
      · split at h
        · next hc =>
          split at h
          · rw [List.isEmpty_iff.1 h, List.getLast?_singleton, eq_of_beq hc]
          · exact hrest (ih h)
        · exact hrest (ih h)

/-- The text in parentheses, with the parentheses. -/
theorem parenthesized?_eq_some {l body : List Char} (h : parenthesized? l = some body) :
    l = '(' :: body ++ [')'] := by
  cases l with
  | nil => cases h
  | cons c r =>
      rw [parenthesized?] at h
      split at h
      · next hclose =>
        cases h
        rw [Bool.and_eq_true] at hclose
        rw [eq_of_beq hclose.1, List.cons_append,
          List.dropLast_append_getLast? _ (getLast?_of_closesAtEnd hclose.2)]
      · cases h

/-! ## The word "or" -/

/-- No "or" starts in the text, whatever follows the text. -/
def Orless (l : List Char) : Prop :=
  ∀ s, s <:+ l → s ≠ [] → ∀ rest, afterOr? (s ++ rest) = none

/-- The texts at the start of which an "or" stands. -/
theorem afterOr?_eq_some {l rest : List Char} (h : afterOr? l = some rest) :
    ∃ o r, l = ' ' :: o :: r :: ' ' :: rest ∧ (o = 'o' ∨ o = 'O') ∧ (r = 'r' ∨ r = 'R') := by
  unfold afterOr? at h
  split at h
  · next o r rest' =>
    split at h
    · next hword =>
      cases h
      simp only [Bool.and_eq_true, Bool.or_eq_true, beq_iff_eq] at hword
      exact ⟨o, r, rfl, hword.1.1, hword.1.2⟩
    · cases h
  · cases h

/-- Only at a space can an "or" start. -/
theorem afterOr?_of_ne_space {c : Char} (hc : c ≠ ' ') (l : List Char) :
    afterOr? (c :: l) = none := by
  rw [Option.eq_none_iff_forall_ne_some]
  intro rest h
  obtain ⟨o, r, heq, -⟩ := afterOr?_eq_some h
  cases heq
  exact hc rfl

namespace Orless

theorem nil : Orless [] := by
  intro s hs hne
  exact absurd (List.suffix_nil.1 hs) hne

/-- In front of an orless text a character needs to be looked at with all that follows it. -/
theorem cons {c : Char} {l : List Char} (hc : ∀ rest, afterOr? (c :: l ++ rest) = none)
    (hl : Orless l) : Orless (c :: l) := by
  intro s hs hne rest
  rcases List.suffix_cons_iff.1 hs with rfl | hs
  · exact hc rest
  · exact hl s hs hne rest

theorem append {a b : List Char} (ha : Orless a) (hb : Orless b) : Orless (a ++ b) := by
  induction a with
  | nil => exact hb
  | cons c r ih =>
      rw [List.cons_append]
      -- What follows the first text is the second one and then anything.
      apply cons
      · intro rest
        rw [← List.cons_append, List.append_assoc]
        exact ha (c :: r) List.suffix_rfl (by simp) (b ++ rest)
      · exact ih fun s hs hne rest => ha s (hs.trans (List.suffix_cons _ _)) hne rest

/-- A text without spaces is orless. -/
theorem of_noSpace {l : List Char} (h : ∀ c ∈ l, c ≠ ' ') : Orless l := by
  induction l with
  | nil => exact nil
  | cons c r ih =>
      apply cons
      · intro rest
        exact afterOr?_of_ne_space (h c (by simp)) _
      · exact ih fun d hd => h d (by simp [hd])

end Orless

/-- A text is split at the "or" behind its first part, when no other one starts before. -/
theorem splitOr?_eq {c o r : Char} {l rest : List Char} (ho : o = 'o' ∨ o = 'O')
    (hr : r = 'r' ∨ r = 'R') (hl : Orless l) (hrest : rest ≠ []) :
    splitOr? (c :: l ++ ' ' :: o :: r :: ' ' :: rest) = some (c :: l, rest) := by
  -- The first part has at least one character, so the induction is on what follows it.
  induction l generalizing c with
  | nil =>
      have hor : afterOr? (' ' :: o :: r :: ' ' :: rest) = some rest := by
        cases rest with
        | nil => exact absurd rfl hrest
        | cons d t => rcases ho with rfl | rfl <;> rcases hr with rfl | rfl <;> rfl
      rw [List.cons_append, List.nil_append, splitOr?, hor]
  | cons d l ih =>
      have hnone := hl (d :: l) List.suffix_rfl (by simp) (' ' :: o :: r :: ' ' :: rest)
      have hrec := ih (c := d) fun s hs => hl s (hs.trans (List.suffix_cons _ _))
      rw [List.cons_append, splitOr?, hnone, hrec]
      rfl

/-- The text that is split, with the "or" and the spaces around it. -/
theorem splitOr?_eq_some {l before rest : List Char} (h : splitOr? l = some (before, rest)) :
    ∃ o r, l = before ++ ' ' :: o :: r :: ' ' :: rest ∧ (o = 'o' ∨ o = 'O') ∧
      (r = 'r' ∨ r = 'R') := by
  induction l generalizing before with
  | nil => cases h
  | cons c tail ih =>
      rw [splitOr?] at h
      split at h
      · next hafter =>
        cases h
        obtain ⟨o, r, rfl, ho, hr⟩ := afterOr?_eq_some hafter
        exact ⟨o, r, rfl, ho, hr⟩
      · obtain ⟨⟨front, back⟩, hsplit, heq⟩ := Option.map_eq_some_iff.1 h
        cases heq
        obtain ⟨o, r, htail, ho, hr⟩ := ih hsplit
        exact ⟨o, r, by rw [htail, List.cons_append], ho, hr⟩

/-- A text without spaces holds no "or". -/
theorem splitOr?_of_noSpace {l : List Char} (h : ∀ c ∈ l, c ≠ ' ') : splitOr? l = none := by
  induction l with
  | nil => rfl
  | cons c r ih =>
      have hr : ∀ d ∈ r, d ≠ ' ' := fun d hd => h d (by simp [hd])
      have hor : afterOr? r = none := by
        cases r with
        | nil => rfl
        | cons d t => exact afterOr?_of_ne_space (hr d (by simp)) t
      rw [splitOr?, hor, ih hr]
      rfl

end TypedReference

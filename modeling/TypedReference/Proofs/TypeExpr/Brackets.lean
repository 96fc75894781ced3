/-
# Brackets around a text

What pairs of brackets around a trimmed text do to its type, whatever the text is. As many brackets
more at one end as at the other leave it as it is whether the two ends fit: a text that is refused
for its own brackets is refused with the new ones counted, and any other text is read as before, in
one more layer of arrays for each pair.
-/
import TypedReference.Proofs.TypeExpr.Typing

namespace TypedReference

open Text

/-- A text in several layers of brackets. -/
def inBrackets (depth : Nat) (x : List Char) : List Char :=
  List.replicate depth '[' ++ x ++ List.replicate depth ']'

theorem inBrackets_zero (x : List Char) : inBrackets 0 x = x := by
  rw [inBrackets, List.replicate_zero, List.nil_append, List.replicate_zero, List.append_nil]

/-- The outermost layer of brackets. -/
theorem inBrackets_succ (depth : Nat) (x : List Char) :
    inBrackets (depth + 1) x = '[' :: inBrackets depth x ++ [']'] := by
  rw [inBrackets, List.replicate_succ, List.replicate_succ', inBrackets]
  simp only [List.cons_append, List.append_assoc]

/-- What is in the brackets can be read off. -/
theorem inBrackets_inj {depth : Nat} {x y : List Char} :
    inBrackets depth x = inBrackets depth y ↔ x = y := by
  rw [inBrackets, inBrackets, List.append_left_inj, List.append_right_inj]

/-! ## Counting and taking off -/

theorem openedBrackets_inBrackets (depth : Nat) (l : List Char) :
    openedBrackets (inBrackets depth l) = openedBrackets l + depth := by
  induction depth with
  | zero => rw [inBrackets_zero, Nat.add_zero]
  | succ depth ih => rw [inBrackets_succ, openedBrackets_enclosed, ih, Nat.add_assoc]

theorem closedBrackets_inBrackets (depth : Nat) (l : List Char) :
    closedBrackets (inBrackets depth l) = closedBrackets l + depth := by
  induction depth with
  | zero => rw [inBrackets_zero, Nat.add_zero]
  | succ depth ih => rw [inBrackets_succ, closedBrackets_enclosed, ih, Nat.add_assoc]

/-- A text with brackets at both ends is one in a pair of them. -/
theorem exists_enclosed {l : List Char} (ho : openedBrackets l ≠ 0) (hc : closedBrackets l ≠ 0) :
    ∃ m, l = '[' :: m ++ [']'] := by
  have hhead : l.head? = some '[' := by
    by_contra hne
    exact ho (openedBrackets_eq_zero fun c hmem hc => hne (hc ▸ hmem))
  have hlast : l.getLast? = some ']' := by
    by_contra hne
    exact hc (closedBrackets_eq_zero fun c hmem hc => hne (hc ▸ hmem))
  obtain ⟨m, rfl⟩ := List.getLast?_eq_some_iff.1 hlast
  cases m with
  | nil => exact absurd hhead (by decide)
  | cons c m =>
      cases hhead
      exact ⟨m, rfl⟩

/-- A text with as many brackets at one end as at the other stands in pairs of them, and what is in
the innermost pair has none at its ends. -/
theorem exists_inBrackets {l : List Char} (h : openedBrackets l = closedBrackets l) :
    ∃ inner, l = inBrackets (openedBrackets l) inner ∧ openedBrackets inner = 0 ∧
      closedBrackets inner = 0 := by
  generalize hn : openedBrackets l = n
  rw [hn] at h
  induction n generalizing l with
  | zero => exact ⟨l, (inBrackets_zero l).symm, hn, h.symm⟩
  | succ n ih =>
      obtain ⟨m, rfl⟩ := exists_enclosed (by omega : openedBrackets l ≠ 0) (by omega)
      rw [openedBrackets_enclosed] at hn
      rw [closedBrackets_enclosed] at h
      obtain ⟨inner, hm, hends⟩ := ih (by omega) (Nat.succ.inj hn)
      exact ⟨inner, by rw [inBrackets_succ, ← hm], hends⟩

/-- Of a trimmed text in brackets all of them are taken off. -/
theorem peelBrackets_innermost {depth : Nat} {inner : List Char}
    (ht : trim (inBrackets depth inner) = inBrackets depth inner)
    (ho : openedBrackets inner = 0) (hc : closedBrackets inner = 0) :
    peelBrackets (inBrackets depth inner) = .ok ⟨trim inner, depth⟩ := by
  have hlength : (inBrackets depth inner).length - depth = depth + inner.length := by
    simp only [inBrackets, List.length_append, List.length_replicate]
    omega
  have hinside : ((inBrackets depth inner).take (depth + inner.length)).drop depth = inner := by
    have hfront : (List.replicate depth '[' ++ inner).length = depth + inner.length := by simp
    rw [inBrackets, ← hfront, List.take_left, List.drop_left' (List.length_replicate ..)]
  rw [peelBrackets_eq ht, openedBrackets_inBrackets, closedBrackets_inBrackets, ho, hc, if_pos rfl,
    Nat.zero_add, hlength, hinside]

section

variable {l : List Char} (ht : trim l = l)
include ht

theorem trim_inBrackets (depth : Nat) : trim (inBrackets depth l) = inBrackets depth l := by
  cases depth with
  | zero => rw [inBrackets_zero, ht]
  | succ depth =>
      rw [inBrackets_succ]
      exact trim_enclosed _

/-- Condensing goes into all the brackets around a trimmed text. -/
theorem condense_inBrackets (depth : Nat) :
    condense (inBrackets depth l) = inBrackets depth (condense l) := by
  induction depth with
  | zero => rw [inBrackets_zero, inBrackets_zero]
  | succ depth ih =>
      rw [inBrackets_succ, condense_enclosed (trim_inBrackets ht depth), ih, inBrackets_succ]

/-- Each pair of brackets is one more level, and the inside stays the same. -/
theorem peelBrackets_inBrackets {p : Peeled} (h : peelBrackets l = .ok p) (depth : Nat) :
    peelBrackets (inBrackets depth l) = .ok ⟨p.inner, p.depth + depth⟩ := by
  induction depth with
  | zero => rw [inBrackets_zero, h, Nat.add_zero]
  | succ depth ih =>
      rw [inBrackets_succ]
      exact peelBrackets_enclosed (trim_inBrackets ht depth) ih

end

/-! ## Types -/

/-- Layers of arrays around layers of arrays. -/
theorem ApiType.arrays_arrays (m n : Nat) (t : ApiType) :
    (t.arrays m).arrays n = t.arrays (m + n) := by
  induction n with
  | zero => rfl
  | succ n ih => rw [arrays, ih, ← Nat.add_assoc, arrays]

section

variable {classes : ClassPaths} {l : List Char} (ht : trim l = l)
include ht

/-- A text whose ends fit is read in brackets as it is without them, and nothing else is
reported. -/
theorem typeOfText_inBrackets
    (heq : openedBrackets (condense l) = closedBrackets (condense l)) (depth : Nat) :
    typeOfText classes (inBrackets depth l) = (typeOfText classes l).map (.arrays depth) := by
  have hcondensed := trim_condense l
  obtain ⟨p, hp⟩ : ∃ p, peelBrackets (condense l) = .ok p := by
    rw [peelBrackets_eq hcondensed, if_pos heq]
    exact ⟨_, rfl⟩
  have hp' : peelBrackets (condense (inBrackets depth l)) = .ok ⟨p.inner, p.depth + depth⟩ := by
    rw [condense_inBrackets ht]
    exact peelBrackets_inBrackets hcondensed hp depth
  rw [typeOfText, TypeExpr.read_of_peel hp', TypeExpr.resolve, typeOfText,
    TypeExpr.read_of_peel hp, TypeExpr.resolve, Logged.map_map]
  congr 1
  funext t
  exact (ApiType.arrays_arrays p.depth depth t).symm

variable (classes) in
/-- A text whose ends do not fit is refused in brackets as well, with the new ones counted. -/
theorem outcome_typeOfText_inBrackets_of_ne
    (hne : openedBrackets (condense l) ≠ closedBrackets (condense l)) (depth : Nat) :
    (typeOfText classes (inBrackets depth l)).outcome = .error (.document
      (.mismatchedBrackets (String.ofList (inBrackets depth (condense l)))
        (openedBrackets (condense l) + depth) (closedBrackets (condense l) + depth))) := by
  have hcondensed : condense (inBrackets depth (condense l)) = inBrackets depth (condense l) := by
    rw [condense_inBrackets (trim_condense l), condense_condense]
  have hends : openedBrackets (inBrackets depth (condense l)) ≠
      closedBrackets (inBrackets depth (condense l)) := by
    rw [openedBrackets_inBrackets, closedBrackets_inBrackets]
    omega
  rw [← typeOfText_condense, condense_inBrackets ht, outcome_typeOfText_mismatch hcondensed hends,
    openedBrackets_inBrackets, closedBrackets_inBrackets]

/-- In brackets a text is refused exactly when it is refused without them. -/
theorem fails_typeOfText_inBrackets (depth : Nat) :
    (typeOfText classes (inBrackets depth l)).Fails ↔ (typeOfText classes l).Fails := by
  by_cases heq : openedBrackets (condense l) = closedBrackets (condense l)
  · rw [typeOfText_inBrackets ht heq, Logged.fails_map]
  · have hrefused := outcome_typeOfText_inBrackets_of_ne classes ht heq
    have hbare := hrefused 0
    rw [inBrackets_zero] at hbare
    exact iff_of_true ⟨_, hrefused depth⟩ ⟨_, hbare⟩

end

/-- Against a registry that can be read, a text fails exactly when it is refused for what stands in
it. -/
theorem fails_typeOfText_iff {classes : ClassPaths} (h : classes.Usable) {l : List Char} :
    (typeOfText classes l).Fails ↔
      ∃ cause, (typeOfText classes l).outcome = .error (.document cause) :=
  (faultsIn_typeOfText h l).fails_iff_document

/-- **The law of brackets.** Against a registry that can be read, any trimmed text in any number of
pairs of brackets is refused exactly when the text itself is. Otherwise it has as many layers of
arrays around the type of the text: one pair of brackets makes an array of it. -/
theorem typeOfText_bracketed {classes : ClassPaths} (h : classes.Usable) {l : List Char}
    (ht : trim l = l) (depth : Nat) :
    ((∃ cause, (typeOfText classes (inBrackets depth l)).outcome = .error (.document cause)) ↔
      ∃ cause, (typeOfText classes l).outcome = .error (.document cause)) ∧
    ((¬ ∃ cause, (typeOfText classes l).outcome = .error (.document cause)) →
      ∃ t, (typeOfText classes l).outcome = .ok t ∧
        (typeOfText classes (inBrackets depth l)).outcome = .ok (t.arrays depth)) := by
  rw [← fails_typeOfText_iff h, ← fails_typeOfText_iff h]
  refine ⟨fails_typeOfText_inBrackets ht depth, ?_⟩
  intro hread
  obtain ⟨t, hok⟩ := Logged.not_fails_iff.1 hread
  have heq : openedBrackets (condense l) = closedBrackets (condense l) := by
    by_contra hne
    have hrefused := outcome_typeOfText_inBrackets_of_ne classes ht hne 0
    rw [inBrackets_zero, hok] at hrefused
    cases hrefused
  refine ⟨t, hok, ?_⟩
  rw [typeOfText_inBrackets ht heq, Logged.outcome_map, hok]
  rfl

/-- Brackets that belong to no pair of their own, on both sides of a choice, and a pair of types of
which the second one is not closed. -/
theorem typeOfText_bracketed_choice :
    ClassPaths.Usable (Registry.ofList [["sublime", "View"]]) ∧
      trim "] or [".toList = "] or [".toList ∧ trim "(int, [str)".toList = "(int, [str)".toList ∧
      (typeOfText (Registry.ofList [["sublime", "View"]]) "[[] or []]".toList).outcome =
        .ok (.array (.array .any)) ∧
      ∃ cause, (typeOfText (Registry.ofList [["sublime", "View"]])
        "[[[(int, [str)]]]".toList).outcome = .error (.document cause) := by
  have husable : ClassPaths.Usable (Registry.ofList [["sublime", "View"]]) := ⟨rfl, by decide⟩
  have htrim : trim "] or [".toList = "] or [".toList := by decide
  have htrim' : trim "(int, [str)".toList = "(int, [str)".toList := by decide
  refine ⟨husable, htrim, htrim', ?_, ?_⟩
  · have hchoice : (typeOfText (Registry.ofList [["sublime", "View"]])
        "] or [".toList).outcome = .ok .any := by
      rw [typeOfText, TypeExpr.read_of_peel (p := ⟨"] or [".toList, 0⟩) rfl]
      rfl
    have hread : ¬ ∃ cause, (typeOfText (Registry.ofList [["sublime", "View"]])
        "] or [".toList).outcome = .error (.document cause) := by
      rintro ⟨cause, hcause⟩
      rw [hchoice] at hcause
      cases hcause
    obtain ⟨t, ht, hbracketed⟩ := (typeOfText_bracketed husable htrim 2).2 hread
    rw [hchoice] at ht
    cases ht
    exact hbracketed
  · have hint : TypeExpr.read "int".toList = .array 0 (.name "int".toList) :=
      TypeExpr.read_of_peel (p := ⟨"int".toList, 0⟩) rfl
    have hstr : TypeExpr.read "[str".toList = .mismatched (.mismatchedBrackets "[str" 1 0) :=
      TypeExpr.read_of_mismatch rfl
    have hpair : TypeExpr.read "(int, [str)".toList = .array 0 (.tuple
        [TypeExpr.read "int".toList, TypeExpr.read "[str".toList]) :=
      TypeExpr.read_of_peel (p := ⟨"(int, [str)".toList, 0⟩) rfl
    have hrefused : (typeOfText (Registry.ofList [["sublime", "View"]])
        "(int, [str)".toList).outcome = .error (.document (.mismatchedBrackets "[str" 1 0)) := by
      rw [typeOfText, hpair, hint, hstr]
      rfl
    exact (typeOfText_bracketed husable htrim' 3).1.2 ⟨_, hrefused⟩

end TypedReference

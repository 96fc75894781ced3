/-
# Types or none

A type that holds no choice may be followed by "or None", or follow "None or", in any letter case.
Around a name or a tuple this makes the type one of a value that may be missing. Around an array it
is no type at all: the brackets are counted at both ends of the whole text, where only one end has
any, before the choice is looked for.
-/
import TypedReference.Proofs.TypeExpr.RoundTrip

namespace TypedReference

open Text

/-! ## Words in any letter case -/

/-- A word written in small letters and capitals, mixed in any way. -/
def SpelledAs (word written : List Char) : Prop :=
  List.Forall₂ (fun c d => d = c ∨ d = c.toUpper) word written

/-- A word with a space on either side. -/
def spaced (word : List Char) : List Char := ' ' :: word ++ [' ']

theorem isOrWord_spaced {word : List Char} (h : SpelledAs ['o', 'r'] word) :
    IsOrWord (spaced word) := by
  cases h with
  | cons ho hrest =>
      cases hrest with
      | cons hr hnil =>
          cases hnil
          exact ⟨_, _, rfl, ho, hr⟩

theorem isNoneWord_of_spelledAs {word : List Char} (h : SpelledAs ['n', 'o', 'n', 'e'] word) :
    IsNoneWord word := by
  cases h with
  | cons h₁ hrest =>
  cases hrest with
  | cons h₂ hrest =>
  cases hrest with
  | cons h₃ hrest =>
  cases hrest with
  | cons h₄ hnil =>
      cases hnil
      constructor <;>
        rcases h₁ with rfl | rfl <;> rcases h₂ with rfl | rfl <;> rcases h₃ with rfl | rfl <;>
          rcases h₄ with rfl | rfl <;> decide

/-! ## Expressions without a choice -/

namespace TypeTerm

/-- The expressions without a choice. -/
inductive Plain : TypeTerm → Prop
  | name {x : List Char} : isDottedName x = true → Plain (name x)
  | array {e : TypeTerm} : Plain e → Plain (array e)
  | tuple {es : List TypeTerm} : (∀ e ∈ es, Plain e) → Plain (tuple es)

/-- How many brackets stand around an expression. -/
def brackets : TypeTerm → Nat
  | array inner => inner.brackets + 1
  | _ => 0

theorem wellFormed_of_plain {e : TypeTerm} (h : e.Plain) : e.WellFormed := by
  induction h with
  | name hx => exact .name hx
  | array _ ih => exact .array ih
  | tuple _ ih => exact .tuple ih

/-- No "or" can be read into an expression without a choice. -/
theorem choiceless_of_plain {e : TypeTerm} (h : e.Plain) : Choiceless e.render := by
  induction h with
  | name hx => exact choiceless_dottedName hx
  | array _ ih => exact choiceless_brackets ih
  | tuple _ ih =>
      rw [render_tuple]
      apply choiceless_tuple
      intro l hl
      obtain ⟨e, he, rfl⟩ := List.mem_map.1 hl
      exact ih e he

/-- An expression has its brackets at both ends. -/
theorem brackets_of_plain {e : TypeTerm} (h : e.Plain) :
    openedBrackets e.render = e.brackets ∧ closedBrackets e.render = e.brackets := by
  induction h with
  | name hx =>
      exact ⟨openedBrackets_eq_zero (ends_dottedName hx).1,
        closedBrackets_eq_zero (ends_dottedName hx).2⟩
  | @array e _ ih =>
      have hrender : (array e).render = '[' :: e.render ++ [']'] := rfl
      rw [hrender, openedBrackets_enclosed, closedBrackets_enclosed, ih.1, ih.2]
      exact ⟨rfl, rfl⟩
  | @tuple es _ _ =>
      exact ⟨openedBrackets_eq_zero (ends_tuple es).1, closedBrackets_eq_zero (ends_tuple es).2⟩

/-! ## Types or none -/

variable {classes : ClassPaths}

section

variable {e : TypeTerm} (he : e.Plain) {word absent : List Char} (hword : IsOrWord word)
  (habsent : IsNoneWord absent)
include he hword habsent

/-- A name or a tuple may be followed by "or None", and may follow "None or". -/
theorem outcome_of_brackets_eq_zero (hzero : e.brackets = 0) {t : ApiType}
    (ht : (typeOfText classes e.render).outcome = .ok t) :
    (typeOfText classes (e.render ++ word ++ absent)).outcome = .ok (.nullable t) ∧
      (typeOfText classes (absent ++ word ++ e.render)).outcome = .ok (.nullable t) := by
  have hself := selfContained_render (wellFormed_of_plain he)
  have hlast : ∀ c ∈ e.render.getLast?, c ≠ ']' := by
    cases he with
    | name hx => exact (ends_dottedName hx).2
    | array => exact absurd hzero (Nat.succ_ne_zero _)
    | tuple => exact (ends_tuple _).2
  refine ⟨?_, outcome_noneOr hword habsent hself hlast ht⟩
  have horless := (choiceless_of_plain he).orless
  cases he with
  | name hx =>
      rw [render, outcome_name hx] at ht
      exact outcome_nameOrNone hword habsent hx ht
  | array => exact absurd hzero (Nat.succ_ne_zero _)
  | tuple hes =>
      exact outcome_tupleOrNone hword habsent
        (fun e' he' => selfContained_render (wellFormed_of_plain (hes e' he'))) horless ht

/-- An array or none has brackets at one end only. -/
theorem outcome_of_brackets_ne_zero (hne : e.brackets ≠ 0) :
    (typeOfText classes (e.render ++ word ++ absent)).outcome = .error (.document
        (.mismatchedBrackets (String.ofList (e.render ++ word ++ absent)) e.brackets 0)) ∧
      (typeOfText classes (absent ++ word ++ e.render)).outcome = .error (.document
        (.mismatchedBrackets (String.ofList (absent ++ word ++ e.render)) 0 e.brackets)) := by
  have hself := selfContained_render (wellFormed_of_plain he)
  have hname := SelfContained.dottedName habsent.dottedName
  have hends := ends_dottedName habsent.dottedName
  obtain ⟨hopened, hclosed⟩ := brackets_of_plain he
  -- The word has a space at either end, so it adds no bracket to what stands beside it.
  have hspaces : (∀ c ∈ word.head?, c ≠ '[') ∧ ∀ c ∈ word.getLast?, c ≠ ']' := by
    obtain ⟨o, r, rfl, -, -⟩ := hword
    simp
  have hwordne : word ≠ [] := by
    obtain ⟨o, r, rfl, -, -⟩ := hword
    simp
  constructor
  · have hopened' : openedBrackets (e.render ++ word ++ absent) = e.brackets := by
      rw [List.append_assoc, openedBrackets_append, hopened]
      rw [List.head?_append_of_ne_nil _ hwordne]
      exact hspaces.1
    have hclosed' : closedBrackets (e.render ++ word ++ absent) = 0 := by
      apply closedBrackets_eq_zero
      rw [List.getLast?_append_of_ne_nil _ hname.ne_nil]
      exact hends.2
    have h : (typeOfText classes (e.render ++ word ++ absent)).outcome = _ :=
      outcome_typeOfText_mismatch (hself.choice hword hname).condensed
        (by rw [hopened', hclosed']; exact hne)
    rwa [hopened', hclosed'] at h
  · have hopened' : openedBrackets (absent ++ word ++ e.render) = 0 := by
      apply openedBrackets_eq_zero
      rw [List.append_assoc, List.head?_append_of_ne_nil _ hname.ne_nil]
      exact hends.1
    have hclosed' : closedBrackets (absent ++ word ++ e.render) = e.brackets := by
      rw [closedBrackets_append, hclosed]
      rw [List.getLast?_append_of_ne_nil _ hwordne]
      exact hspaces.2
    have h : (typeOfText classes (absent ++ word ++ e.render)).outcome = _ :=
      outcome_typeOfText_mismatch (hname.choice hword hself).condensed
        (by rw [hopened', hclosed']; exact hne.symm)
    rwa [hopened', hclosed'] at h

end

/-- **A type or none.** An expression without a choice has a type. If it is a name or a tuple, then
with "or None" behind it or "None or" in front, in any letter case, it has the type of a value that
may be missing. If it stands in brackets, both texts are refused: one end has brackets that the
other has not. -/
theorem typeOfText_orNone (h : classes.Usable) {e : TypeTerm} (he : e.Plain)
    {word absent : List Char} (hword : SpelledAs ['o', 'r'] word)
    (habsent : SpelledAs ['n', 'o', 'n', 'e'] absent) :
    ∃ t, (typeOfText classes e.render).outcome = .ok t ∧
      (e.brackets = 0 →
        (typeOfText classes (e.render ++ spaced word ++ absent)).outcome = .ok (.nullable t) ∧
        (typeOfText classes (absent ++ spaced word ++ e.render)).outcome = .ok (.nullable t)) ∧
      (e.brackets ≠ 0 →
        (typeOfText classes (e.render ++ spaced word ++ absent)).outcome = .error (.document
          (.mismatchedBrackets (String.ofList (e.render ++ spaced word ++ absent)) e.brackets 0)) ∧
        (typeOfText classes (absent ++ spaced word ++ e.render)).outcome = .error (.document
          (.mismatchedBrackets (String.ofList (absent ++ spaced word ++ e.render)) 0
            e.brackets))) := by
  choose type htype _ using outcome_resolveName h
  have ht := outcome_render htype (wellFormed_of_plain he)
  have hspaced := isOrWord_spaced hword
  have hnone := isNoneWord_of_spelledAs habsent
  exact ⟨e.denote type, ht,
    fun hzero => outcome_of_brackets_eq_zero he hspaced hnone hzero ht,
    fun hne => outcome_of_brackets_ne_zero he hspaced hnone hne⟩

/-- The registry of a page with one class. -/
def viewClasses : ClassPaths := .ofList [["sublime", "View"]]

/-- A pair of an array and a class: "([str], View)". -/
def viewPair : TypeTerm := tuple [array (name "str".toList), name "View".toList]

theorem plain_viewPair : viewPair.Plain := by
  apply Plain.tuple
  rw [List.forall_mem_cons, List.forall_mem_singleton]
  exact ⟨.array (.name (by decide)), .name (by decide)⟩

theorem typeOfText_orNone_viewPair :
    viewClasses.Usable ∧ viewPair.Plain ∧ (array viewPair).Plain ∧
      SpelledAs ['o', 'r'] "oR".toList ∧ SpelledAs ['n', 'o', 'n', 'e'] "None".toList ∧
      (∃ t, (typeOfText viewClasses "([str], View)".toList).outcome = .ok t ∧
        (typeOfText viewClasses "([str], View) oR None".toList).outcome = .ok (.nullable t) ∧
        (typeOfText viewClasses "None oR ([str], View)".toList).outcome = .ok (.nullable t)) ∧
      (typeOfText viewClasses "[([str], View)] oR None".toList).outcome =
        .error (.document (.mismatchedBrackets "[([str], View)] oR None" 1 0)) ∧
      (typeOfText viewClasses "None oR [([str], View)]".toList).outcome =
        .error (.document (.mismatchedBrackets "None oR [([str], View)]" 0 1)) := by
  have husable : viewClasses.Usable := ⟨rfl, by decide⟩
  have hword : SpelledAs ['o', 'r'] "oR".toList := by unfold SpelledAs; decide
  have habsent : SpelledAs ['n', 'o', 'n', 'e'] "None".toList := by unfold SpelledAs; decide
  have harray := Plain.array plain_viewPair
  obtain ⟨t, ht, hnullable, -⟩ := typeOfText_orNone husable plain_viewPair hword habsent
  obtain ⟨-, -, -, hrefused⟩ := typeOfText_orNone husable harray hword habsent
  have hone := hrefused (Nat.succ_ne_zero _)
  exact ⟨husable, plain_viewPair, harray, hword, habsent,
    ⟨t, ht, (hnullable rfl).1, (hnullable rfl).2⟩, hone.1, hone.2⟩

/-- An array of texts is a type, and with "or None" it is none. -/
theorem not_nullable_arrayOrNone :
    (typeOfText viewClasses "[str]".toList).outcome = .ok (.array .string) ∧
      (typeOfText viewClasses "[str] or None".toList).outcome =
        .error (.document (.mismatchedBrackets "[str] or None" 1 0)) ∧
      (typeOfText viewClasses "None or [str]".toList).outcome =
        .error (.document (.mismatchedBrackets "None or [str]" 0 1)) := by
  have hplain : (array (name "str".toList)).Plain := .array (.name (by decide))
  have hstr : (typeOfText viewClasses "str".toList).outcome = .ok .string := by
    rw [outcome_name (by decide)]
    rfl
  exact ⟨outcome_typeOfText_enclosed (by decide) hstr,
    outcome_of_brackets_ne_zero hplain isOrWord_orWord isNoneWord_noneWord (Nat.succ_ne_zero _)⟩

end TypeTerm

end TypedReference

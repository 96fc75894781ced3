/-
# Blanks between signs

An expression of names, arrays and tuples may have blanks at its ends and beside every bracket,
parenthesis and comma. They are not read, except for those that part a bracket from the next one:
brackets are counted up to the first blank, so what stands behind it is no array of the ones in
front.
-/
import TypedReference.Proofs.TypeExpr.Members
import TypedReference.Proofs.TypeExpr.Nullable

namespace TypedReference

open Text

/-! ## Texts with brackets in them -/

/-- A text with a bracket in it is not the word for no value. -/
theorem isNone_of_bracket {c : Char} (hc : c = '[' ∨ c = ']') {l : List Char} (h : c ∈ l) :
    isNone l = false := by
  have hlower : c ∈ lower l := by
    rcases hc with rfl | rfl <;> exact mem_lowerFrom (by decide) (by decide) h false
  rw [isNone, beq_eq_false_iff_ne]
  intro hnone
  rw [hnone] at hlower
  rcases hc with rfl | rfl <;> exact absurd hlower (by decide)

/-- The first part of a text that starts with a bracket has that bracket in it. -/
theorem topLevelParts_bracket (l : List Char) :
    ∃ part parts, topLevelParts [','] ('[' :: l) = part :: parts ∧ '[' ∈ part := by
  obtain ⟨first, pieces, hcut⟩ : ∃ first pieces,
      cutTopLevel (fun c => [','] == [c]) 0 ('[' :: l) = ('[' :: first) :: pieces := by
    rw [cutTopLevel, if_neg (by simp)]
    cases cutTopLevel (fun c => [','] == [c]) (depthAfter 0 '[') l with
    | nil => exact ⟨_, _, rfl⟩
    | cons first pieces => exact ⟨_, _, rfl⟩
  have hfirst : '[' ∈ trim ('[' :: first) := mem_trim (by decide) (by simp)
  refine ⟨trim ('[' :: first), (pieces.map trim).filter fun part => !part.isEmpty, ?_, hfirst⟩
  rw [topLevelParts, hcut, List.map_cons, List.filter_cons_of_pos]
  simpa using List.ne_nil_of_mem hfirst

/-- Where a text between brackets is split, either side keeps one of them. -/
theorem splitOr?_brackets {l before rest : List Char} (hhead : l.head? = some '[')
    (hlast : l.getLast? = some ']') (hsplit : splitOr? l = some (before, rest)) :
    (∃ front, before = '[' :: front) ∧ ']' ∈ rest := by
  obtain ⟨o, r', rfl, -⟩ := splitOr?_eq_some hsplit
  constructor
  · cases before with
    | nil => cases hhead
    | cons c front =>
        cases hhead
        exact ⟨front, rfl⟩
  · have hne : rest ≠ [] := by
      rintro rfl
      rw [List.getLast?_append] at hlast
      cases hlast
    rw [List.getLast?_append_of_ne_nil _ (by simp), List.getLast?_cons_cons,
      List.getLast?_cons_cons, List.getLast?_cons_cons, List.getLast?_cons_of_ne_nil hne] at hlast
    exact List.mem_of_mem_getLast? hlast

/-- What starts and ends with a bracket, after brackets have been taken off, is no type. -/
theorem outline_of_brackets {l : List Char} (hhead : l.head? = some '[')
    (hlast : l.getLast? = some ']') : outline l = .alternation ∨ outline l = .unreadable := by
  have hpar : parenthesized? l = none := parenthesized?_other (by simp [hhead])
  cases hsplit : splitOr? l with
  | none =>
      right
      have hname : isDottedName l = false := by
        obtain ⟨r, rfl⟩ := List.head?_eq_some_iff.1 hhead
        rw [isDottedName]
        rfl
      simp only [outline, hpar, hsplit, hname, Bool.false_eq_true, if_false]
  | some sides =>
      obtain ⟨before, rest⟩ := sides
      left
      obtain ⟨⟨front, rfl⟩, hrest⟩ := splitOr?_brackets hhead hlast hsplit
      obtain ⟨part, parts, hparts, hpart⟩ := topLevelParts_bracket front
      have hfirst := isNone_of_bracket (Or.inl rfl) hpart
      have hsecond := isNone_of_bracket (Or.inr rfl) (mem_trim (by decide) hrest)
      have hchoice : outlineChoice (topLevelParts [','] ('[' :: front)) (trim rest) =
          .alternation := by
        rw [hparts]
        cases parts with
        | nil => rw [outlineChoice, hfirst, hsecond]; rfl
        | cons _ _ => rfl
      simp only [outline, hpar, hsplit, hchoice]

/-! ## Expressions with blanks -/

/-- Blanks, as many as there may be. -/
def Gap := { l : List Char // ∀ c ∈ l, isBlank c = true }

/-- A text that is a dotted name. -/
def DottedName := { x : List Char // isDottedName x = true }

/-- A type expression without a choice, with the blanks in front of its signs and behind them. -/
inductive SpacedTerm where
  /-- A dotted name. -/
  | name (before : Gap) (x : DottedName) (after : Gap)
  /-- An expression in brackets. -/
  | array (before : Gap) (inner : SpacedTerm) (after : Gap)
  /-- Expressions side by side in parentheses, with blanks behind the last one. -/
  | tuple (before : Gap) (members : List SpacedTerm) (last after : Gap)

namespace SpacedTerm

/-- The blanks in front of the expression. -/
def before : SpacedTerm → Gap
  | name before _ _ | array before _ _ | tuple before _ _ _ => before

/-- The blanks behind the expression. -/
def after : SpacedTerm → Gap
  | name _ _ after | array _ _ after | tuple _ _ _ after => after

mutual

/-- The text of an expression, blanks and all. -/
def text : SpacedTerm → List Char
  | name before x after => before.1 ++ x.1 ++ after.1
  | array before inner after => before.1 ++ ('[' :: inner.text ++ [']']) ++ after.1
  | tuple before members last after =>
    before.1 ++ ('(' :: (joinWith [','] (textAll members) ++ last.1) ++ [')']) ++ after.1

/-- The texts of several expressions. -/
def textAll : List SpacedTerm → List (List Char)
  | [] => []
  | e :: es => e.text :: textAll es

end

/-- The text of an expression without the blanks around it. -/
def core : SpacedTerm → List Char
  | name _ x _ => x.1
  | array _ inner _ => '[' :: inner.text ++ [']']
  | tuple _ members last _ => '(' :: (joinWith [','] (textAll members) ++ last.1) ++ [')']

mutual

/-- What is written, without the blanks. -/
def bare : SpacedTerm → TypeTerm
  | name _ x _ => .name x.1
  | array _ inner _ => .array inner.bare
  | tuple _ members _ _ => .tuple (bareAll members)

/-- The same of several expressions. -/
def bareAll : List SpacedTerm → List TypeTerm
  | [] => []
  | e :: es => e.bare :: bareAll es

end

/-- How many brackets open the expression with no blank between them. -/
def frontBrackets : SpacedTerm → Nat
  | array _ inner _ => (if inner.before.1.isEmpty then inner.frontBrackets else 0) + 1
  | _ => 0

/-- How many brackets close the expression with no blank between them. -/
def backBrackets : SpacedTerm → Nat
  | array _ inner _ => (if inner.after.1.isEmpty then inner.backBrackets else 0) + 1
  | _ => 0

/-- No blank parts a bracket from the next one. -/
inductive Tight : SpacedTerm → Prop
  | name {before : Gap} {x : DottedName} {after : Gap} : Tight (name before x after)
  | array {before : Gap} {inner : SpacedTerm} {after : Gap} : Tight inner →
      (inner.bare.brackets ≠ 0 → inner.before.1 = [] ∧ inner.after.1 = []) →
      Tight (array before inner after)
  | tuple {before : Gap} {members : List SpacedTerm} {last after : Gap} :
      (∀ e ∈ members, Tight e) → Tight (tuple before members last after)

/-- Induction in which the members of a tuple are taken one by one. -/
theorem induction {motive : SpacedTerm → Prop}
    (name : ∀ before x after, motive (name before x after))
    (array : ∀ before inner after, motive inner → motive (array before inner after))
    (tuple : ∀ before members last after, (∀ e ∈ members, motive e) →
      motive (tuple before members last after)) (e : SpacedTerm) : motive e := by
  refine @SpacedTerm.rec motive (fun es => ∀ e ∈ es, motive e) name array tuple ?_ ?_ e
  · simp
  · intro head tail hhead htail
    exact List.forall_mem_cons.2 ⟨hhead, htail⟩

/-! ### Texts -/

theorem textAll_eq_map (es : List SpacedTerm) : textAll es = es.map text := by
  induction es with
  | nil => rfl
  | cons e es ih => rw [textAll, ih, List.map_cons]

theorem bareAll_eq_map (es : List SpacedTerm) : bareAll es = es.map bare := by
  induction es with
  | nil => rfl
  | cons e es ih => rw [bareAll, ih, List.map_cons]

theorem text_eq (e : SpacedTerm) : e.text = e.before.1 ++ e.core ++ e.after.1 := by
  cases e <;> rfl

/-- Without blanks an expression is one without a choice. -/
theorem plain_bare (e : SpacedTerm) : e.bare.Plain := by
  induction e using SpacedTerm.induction with
  | name before x after => exact .name x.2
  | array before inner after ih => exact .array ih
  | tuple before members last after ih =>
      rw [bare, bareAll_eq_map]
      exact .tuple (List.forall_mem_map.2 ih)

/-- Blanks open and close nothing, so the text of an expression stays together. -/
theorem closed_text (e : SpacedTerm) : Closed e.text := by
  have hblank : ∀ gap : Gap, Closed gap.1 := fun gap => Closed.of_blank gap.2
  induction e using SpacedTerm.induction with
  | name before x after =>
      exact ((hblank before).append (Closed.dottedName x.2)).append (hblank after)
  | array before inner after ih =>
      exact ((hblank before).append ih.inBrackets).append (hblank after)
  | tuple before members last after ih =>
      rw [← List.forall_mem_map (f := text), ← textAll_eq_map] at ih
      obtain ⟨huncut, hbalanced⟩ := Closed.joined (Closed.of_blank (l := []) (by simp)) ih
      have hbody := Closed.inParentheses
        (fun depth => (huncut depth).append ((hblank last).uncut (depth + 1)))
        (hbalanced.append (hblank last).balanced)
      exact ((hblank before).append hbody).append (hblank after)

theorem core_ne_nil (e : SpacedTerm) : e.core ≠ [] := by
  cases e with
  | name before x after => exact ne_nil_of_isDottedName x.2
  | array before inner after | tuple before members last after => simp [core]

theorem trim_core (e : SpacedTerm) : trim e.core = e.core := by
  cases e with
  | name before x after => exact trim_dottedName x.2
  | array before inner after => exact trim_enclosed _
  | tuple before members last after =>
      rw [trim_eq_self_iff, core, List.getLast?_append, List.getLast?_singleton]
      constructor <;> (intro c hc; cases hc; decide)

theorem trim_text (e : SpacedTerm) : trim e.text = e.core := by
  rw [text_eq, trim_around e.before.2 e.after.2, trim_core]

theorem condense_text (e : SpacedTerm) : condense e.text = condense e.core := by
  rw [text_eq, condense_around e.before.2 e.after.2]

theorem read_text (e : SpacedTerm) : TypeExpr.read e.text = TypeExpr.read e.core := by
  rw [← TypeExpr.read_condense, condense_text, TypeExpr.read_condense]

/-- Condensed, an expression in brackets keeps a space for the blanks inside its brackets. -/
theorem condense_array (e : SpacedTerm) : condense ('[' :: e.text ++ [']']) =
    '[' :: (gapOf e.before.1 ++ condense e.core ++ gapOf e.after.1) ++ [']'] := by
  obtain ⟨hhead, hlast⟩ := trim_eq_self_iff.1 e.trim_core
  have hcondense : condense e.core = collapse false e.core := by
    rw [condense, trimStart_eq_self_iff.2 hhead]
  have hend : collapse false (e.after.1 ++ [']']) = gapOf e.after.1 ++ [']'] := by
    rw [collapse_gap e.after.2 (by decide)]
    rfl
  have hcore : collapse false (e.core ++ (e.after.1 ++ [']'])) =
      condense e.core ++ (gapOf e.after.1 ++ [']']) := by
    rw [collapse_append _ _ e.core_ne_nil hlast, hend, hcondense]
  have hfront : collapse false (e.before.1 ++ (e.core ++ (e.after.1 ++ [']']))) =
      gapOf e.before.1 ++ (condense e.core ++ (gapOf e.after.1 ++ [']'])) := by
    rw [← hcore]
    cases hc : e.core with
    | nil => exact absurd hc e.core_ne_nil
    | cons c r =>
        rw [List.cons_append]
        exact collapse_gap e.before.2 (hhead c (by rw [hc]; rfl)) _
  rw [condense, trimStart_eq_self_iff.2 (by simp; decide), text_eq, List.cons_append, collapse,
    if_neg (by decide), if_neg (by decide)]
  simp only [List.append_assoc, List.cons_append] at hfront ⊢
  rw [hfront]

/-! ### Counting brackets -/

/-- Only the brackets in front of the first blank are counted. -/
theorem openedBrackets_gap (e : SpacedTerm) :
    openedBrackets (gapOf e.before.1 ++ condense e.core ++ gapOf e.after.1) =
      if e.before.1.isEmpty then openedBrackets (condense e.text) else 0 := by
  rw [openedBrackets_append, condense_text]
  · unfold gapOf
    split
    · rfl
    · exact openedBrackets_eq_zero (by simp)
  · intro c hc
    exact ne_of_isBlank (isBlank_gapOf _ c (List.mem_of_mem_head? hc)) (by decide)

theorem closedBrackets_gap (e : SpacedTerm) :
    closedBrackets (gapOf e.before.1 ++ condense e.core ++ gapOf e.after.1) =
      if e.after.1.isEmpty then closedBrackets (condense e.text) else 0 := by
  rw [List.append_assoc, closedBrackets_append, condense_text]
  · unfold gapOf
    split
    · rw [List.append_nil]
    · exact closedBrackets_eq_zero (by simp)
  · intro c hc
    exact ne_of_isBlank (isBlank_gapOf _ c (List.mem_of_mem_getLast? hc)) (by decide)

/-- What is counted at the ends of an expression that is read. -/
theorem brackets_condense (e : SpacedTerm) :
    openedBrackets (condense e.text) = e.frontBrackets ∧
      closedBrackets (condense e.text) = e.backBrackets := by
  induction e using SpacedTerm.induction with
  | name before x after =>
      have hx : condense (name before x after).core = x.1 :=
        (SelfContained.dottedName x.2).condensed
      obtain ⟨hhead, hlast⟩ := TypeTerm.ends_dottedName x.2
      rw [condense_text, hx]
      exact ⟨openedBrackets_eq_zero hhead, closedBrackets_eq_zero hlast⟩
  | array before inner after ih =>
      rw [condense_text, core, condense_array, openedBrackets_enclosed, closedBrackets_enclosed,
        openedBrackets_gap, closedBrackets_gap, ih.1, ih.2]
      exact ⟨rfl, rfl⟩
  | tuple before members last after ih =>
      obtain ⟨gap, -, hcore⟩ :=
        TypeExpr.condense_parenthesized (joinWith [','] (textAll members) ++ last.1)
      rw [condense_text, core, hcore]
      constructor
      · exact openedBrackets_eq_zero (by simp)
      · apply closedBrackets_eq_zero
        rw [List.getLast?_append]
        simp

/-- No more brackets are counted in front than there are. -/
theorem frontBrackets_le (e : SpacedTerm) : e.frontBrackets ≤ e.bare.brackets := by
  induction e using SpacedTerm.induction with
  | name before x after => exact Nat.le_refl _
  | tuple before members last after _ => exact Nat.zero_le _
  | array before inner after ih =>
      rw [frontBrackets, bare, TypeTerm.brackets]
      split <;> omega

/-- No more brackets are counted behind than there are. -/
theorem backBrackets_le (e : SpacedTerm) : e.backBrackets ≤ e.bare.brackets := by
  induction e using SpacedTerm.induction with
  | name before x after => exact Nat.le_refl _
  | tuple before members last after _ => exact Nat.zero_le _
  | array before inner after ih =>
      rw [backBrackets, bare, TypeTerm.brackets]
      split <;> omega

/-- If all brackets of an array are counted, so are those inside it, and no blank parts them from
its own. -/
theorem brackets_inside {before inner after}
    (h : (array before inner after).frontBrackets = (array before inner after).bare.brackets ∧
      (array before inner after).backBrackets = (array before inner after).bare.brackets) :
    (inner.frontBrackets = inner.bare.brackets ∧ inner.backBrackets = inner.bare.brackets) ∧
      (inner.bare.brackets ≠ 0 → inner.before.1 = [] ∧ inner.after.1 = []) := by
  obtain ⟨hfront, hback⟩ := h
  rw [frontBrackets, bare, TypeTerm.brackets] at hfront
  rw [backBrackets, bare, TypeTerm.brackets] at hback
  have hfrontLe := inner.frontBrackets_le
  have hbackLe := inner.backBrackets_le
  refine ⟨⟨?_, ?_⟩, fun hne => ?_⟩
  · split at hfront <;> omega
  · split at hback <;> omega
  · rw [← List.isEmpty_iff, ← List.isEmpty_iff]
    constructor
    · by_contra hbefore
      rw [if_neg hbefore] at hfront
      omega
    · by_contra hafter
      rw [if_neg hafter] at hback
      omega

/-- Where no bracket stands beside those of an array, what is left without them is condensed. -/
theorem peelBrackets_array {e : SpacedTerm}
    (hfront : (if e.before.1.isEmpty then e.frontBrackets else 0) = 0)
    (hback : (if e.after.1.isEmpty then e.backBrackets else 0) = 0) :
    peelBrackets (condense ('[' :: e.text ++ [']'])) = .ok ⟨condense e.text, 1⟩ := by
  have hopened := openedBrackets_gap e
  have hclosed := closedBrackets_gap e
  rw [e.brackets_condense.1, hfront] at hopened
  rw [e.brackets_condense.2, hback] at hclosed
  have hinner : trim (gapOf e.before.1 ++ condense e.core ++ gapOf e.after.1) =
      condense e.text := by
    rw [trim_around (isBlank_gapOf _) (isBlank_gapOf _), trim_condense, condense_text]
  rw [condense_array, peelBrackets_eq (trim_enclosed _), openedBrackets_enclosed,
    closedBrackets_enclosed, hopened, hclosed, if_pos rfl]
  have htake : ∀ x : List Char,
      (('[' :: x ++ [']']).take (('[' :: x ++ [']']).length - (0 + 1))).drop (0 + 1) = x := by
    intro x
    have hlength : ('[' :: x ++ [']']).length - (0 + 1) = x.length + 1 := by simp
    rw [hlength, List.cons_append, List.take_succ_cons, List.take_left, List.drop_one,
      List.tail_cons]
  rw [htake, hinner]

/-- Without blanks beside them the brackets of an array are one more pair around its inside. -/
theorem peelBrackets_array_succ {e : SpacedTerm} (hbefore : e.before.1 = [])
    (hafter : e.after.1 = []) {p : Peeled} (h : peelBrackets (condense e.text) = .ok p) :
    peelBrackets (condense ('[' :: e.text ++ [']'])) = .ok ⟨p.inner, p.depth + 1⟩ := by
  have htrim : trim e.text = e.text := by
    rw [trim_text, text_eq, hbefore, hafter, List.nil_append, List.append_nil]
  rw [condense_enclosed htrim]
  exact peelBrackets_enclosed (trim_condense _) h

/-- An expression whose ends fit is peeled. -/
theorem exists_peelBrackets {e : SpacedTerm} (h : e.frontBrackets = e.backBrackets) :
    ∃ inner, peelBrackets (condense e.text) = .ok ⟨inner, e.frontBrackets⟩ := by
  obtain ⟨hopened, hclosed⟩ := e.brackets_condense
  rw [peelBrackets_eq (trim_condense _), hopened, hclosed, if_pos h]
  exact ⟨_, rfl⟩

/-! ### Tight expressions -/

/-- At both ends of a tight expression all brackets are counted. -/
theorem brackets_of_tight {e : SpacedTerm} (h : e.Tight) :
    e.frontBrackets = e.bare.brackets ∧ e.backBrackets = e.bare.brackets := by
  induction h with
  | name | tuple _ _ => exact ⟨rfl, rfl⟩
  | @array before inner after _ hgaps ih =>
      rw [frontBrackets, backBrackets, bare, TypeTerm.brackets, ih.1, ih.2]
      by_cases hzero : inner.bare.brackets = 0
      · simp [hzero]
      · obtain ⟨hbefore, hafter⟩ := hgaps hzero
        simp [hbefore, hafter]

/-- Where all brackets are counted, and none is parted from the next one by a blank, one more pair
around an expression is one more level. -/
theorem read_enclosed_text {e : SpacedTerm}
    (hcounts : e.frontBrackets = e.bare.brackets ∧ e.backBrackets = e.bare.brackets)
    (hgaps : e.bare.brackets ≠ 0 → e.before.1 = [] ∧ e.after.1 = []) :
    ∃ depth inner, TypeExpr.read e.text = .array depth inner ∧
      TypeExpr.read ('[' :: e.text ++ [']']) = .array (depth + 1) inner := by
  obtain ⟨hfront, hback⟩ := hcounts
  obtain ⟨inner, hpeel⟩ := exists_peelBrackets (hfront.trans hback.symm)
  by_cases hzero : e.bare.brackets = 0
  · have hpeel' : peelBrackets (condense ('[' :: e.text ++ [']'])) = .ok ⟨condense e.text, 1⟩ :=
      peelBrackets_array (by simp [hfront, hzero]) (by simp [hback, hzero])
    have hself : peelBrackets (condense e.text) = .ok ⟨condense e.text, 0⟩ := by
      obtain ⟨hopened, hclosed⟩ := e.brackets_condense
      rw [peelBrackets_eq (trim_condense _), hopened, hclosed, hfront, hback, hzero, if_pos rfl,
        Nat.sub_zero, List.take_length, List.drop_zero, trim_condense]
    exact ⟨_, _, TypeExpr.read_of_peel hself, TypeExpr.read_of_peel hpeel'⟩
  · obtain ⟨hbefore, hafter⟩ := hgaps hzero
    exact ⟨_, _, TypeExpr.read_of_peel hpeel,
      TypeExpr.read_of_peel (peelBrackets_array_succ hbefore hafter hpeel)⟩

/-- The same of the expression written without blanks. -/
theorem read_enclosed_render {t : TypeTerm} (h : t.Plain) :
    ∃ depth inner, TypeExpr.read t.render = .array depth inner ∧
      TypeExpr.read ('[' :: t.render ++ [']']) = .array (depth + 1) inner := by
  have hself := TypeTerm.selfContained_render (TypeTerm.wellFormed_of_plain h)
  obtain ⟨hopened, hclosed⟩ := TypeTerm.brackets_of_plain h
  obtain ⟨inner, hpeel⟩ : ∃ inner, peelBrackets t.render = .ok ⟨inner, t.brackets⟩ := by
    rw [peelBrackets_eq hself.trimmed, hopened, hclosed, if_pos rfl]
    exact ⟨_, rfl⟩
  have hpeel' : peelBrackets (condense ('[' :: t.render ++ [']'])) =
      .ok ⟨inner, t.brackets + 1⟩ := by
    rw [hself.inBrackets.condensed]
    exact peelBrackets_enclosed hself.trimmed hpeel
  rw [← hself.condensed] at hpeel
  exact ⟨_, _, TypeExpr.read_of_peel hpeel, TypeExpr.read_of_peel hpeel'⟩

/-- A tuple is read member by member, whatever blanks stand in it. -/
theorem read_core_tuple (before : Gap) (members : List SpacedTerm) (last after : Gap) :
    TypeExpr.read (tuple before members last after).core =
      .array 0 (.tuple (members.map fun e => TypeExpr.read e.text)) := by
  have hclosed : ∀ l ∈ textAll members, Closed l := by
    rw [textAll_eq_map, List.forall_mem_map]
    exact fun e _ => e.closed_text
  have hne : ∀ l ∈ textAll members, trim l ≠ [] := by
    rw [textAll_eq_map, List.forall_mem_map]
    intro e _
    rw [trim_text]
    exact e.core_ne_nil
  have hnone : ∀ c ∈ ([] : List Char), isBlank c = true := by simp
  rw [core, TypeExpr.read_tuple hnone last.2 hclosed hne, textAll_eq_map,
    List.map_map]
  rfl

/-- The same of a tuple written without blanks. -/
theorem read_render_tuple {es : List TypeTerm} (h : ∀ e ∈ es, e.Plain) :
    TypeExpr.read (TypeTerm.tuple es).render =
      .array 0 (.tuple (es.map fun e => TypeExpr.read e.render)) := by
  have hself : ∀ l ∈ es.map TypeTerm.render, SelfContained l := by
    rw [List.forall_mem_map]
    exact fun e he => TypeTerm.selfContained_render (TypeTerm.wellFormed_of_plain (h e he))
  have hspace : ∀ c ∈ [' '], isBlank c = true := List.forall_mem_singleton.2 (by decide)
  have hnone : ∀ c ∈ ([] : List Char), isBlank c = true := by simp
  have hread := TypeExpr.read_tuple hspace hnone
    (fun l hl => (hself l hl).closed)
    (fun l hl => by rw [(hself l hl).trimmed]; exact (hself l hl).ne_nil)
  rw [List.append_nil] at hread
  rw [TypeTerm.render_tuple, memberGap, hread, List.map_map]
  rfl

/-- Blanks that part no brackets are not read. -/
theorem read_of_tight {e : SpacedTerm} (h : e.Tight) :
    TypeExpr.read e.text = TypeExpr.read e.bare.render := by
  induction h with
  | name => exact read_text _
  | @array before inner after htight hgaps ih =>
      obtain ⟨depth, x, htext, hbracketed⟩ :=
        read_enclosed_text (brackets_of_tight htight) hgaps
      obtain ⟨depth', x', hrender, hbracketed'⟩ := read_enclosed_render inner.plain_bare
      rw [ih, hrender] at htext
      cases htext
      rw [read_text, core, hbracketed, bare, TypeTerm.render, hbracketed']
  | @tuple before members last after _ ih =>
      have hplain : ∀ e ∈ bareAll members, e.Plain := by
        rw [bareAll_eq_map, List.forall_mem_map]
        exact fun e _ => e.plain_bare
      rw [read_text, read_core_tuple, bare, read_render_tuple hplain, bareAll_eq_map, List.map_map]
      congr 2
      exact List.map_congr_left ih

/-! ### Expressions that are not tight -/

/-- Where the brackets at the ends are as many, but not all, an array stands in them. -/
theorem peelBrackets_of_lt {e : SpacedTerm} (heq : e.frontBrackets = e.backBrackets)
    (hlt : e.frontBrackets < e.bare.brackets) : ∃ inner,
      peelBrackets (condense e.text) = .ok ⟨inner, e.frontBrackets⟩ ∧
        inner.head? = some '[' ∧ inner.getLast? = some ']' := by
  induction e using SpacedTerm.induction with
  | name before x after => exact absurd hlt (Nat.lt_irrefl 0)
  | tuple before members last after _ => exact absurd hlt (Nat.lt_irrefl 0)
  | array before inner after ih =>
      rw [condense_text, core]
      rw [frontBrackets, backBrackets] at heq
      rw [frontBrackets, bare, TypeTerm.brackets] at hlt
      rw [frontBrackets]
      by_cases hgaps : inner.before.1 = [] ∧ inner.after.1 = []
      · obtain ⟨hbefore, hafter⟩ := hgaps
        simp only [hbefore, hafter, List.isEmpty_nil, if_true] at heq hlt ⊢
        obtain ⟨x, hpeel, hends⟩ := ih (by omega) (by omega)
        exact ⟨x, peelBrackets_array_succ hbefore hafter hpeel, hends⟩
      · -- One end has a blank behind its first bracket, and then the other end has as well.
        have hends : (if inner.before.1.isEmpty then inner.frontBrackets else 0) = 0 ∧
            (if inner.after.1.isEmpty then inner.backBrackets else 0) = 0 := by
          rw [← List.isEmpty_iff, ← List.isEmpty_iff] at hgaps
          by_cases hbefore : inner.before.1.isEmpty = true
          · rw [if_neg fun hafter => hgaps ⟨hbefore, hafter⟩] at heq ⊢
            omega
          · rw [if_neg hbefore] at heq ⊢
            omega
        refine ⟨condense inner.text, ?_, ?_⟩
        · rw [hends.1]
          exact peelBrackets_array hends.1 hends.2
        · cases inner with
          | name | tuple =>
              rw [hends.1] at hlt
              exact absurd hlt (Nat.lt_irrefl 1)
          | array inside core inside' =>
              rw [condense_text, SpacedTerm.core, condense_array, List.getLast?_concat]
              exact ⟨rfl, rfl⟩

section

variable {classes : ClassPaths}

/-- An expression whose ends do not fit is refused with what has been counted at them. -/
theorem outcome_of_mismatch {e : SpacedTerm} (hne : e.frontBrackets ≠ e.backBrackets) :
    (typeOfText classes e.text).outcome = .error (.document
      (.mismatchedBrackets (String.ofList (condense e.text)) e.frontBrackets e.backBrackets)) := by
  obtain ⟨hopened, hclosed⟩ := e.brackets_condense
  have hends : openedBrackets (condense e.text) ≠ closedBrackets (condense e.text) := by
    rw [hopened, hclosed]
    exact hne
  rw [← typeOfText_condense, outcome_typeOfText_mismatch (condense_condense e.text) hends, hopened,
    hclosed]

/-- Brackets that are not counted leave no type inside the others. -/
theorem outcome_of_lt {e : SpacedTerm} (heq : e.frontBrackets = e.backBrackets)
    (hlt : e.frontBrackets < e.bare.brackets) :
    (typeOfText classes e.text).outcome = .ok (ApiType.any.arrays e.frontBrackets) := by
  obtain ⟨inner, hpeel, hhead, hlast⟩ := peelBrackets_of_lt heq hlt
  rw [typeOfText, TypeExpr.read_of_peel hpeel]
  rcases outline_of_brackets hhead hlast with h | h
  · rw [h]
    rfl
  · rw [h]
    rfl

/-- Fewer arrays than an expression has brackets are not what it means. -/
theorem arrays_any_ne_denote (type : List Char → ApiType) {t : TypeTerm} {depth : Nat}
    (h : depth < t.brackets) : ApiType.any.arrays depth ≠ t.denote type := by
  induction depth generalizing t with
  | zero =>
      cases t with
      | array inner => exact ApiType.noConfusion
      | name | tuple | orNone | noneOr => exact absurd h (Nat.lt_irrefl 0)
  | succ depth ih =>
      cases t with
      | array inner =>
          rw [ApiType.arrays, TypeTerm.denote]
          intro heq
          exact ih (Nat.lt_of_succ_lt_succ h) (ApiType.array.inj heq)
      | name | tuple | orNone | noneOr => exact absurd h (Nat.not_lt_zero _)

/-- At both ends of an expression that has the type it means all brackets are counted. -/
theorem brackets_of_outcome {type : List Char → ApiType} {e : SpacedTerm}
    (h : (typeOfText classes e.text).outcome = .ok (e.bare.denote type)) :
    e.frontBrackets = e.bare.brackets ∧ e.backBrackets = e.bare.brackets := by
  have heq : e.frontBrackets = e.backBrackets := by
    by_contra hne
    rw [outcome_of_mismatch hne] at h
    cases h
  have hall : e.frontBrackets = e.bare.brackets := by
    by_contra hne
    have hlt := Nat.lt_of_le_of_ne e.frontBrackets_le hne
    rw [outcome_of_lt heq hlt] at h
    exact arrays_any_ne_denote type hlt (Except.ok.inj h)
  exact ⟨hall, heq.symm.trans hall⟩

/-- An expression that has the type it means is tight. -/
theorem tight_of_outcome {type : List Char → ApiType}
    {e : SpacedTerm} (h : (typeOfText classes e.text).outcome = .ok (e.bare.denote type)) :
    e.Tight := by
  induction e using SpacedTerm.induction with
  | name before x after => exact .name
  | array before inner after ih =>
      obtain ⟨hcounts, hgaps⟩ := brackets_inside (brackets_of_outcome h)
      obtain ⟨depth, x, htext, hbracketed⟩ := read_enclosed_text hcounts hgaps
      refine .array (ih ?_) hgaps
      rw [typeOfText, read_text, core, hbracketed, TypeExpr.resolve,
        Logged.outcome_map_eq_ok_iff] at h
      obtain ⟨t, ht, htype⟩ := h
      rw [typeOfText, htext, TypeExpr.resolve, Logged.outcome_map_eq_ok_iff]
      exact ⟨t, ht, ApiType.array.inj htype⟩
  | tuple before members last after ih =>
      rw [typeOfText, read_text, read_core_tuple, TypeExpr.resolve, TypeExpr.resolve,
        Logged.map_map, Logged.outcome_map_eq_ok_iff] at h
      obtain ⟨ts, hts, htuple⟩ := h
      rw [TypeExpr.resolveAll_eq_mapAll, Logged.outcome_mapAll_eq_ok_iff] at hts
      obtain rfl : ts = members.map fun e => e.bare.denote type := by
        have hdenote := ApiType.tuple.inj htuple
        rwa [bareAll_eq_map, TypeTerm.denoteAll_eq_map, List.map_map] at hdenote
      rw [List.forall₂_map_left_iff, List.forall₂_map_right_iff, List.forall₂_same] at hts
      exact .tuple fun e he => ih e he (hts e he)

end

end SpacedTerm

open SpacedTerm

/-- **Blanks between signs.** Blanks at the ends of an expression and beside its signs change
neither its type nor what is reported, as long as none of them parts a bracket from the next one. If
one does, the result is another one. Where the brackets up to the first blank are not as many in
front as they are behind, the expression is refused; where they are, but others follow behind the
blanks, it has no more than a type of arrays of anything. -/
theorem typeOfText_spaced {classes : ClassPaths} (h : classes.Usable) (e : SpacedTerm) :
    (e.Tight → typeOfText classes e.text = typeOfText classes e.bare.render) ∧
    (¬ e.Tight →
      (typeOfText classes e.text).outcome ≠ (typeOfText classes e.bare.render).outcome) ∧
    (e.frontBrackets ≠ e.backBrackets → (typeOfText classes e.text).outcome = .error (.document
      (.mismatchedBrackets (String.ofList (condense e.text)) e.frontBrackets e.backBrackets))) ∧
    (e.frontBrackets = e.backBrackets → e.frontBrackets < e.bare.brackets →
      (typeOfText classes e.text).outcome = .ok (ApiType.any.arrays e.frontBrackets)) := by
  refine ⟨?_, ?_, outcome_of_mismatch, outcome_of_lt⟩
  · intro htight
    rw [typeOfText, read_of_tight htight, typeOfText]
  · intro hloose heq
    choose type htype _ using outcome_resolveName h
    have hmeant : (typeOfText classes e.text).outcome = .ok (e.bare.denote type) := by
      rw [heq]
      exact TypeTerm.outcome_render htype (TypeTerm.wellFormed_of_plain e.plain_bare)
    exact hloose (tight_of_outcome hmeant)

/-- No blanks. -/
def noGap : Gap := ⟨[], List.forall_mem_nil _⟩

/-- One space. -/
def oneSpace : Gap := ⟨[' '], List.forall_mem_singleton.2 (by decide)⟩

/-- The word for text, without blanks. -/
def strTerm : SpacedTerm := .name noGap ⟨"str".toList, by decide⟩ noGap

/-- An array of texts. -/
def strArray : SpacedTerm := .array noGap strTerm noGap

/-- An array of an array of texts, with a space in front of the inner one: "[ [str]]". -/
def looseInFront : SpacedTerm := .array noGap (.array oneSpace strTerm noGap) noGap

/-- The same with a space on both sides of the inner array: "[ [str] ]". -/
def looseAround : SpacedTerm := .array noGap (.array oneSpace strTerm oneSpace) noGap

/-- A tab. -/
def oneTab : Gap := ⟨['\t'], List.forall_mem_singleton.2 (by decide)⟩

/-- A line break. -/
def oneBreak : Gap := ⟨['\n'], List.forall_mem_singleton.2 (by decide)⟩

/-- A tuple in brackets, blanks around it and in it: "[ ( str ,\t[[str]] ) ]\n". -/
def blankTuple : SpacedTerm :=
  .array noGap (.tuple oneSpace [.name oneSpace ⟨"str".toList, by decide⟩ oneSpace,
    .array oneTab strArray oneSpace] noGap oneSpace) oneBreak

theorem tight_strArray : strArray.Tight := .array .name fun hne => absurd rfl hne

theorem tight_blankTuple : blankTuple.Tight := by
  refine .array (.tuple ?_) fun hne => absurd rfl hne
  rw [List.forall_mem_cons, List.forall_mem_singleton]
  exact ⟨.name, .array tight_strArray fun _ => ⟨rfl, rfl⟩⟩

theorem not_tight_looseAround : ¬ looseAround.Tight := by
  intro h
  cases h with
  | array _ hgaps => exact absurd (hgaps (Nat.succ_ne_zero 0)).1 (by decide)

theorem typeOfText_spaced_blanks : TypeTerm.viewClasses.Usable ∧
    blankTuple.Tight ∧ ¬ looseAround.Tight ∧
    looseInFront.frontBrackets ≠ looseInFront.backBrackets ∧
    typeOfText TypeTerm.viewClasses "[ ( str ,\t[[str]] ) ]\n".toList =
      typeOfText TypeTerm.viewClasses "[(str, [[str]])]".toList ∧
    (typeOfText TypeTerm.viewClasses "[ [str] ]".toList).outcome ≠
      (typeOfText TypeTerm.viewClasses "[[str]]".toList).outcome ∧
    (typeOfText TypeTerm.viewClasses "[ [str]]".toList).outcome =
      .error (.document (.mismatchedBrackets "[ [str]]" 1 2)) ∧
    (typeOfText TypeTerm.viewClasses "[ [str] ]".toList).outcome = .ok (.array .any) := by
  have husable : TypeTerm.viewClasses.Usable := ⟨rfl, by decide⟩
  have hfront : looseInFront.frontBrackets ≠ looseInFront.backBrackets := by decide
  obtain ⟨-, hother, -, hany⟩ := typeOfText_spaced husable looseAround
  exact ⟨husable, tight_blankTuple, not_tight_looseAround, hfront,
    (typeOfText_spaced husable blankTuple).1 tight_blankTuple, hother not_tight_looseAround,
    (typeOfText_spaced husable looseInFront).2.2.1 hfront, hany rfl (by decide)⟩

/-- Three ways to write an array of an array of texts, with three results. -/
theorem not_sameType_spacedArrays :
    (typeOfText TypeTerm.viewClasses "[[str]]".toList).outcome = .ok (.array (.array .string)) ∧
      (typeOfText TypeTerm.viewClasses "[ [str] ]".toList).outcome = .ok (.array .any) ∧
      (typeOfText TypeTerm.viewClasses "[ [str]]".toList).outcome =
        .error (.document (.mismatchedBrackets "[ [str]]" 1 2)) := by
  have hstr : (typeOfText TypeTerm.viewClasses "str".toList).outcome = .ok .string := by
    rw [TypeTerm.outcome_name (by decide)]
    rfl
  have hone := outcome_typeOfText_enclosed (by decide) hstr
  have htwo := outcome_typeOfText_enclosed (by decide) hone
  exact ⟨htwo, outcome_of_lt (e := looseAround) rfl (by decide),
    outcome_of_mismatch (e := looseInFront) (by decide)⟩

end TypedReference

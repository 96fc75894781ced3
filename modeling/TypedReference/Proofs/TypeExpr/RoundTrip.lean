/-
# Written types are read back

The language of type expressions as it is written on a page, and what its expressions mean. Reading
a written expression gives its meaning, for every expression and every registry that can be read.
The pieces of a written expression are texts that stand for themselves (`SelfContained`): no layer
of the reader sees into them from outside.
-/
import TypedReference.Proofs.TypeExpr.Members

namespace TypedReference

open Text

/-! ## Type expressions and their meaning -/

/-- What is written between the members of a tuple. -/
def memberGap : List Char := [',', ' ']

/-- What is written between two choices. -/
def orWord : List Char := [' ', 'o', 'r', ' ']

/-- What is written for no value. -/
def noneWord : List Char := ['N', 'o', 'n', 'e']

/-- What may be written between two choices: the word in any letter case, between spaces. -/
def IsOrWord (word : List Char) : Prop :=
  ∃ o r, word = [' ', o, r, ' '] ∧ (o = 'o' ∨ o = 'O') ∧ (r = 'r' ∨ r = 'R')

/-- What may be written for no value: the word in any letter case. -/
structure IsNoneWord (word : List Char) : Prop where
  /-- It is read as a name. -/
  dottedName : isDottedName word = true
  /-- As a name it means no value. -/
  isNone : isNone word = true

theorem isOrWord_orWord : IsOrWord orWord := ⟨'o', 'r', rfl, Or.inl rfl, Or.inl rfl⟩

theorem isNoneWord_noneWord : IsNoneWord noneWord := ⟨by decide, by decide⟩

/-- A type expression as an author means it. -/
inductive TypeTerm where
  /-- A dotted name. -/
  | name (x : List Char)
  /-- An expression in brackets. -/
  | array (inner : TypeTerm)
  /-- Expressions side by side in parentheses. -/
  | tuple (members : List TypeTerm)
  /-- An expression or none. -/
  | orNone (inner : TypeTerm)
  /-- None or an expression. -/
  | noneOr (inner : TypeTerm)

namespace TypeTerm

mutual

/-- The text of an expression. -/
def render : TypeTerm → List Char
  | name x => x
  | array inner => '[' :: inner.render ++ [']']
  | tuple members => '(' :: joinWith memberGap (renderAll members) ++ [')']
  | orNone inner => inner.render ++ orWord ++ noneWord
  | noneOr inner => noneWord ++ orWord ++ inner.render

/-- The texts of several expressions. -/
def renderAll : List TypeTerm → List (List Char)
  | [] => []
  | e :: es => e.render :: renderAll es

end

mutual

/-- The type that an expression means, where the types of names are given. -/
def denote (type : List Char → ApiType) : TypeTerm → ApiType
  | name x => type x
  | array inner => .array (inner.denote type)
  | tuple members => .tuple (denoteAll type members)
  | orNone inner => .nullable (inner.denote type)
  | noneOr inner => .nullable (inner.denote type)

/-- The types that several expressions mean. -/
def denoteAll (type : List Char → ApiType) : List TypeTerm → List ApiType
  | [] => []
  | e :: es => e.denote type :: denoteAll type es

end

theorem renderAll_eq_map (es : List TypeTerm) : renderAll es = es.map render := by
  induction es with
  | nil => rfl
  | cons e es ih => rw [renderAll, ih, List.map_cons]

theorem denoteAll_eq_map (type : List Char → ApiType) (es : List TypeTerm) :
    denoteAll type es = es.map (denote type) := by
  induction es with
  | nil => rfl
  | cons e es ih => rw [denoteAll, ih, List.map_cons]

/-- The expressions of the language. Beside "none" stands a name or a tuple; in front of it the
tuple may not itself hold a choice. -/
inductive WellFormed : TypeTerm → Prop
  | name {x : List Char} : isDottedName x = true → WellFormed (name x)
  | array {e : TypeTerm} : WellFormed e → WellFormed (array e)
  | tuple {es : List TypeTerm} : (∀ e ∈ es, WellFormed e) → WellFormed (tuple es)
  | nameOrNone {x : List Char} : isDottedName x = true → WellFormed (orNone (name x))
  | tupleOrNone {es : List TypeTerm} : (∀ e ∈ es, WellFormed e) →
      ¬ orWord <:+: (TypeTerm.tuple es).render → WellFormed (orNone (TypeTerm.tuple es))
  | noneOrName {x : List Char} : isDottedName x = true → WellFormed (noneOr (TypeTerm.name x))
  | noneOrTuple {es : List TypeTerm} : (∀ e ∈ es, WellFormed e) →
      WellFormed (noneOr (TypeTerm.tuple es))

end TypeTerm

/-! ## Texts that stand for themselves -/

/-- A text that every layer of the reader passes over as a whole. -/
structure SelfContained (l : List Char) : Prop where
  /-- There is something to read. -/
  ne_nil : l ≠ []
  /-- No blank stands at either end. -/
  trimmed : trim l = l
  /-- All spaces in it are single. -/
  settled : Settled l
  /-- No comma in it separates members of a tuple around it. -/
  uncut : ∀ depth, Uncut (fun c => [','] == [c]) depth l
  /-- Its parentheses are closed in it. -/
  balanced : Balanced l

namespace SelfContained

theorem closed {l : List Char} (h : SelfContained l) : Closed l := ⟨h.uncut, h.balanced⟩

theorem head_not_blank {l : List Char} (h : SelfContained l) : ∀ c ∈ l.head?, isBlank c = false :=
  (trim_eq_self_iff.1 h.trimmed).1

theorem last_not_blank {l : List Char} (h : SelfContained l) :
    ∀ c ∈ l.getLast?, isBlank c = false :=
  (trim_eq_self_iff.1 h.trimmed).2

theorem condensed {l : List Char} (h : SelfContained l) : condense l = l :=
  condense_eq_self h.head_not_blank h.settled

/-- Behind a space a self-contained text is still passed over. -/
theorem settled_space {l : List Char} (h : SelfContained l) : Settled (' ' :: l) := by
  cases l with
  | nil => exact absurd rfl h.ne_nil
  | cons c r => exact Settled.space (h.head_not_blank c (by simp)) h.settled

/-- A name stands for itself. -/
theorem dottedName {x : List Char} (hx : isDottedName x = true) : SelfContained x where
  ne_nil := ne_nil_of_isDottedName hx
  trimmed := trim_dottedName hx
  settled := Settled.of_noBlank fun c hc =>
    isBlank_eq_false_of_isWordOrDot (isWordOrDot_of_isDottedName hx c hc)
  uncut := (Closed.dottedName hx).uncut
  balanced := (Closed.dottedName hx).balanced

/-- A text in brackets stands for itself. -/
theorem inBrackets {l : List Char} (h : SelfContained l) : SelfContained ('[' :: l ++ [']']) where
  ne_nil := by simp
  trimmed := trim_enclosed l
  settled := (h.settled.cons (by decide)).append (Settled.char (by decide))
  uncut := h.closed.inBrackets.uncut
  balanced := h.closed.inBrackets.balanced

/-- Joined texts that stand for themselves are cut only where they are joined. -/
theorem joined {ls : List (List Char)} (h : ∀ l ∈ ls, SelfContained l) :
    (∀ depth, Uncut (fun c => [','] == [c]) (depth + 1) (joinWith memberGap ls)) ∧
      Balanced (joinWith memberGap ls) :=
  Closed.joined (Closed.of_blank (List.forall_mem_singleton.2 (by decide)))
    fun l hl => (h l hl).closed

/-- Texts that stand for themselves do so together in parentheses. -/
theorem inParentheses {ls : List (List Char)} (h : ∀ l ∈ ls, SelfContained l) :
    SelfContained ('(' :: joinWith memberGap ls ++ [')']) where
  ne_nil := by simp
  trimmed := by
    rw [trim_eq_self_iff, List.getLast?_append, List.getLast?_singleton]
    refine ⟨?_, ?_⟩ <;> (intro c hc; cases hc; decide)
  settled := by
    have hjoin : Settled (joinWith memberGap ls) :=
      joinWith_induction Settled.nil (fun _ _ => Settled.append) (fun l hl => (h l hl).settled)
        (fun l hl => (h l hl).settled_space.cons (by decide))
    exact (hjoin.cons (by decide)).append (Settled.char (by decide))
  uncut := (Closed.inParentheses (joined h).1 (joined h).2).uncut
  balanced := (Closed.inParentheses (joined h).1 (joined h).2).balanced

/-- The word between two choices closes all it opens. -/
theorem closed_orWord {word : List Char} (hword : IsOrWord word) : Closed word := by
  obtain ⟨o, r, rfl, ho, hr⟩ := hword
  apply Closed.of_plain
  rcases ho with rfl | rfl <;> rcases hr with rfl | rfl <;> simp [opensLevel, closesLevel]

/-- Two texts that stand for themselves do so as a choice. -/
theorem choice {a word b : List Char} (ha : SelfContained a) (hword : IsOrWord word)
    (hb : SelfContained b) : SelfContained (a ++ word ++ b) where
  ne_nil := by simp [ha.ne_nil]
  trimmed := by
    rw [trim_eq_self_iff]
    constructor
    · intro c hc
      rw [List.append_assoc, List.head?_append_of_ne_nil _ ha.ne_nil] at hc
      exact ha.head_not_blank c hc
    · intro c hc
      rw [List.getLast?_append_of_ne_nil _ hb.ne_nil] at hc
      exact hb.last_not_blank c hc
  settled := by
    obtain ⟨o, r, rfl, ho, hr⟩ := hword
    have hoBlank : isBlank o = false := by rcases ho with rfl | rfl <;> decide
    have hrBlank : isBlank r = false := by rcases hr with rfl | rfl <;> decide
    -- The second space of the word goes with the text behind it, which starts with no blank.
    have hstart : Settled (' ' :: o :: [r]) :=
      Settled.space hoBlank (Settled.of_noBlank (by simp [hoBlank, hrBlank]))
    have := (ha.settled.append hstart).append hb.settled_space
    simpa using this
  uncut := ((ha.closed.append (closed_orWord hword)).append hb.closed).uncut
  balanced := ((ha.closed.append (closed_orWord hword)).append hb.closed).balanced

end SelfContained

namespace TypeTerm

theorem render_tuple (es : List TypeTerm) :
    (tuple es).render = '(' :: joinWith memberGap (es.map render) ++ [')'] := by
  rw [render, renderAll_eq_map]

theorem selfContained_members {es : List TypeTerm} (h : ∀ e ∈ es, SelfContained e.render) :
    ∀ l ∈ es.map render, SelfContained l := by
  intro l hl
  obtain ⟨e, he, rfl⟩ := List.mem_map.1 hl
  exact h e he

/-- A written tuple stands for itself when its members do. -/
theorem selfContained_tuple {es : List TypeTerm} (h : ∀ e ∈ es, SelfContained e.render) :
    SelfContained (tuple es).render := by
  rw [render_tuple]
  exact SelfContained.inParentheses (selfContained_members h)

/-- Every written expression stands for itself. -/
theorem selfContained_render {e : TypeTerm} (h : e.WellFormed) : SelfContained e.render := by
  have hnone := SelfContained.dottedName isNoneWord_noneWord.dottedName
  induction h with
  | name hx => exact SelfContained.dottedName hx
  | array _ ih => exact ih.inBrackets
  | tuple _ ih => exact selfContained_tuple ih
  | nameOrNone hx =>
      rw [render]
      exact (SelfContained.dottedName hx).choice isOrWord_orWord hnone
  | tupleOrNone _ _ ih =>
      rw [render]
      exact (selfContained_tuple ih).choice isOrWord_orWord hnone
  | noneOrName hx =>
      rw [render]
      exact hnone.choice isOrWord_orWord (SelfContained.dottedName hx)
  | noneOrTuple _ ih =>
      rw [render]
      exact hnone.choice isOrWord_orWord (selfContained_tuple ih)

/-! ## Expressions without a choice -/

/-- Nothing that starts in the text, or at a space in front of it, can be an "or" when a comma or a
closing parenthesis comes next. -/
structure Choiceless (l : List Char) : Prop where
  /-- No "or" starts in it. -/
  orless : Orless l
  /-- It does not complete one that starts in front of it. -/
  behind_space : ∀ d rest, d = ',' ∨ d = ')' → afterOr? (' ' :: l ++ d :: rest) = none

/-- A text without spaces holds no choice. -/
theorem Choiceless.of_noSpace {l : List Char} (hne : l ≠ []) (h : ∀ c ∈ l, c ≠ ' ') :
    Choiceless l where
  orless := Orless.of_noSpace h
  behind_space := by
    intro d rest hd
    rw [Option.eq_none_iff_forall_ne_some]
    intro after hafter
    obtain ⟨o, r, heq, -, hr⟩ := afterOr?_eq_some hafter
    have hd' : d ≠ 'r' ∧ d ≠ 'R' ∧ d ≠ ' ' := by
      rcases hd with rfl | rfl <;> decide
    -- The second space of the word would have to stand in the text or be the character behind it.
    match l with
    | [] => exact hne rfl
    | [_] =>
        cases heq
        rcases hr with hr | hr
        · exact hd'.1 hr
        · exact hd'.2.1 hr
    | [_, _] =>
        cases heq
        exact hd'.2.2 rfl
    | _ :: _ :: _ :: _ =>
        cases heq
        exact h ' ' (by simp) rfl

/-- A text that does not start like the word holds no choice if none starts in it. -/
theorem Choiceless.of_head {c : Char} {l : List Char} (hc : c ≠ 'o' ∧ c ≠ 'O')
    (h : Orless (c :: l)) : Choiceless (c :: l) where
  orless := h
  behind_space := by
    intro d rest _
    rw [Option.eq_none_iff_forall_ne_some]
    intro after hafter
    obtain ⟨o, r, heq, ho, -⟩ := afterOr?_eq_some hafter
    simp only [List.cons_append, List.cons.injEq] at heq
    obtain ⟨-, rfl, -⟩ := heq
    rcases ho with ho | ho
    · exact hc.1 ho
    · exact hc.2 ho

/-- No "or" starts in the rest of a tuple whose members hold no choice. -/
theorem orless_members {ls : List (List Char)} (h : ∀ l ∈ ls, Choiceless l) :
    Orless ((ls.flatMap fun l => memberGap ++ l) ++ [')']) := by
  induction ls with
  | nil => exact Orless.of_noSpace (by simp)
  | cons l ls ih =>
      -- Behind a member comes the comma of the next one or the parenthesis.
      have htail : ∃ d rest, (d = ',' ∨ d = ')') ∧
          (ls.flatMap fun l => memberGap ++ l) ++ [')'] = d :: rest := by
        cases ls with
        | nil => exact ⟨')', [], Or.inr rfl, rfl⟩
        | cons m ms => exact ⟨',', _, Or.inl rfl, rfl⟩
      obtain ⟨d, rest, hd, htail⟩ := htail
      have hih := ih fun m hm => h m (by simp [hm])
      have hl := h l (by simp)
      rw [List.flatMap_cons, List.append_assoc, List.append_assoc]
      show Orless (',' :: ' ' :: (l ++ ((ls.flatMap fun l => memberGap ++ l) ++ [')'])))
      apply Orless.cons (fun _ => afterOr?_of_ne_space (by decide) _)
      apply Orless.cons _ (hl.orless.append hih)
      intro after
      have hspace := hl.behind_space d (rest ++ after) hd
      rw [htail]
      simpa using hspace

/-- A text without a choice holds none in brackets. -/
theorem choiceless_brackets {l : List Char} (h : Choiceless l) :
    Choiceless ('[' :: l ++ [']']) := by
  rw [List.cons_append]
  apply Choiceless.of_head (by decide)
  apply Orless.cons (fun _ => afterOr?_of_ne_space (by decide) _)
  exact h.orless.append (Orless.of_noSpace (by simp))

/-- A tuple of texts without a choice holds none. -/
theorem choiceless_tuple {ls : List (List Char)} (h : ∀ l ∈ ls, Choiceless l) :
    Choiceless ('(' :: joinWith memberGap ls ++ [')']) := by
  rw [List.cons_append]
  apply Choiceless.of_head (by decide)
  apply Orless.cons (fun _ => afterOr?_of_ne_space (by decide) _)
  cases ls with
  | nil => exact Orless.of_noSpace (l := [')']) (by simp)
  | cons l ls =>
      rw [joinWith_cons, List.append_assoc]
      exact (h l (by simp)).orless.append (orless_members fun m hm => h m (by simp [hm]))

theorem choiceless_dottedName {x : List Char} (hx : isDottedName x = true) : Choiceless x :=
  Choiceless.of_noSpace (ne_nil_of_isDottedName hx) fun _ hc =>
    ne_of_mem_dottedName hx hc (by decide)

/-- A written member is part of the text of its tuple. -/
theorem infix_tuple {es : List TypeTerm} {e : TypeTerm} (he : e ∈ es) :
    e.render <:+: (tuple es).render := by
  have hjoin : e.render <:+: joinWith memberGap (es.map render) :=
    infix_joinWith (List.mem_map_of_mem he)
  rw [render_tuple]
  exact hjoin.trans (List.infix_cons (List.prefix_append _ _).isInfix)

/-- A written expression in which the word does not occur holds no choice. -/
theorem choiceless_render {e : TypeTerm} (h : e.WellFormed) (hor : ¬ orWord <:+: e.render) :
    Choiceless e.render := by
  -- A word in a member would be one in the tuple.
  have htuple : ∀ es : List TypeTerm,
      (∀ e ∈ es, ¬ orWord <:+: e.render → Choiceless e.render) →
      ¬ orWord <:+: (tuple es).render → Choiceless (tuple es).render := by
    intro es hes hnone
    rw [render_tuple]
    apply choiceless_tuple
    intro l hl
    obtain ⟨e, he, rfl⟩ := List.mem_map.1 hl
    exact hes e he fun hin => hnone (hin.trans (infix_tuple he))
  induction h with
  | name hx => exact choiceless_dottedName hx
  | @array e _ ih =>
      have hinner : Choiceless e.render := by
        apply ih
        intro hin
        apply hor
        rw [render]
        exact hin.trans (List.infix_cons (List.prefix_append _ _).isInfix)
      rw [render]
      exact choiceless_brackets hinner
  | tuple _ ih => exact htuple _ ih hor
  | nameOrNone _ | tupleOrNone _ _ _ =>
      rw [render] at hor
      exact absurd ⟨_, noneWord, rfl⟩ hor
  | noneOrName _ | noneOrTuple _ _ =>
      rw [render] at hor
      exact absurd ⟨noneWord, _, rfl⟩ hor

/-! ## Types of written expressions -/

theorem ends_dottedName {x : List Char} (hx : isDottedName x = true) :
    (∀ c ∈ x.head?, c ≠ '[') ∧ ∀ c ∈ x.getLast?, c ≠ ']' :=
  ⟨fun _ hc => ne_of_mem_dottedName hx (List.mem_of_mem_head? hc) (by decide),
    fun _ hc => ne_of_mem_dottedName hx (List.mem_of_mem_getLast? hc) (by decide)⟩

theorem orless_tail_dottedName {x : List Char} (hx : isDottedName x = true) : Orless x.tail :=
  Orless.of_noSpace fun _ hc => ne_of_mem_dottedName hx (List.mem_of_mem_tail hc) (by decide)

theorem ends_tuple (es : List TypeTerm) :
    (∀ c ∈ (tuple es).render.head?, c ≠ '[') ∧ ∀ c ∈ (tuple es).render.getLast?, c ≠ ']' := by
  rw [render_tuple, List.getLast?_append, List.getLast?_singleton]
  constructor <;> (intro c hc; cases hc; decide)

/-- A choice between texts that stand for themselves is split at its "or". -/
theorem outline_choice {a word b : List Char} (ha : SelfContained a) (hword : IsOrWord word)
    (hb : SelfContained b) (horless : Orless a.tail)
    (hpar : parenthesized? (a ++ word ++ b) = none) :
    outline (a ++ word ++ b) = outlineChoice [a] b := by
  have hsplit : splitOr? (a ++ word ++ b) = some (a, b) := by
    obtain ⟨o, r, rfl, ho, hr⟩ := hword
    cases a with
    | nil => exact absurd rfl ha.ne_nil
    | cons c l =>
        rw [List.append_assoc]
        exact splitOr?_eq ho hr horless hb.ne_nil
  have hparts : topLevelParts [','] a = [a] :=
    topLevelParts_uncut (by decide) (by decide) ha.ne_nil ha.trimmed (ha.uncut 0)
  simp only [outline, hpar, hsplit, hparts, hb.trimmed]

/-- What starts with a name is not in parentheses. -/
theorem parenthesized?_dottedName {x : List Char} (hx : isDottedName x = true) (l : List Char) :
    parenthesized? (x ++ l) = none := by
  apply parenthesized?_other
  rw [List.head?_append_of_ne_nil _ (ne_nil_of_isDottedName hx)]
  exact fun c hc => ne_of_mem_dottedName hx (List.mem_of_mem_head? hc) (by decide)

section

variable {classes : ClassPaths} {word absent : List Char} (hword : IsOrWord word)
  (habsent : IsNoneWord absent)
include hword

/-- A choice is a value that may be missing when its form says so. -/
theorem outcome_choice {a b inner : List Char} (ha : SelfContained a) (hb : SelfContained b)
    (horless : Orless a.tail) (hpar : parenthesized? (a ++ word ++ b) = none)
    (hhead : ∀ c ∈ a.head?, c ≠ '[') (hlast : ∀ c ∈ b.getLast?, c ≠ ']')
    (hchoice : outlineChoice [a] b = .nullable inner) {t : ApiType}
    (ht : (typeOfText classes inner).outcome = .ok t) :
    (typeOfText classes (a ++ word ++ b)).outcome = .ok (.nullable t) := by
  have hhead' : ∀ c ∈ (a ++ word ++ b).head?, c ≠ '[' := by
    rwa [List.append_assoc, List.head?_append_of_ne_nil _ ha.ne_nil]
  have hlast' : ∀ c ∈ (a ++ word ++ b).getLast?, c ≠ ']' := by
    rwa [List.getLast?_append_of_ne_nil _ hb.ne_nil]
  rw [outcome_typeOfText_bare (ha.choice hword hb).condensed hhead' hlast',
    outline_choice ha hword hb horless hpar, hchoice, TypeExpr.ofOutline, TypeExpr.resolve,
    Logged.outcome_map_eq_ok_iff]
  exact ⟨t, ht, rfl⟩

include habsent

/-- After "None or" every text that stands for itself is the type of a value that may be missing. -/
theorem outcome_noneOr {b : List Char} (hb : SelfContained b)
    (hlast : ∀ c ∈ b.getLast?, c ≠ ']') {t : ApiType}
    (ht : (typeOfText classes b).outcome = .ok t) :
    (typeOfText classes (absent ++ word ++ b)).outcome = .ok (.nullable t) := by
  have hname := habsent.dottedName
  have hchoice : outlineChoice [absent] b = .nullable b := by
    rw [outlineChoice, if_pos habsent.isNone]
  have hpar : parenthesized? (absent ++ word ++ b) = none := by
    rw [List.append_assoc]
    exact parenthesized?_dottedName hname _
  exact outcome_choice hword (SelfContained.dottedName hname) hb (orless_tail_dottedName hname) hpar
    (ends_dottedName hname).1 hlast hchoice ht

end

section

variable {classes : ClassPaths}

/-- A parenthesis is not how the word for no value starts. -/
theorem isNone_parenthesis (l : List Char) : isNone ('(' :: l) = false := by
  have hlower : ∃ t, lower ('(' :: l) = '(' :: t := by
    rw [lower, lowerFrom, if_neg (by decide)]
    exact ⟨_, rfl⟩
  obtain ⟨t, ht⟩ := hlower
  rw [isNone, ht]
  rfl

/-- A written tuple has the types of its members side by side. -/
theorem outcome_tuple {type : List Char → ApiType} {es : List TypeTerm}
    (hself : ∀ e ∈ es, SelfContained e.render)
    (hes : ∀ e ∈ es, (typeOfText classes e.render).outcome = .ok (e.denote type)) :
    (typeOfText classes (tuple es).render).outcome = .ok ((tuple es).denote type) := by
  have hmem := selfContained_members hself
  have hparts : topLevelParts [','] (joinWith memberGap (es.map render)) = es.map render :=
    topLevelParts_joinWith (by decide) (by decide) (by simp; decide)
      (Uncut.of_plain (by simp [opensLevel, closesLevel])) _
      (fun l hl => (hmem l hl).ne_nil) (fun l hl => (hmem l hl).trimmed)
      (fun l hl => (hmem l hl).uncut 0)
  have houtline : outline (tuple es).render = .tuple (es.map render) := by
    rw [outline, render_tuple, parenthesized?_enclosed (SelfContained.joined hmem).2]
    simp only [hparts]
  rw [outcome_typeOfText_bare (selfContained_tuple hself).condensed (ends_tuple es).1
    (ends_tuple es).2, houtline, TypeExpr.ofOutline, TypeExpr.resolve,
    TypeExpr.resolveAll_eq_mapAll, denote, denoteAll_eq_map, Logged.outcome_map_eq_ok_iff]
  refine ⟨_, ?_, rfl⟩
  rw [Logged.outcome_mapAll_eq_ok_iff, List.map_map, List.forall₂_map_left_iff,
    List.forall₂_map_right_iff, List.forall₂_same]
  exact hes

/-- A written name has the type of the name. -/
theorem outcome_name {x : List Char} (hx : isDottedName x = true) :
    (typeOfText classes x).outcome = (resolveName classes x).outcome := by
  have hpar : parenthesized? x = none := by
    simpa using parenthesized?_dottedName hx []
  have hor : splitOr? x = none :=
    splitOr?_of_noSpace fun _ hc => ne_of_mem_dottedName hx hc (by decide)
  have houtline : outline x = .name := by simp only [outline, hpar, hor, hx, if_true]
  rw [outcome_typeOfText_bare (SelfContained.dottedName hx).condensed (ends_dottedName hx).1
    (ends_dottedName hx).2, houtline]
  rfl

end

section

variable {classes : ClassPaths} {word absent : List Char} (hword : IsOrWord word)
  (habsent : IsNoneWord absent)
include hword habsent

/-- A name or none is a value that may be missing, also when the name is the word for none. -/
theorem outcome_nameOrNone {x : List Char} (hx : isDottedName x = true) {t : ApiType}
    (ht : (resolveName classes x).outcome = .ok t) :
    (typeOfText classes (x ++ word ++ absent)).outcome = .ok (.nullable t) := by
  have hname := habsent.dottedName
  have hpar : parenthesized? (x ++ word ++ absent) = none := by
    rw [List.append_assoc]
    exact parenthesized?_dottedName hx _
  have hread : ∀ {inner : List Char}, outlineChoice [x] absent = .nullable inner →
      (typeOfText classes inner).outcome = .ok t →
      (typeOfText classes (x ++ word ++ absent)).outcome = .ok (.nullable t) :=
    fun hchoice hinner => outcome_choice hword (SelfContained.dottedName hx)
      (SelfContained.dottedName hname) (orless_tail_dottedName hx) hpar
      (ends_dottedName hx).1 (ends_dottedName hname).2 hchoice hinner
  by_cases hnone : isNone x = true
  · -- Both sides are words for no value, and the second one is read.
    have hvoid : (resolveName classes x).outcome = .ok .void :=
      outcome_resolveName_none hx (by simpa [isNone] using hnone)
    rw [ht] at hvoid
    cases hvoid
    apply hread (by rw [outlineChoice, if_pos hnone])
    rw [outcome_name hname]
    exact outcome_resolveName_none hname (by simpa [isNone] using habsent.isNone)
  · apply hread (by rw [outlineChoice, if_neg hnone, if_pos habsent.isNone])
    rw [outcome_name hx, ht]

/-- A tuple without a choice in it, or none, is a value that may be missing. -/
theorem outcome_tupleOrNone {es : List TypeTerm} (hself : ∀ e ∈ es, SelfContained e.render)
    (hfree : Orless (tuple es).render) {t : ApiType}
    (ht : (typeOfText classes (tuple es).render).outcome = .ok t) :
    (typeOfText classes ((tuple es).render ++ word ++ absent)).outcome = .ok (.nullable t) := by
  have hname := habsent.dottedName
  have hpar : parenthesized? ((tuple es).render ++ word ++ absent) = none := by
    rw [render_tuple, List.append_assoc]
    refine parenthesized?_followed
      (SelfContained.joined (selfContained_members hself)).2 ?_
    exact List.append_ne_nil_of_right_ne_nil _ (ne_nil_of_isDottedName hname)
  have hchoice : outlineChoice [(tuple es).render] absent = .nullable (tuple es).render := by
    rw [outlineChoice, if_neg, if_pos habsent.isNone]
    rw [render_tuple, List.cons_append, isNone_parenthesis]
    decide
  exact outcome_choice hword (selfContained_tuple hself) (SelfContained.dottedName hname)
    (fun s hs => hfree s (hs.trans (List.tail_suffix _))) hpar (ends_tuple es).1
    (ends_dottedName hname).2 hchoice ht

end

section

variable {classes : ClassPaths}

/-- Where names have their types, every written expression has the type that it means. -/
theorem outcome_render {type : List Char → ApiType}
    (htype : ∀ x, (resolveName classes x).outcome = .ok (type x)) {e : TypeTerm}
    (h : e.WellFormed) : (typeOfText classes e.render).outcome = .ok (e.denote type) := by
  have hname : ∀ x, isDottedName x = true → (typeOfText classes x).outcome = .ok (type x) :=
    fun x hx => (outcome_name hx).trans (htype x)
  induction h with
  | name hx => exact hname _ hx
  | array he ih => exact outcome_typeOfText_enclosed (selfContained_render he).trimmed ih
  | tuple hes ih => exact outcome_tuple (fun e he => selfContained_render (hes e he)) ih
  | nameOrNone hx => exact outcome_nameOrNone isOrWord_orWord isNoneWord_noneWord hx (htype _)
  | tupleOrNone hes hor ih =>
      -- Without a choice of its own the tuple is not split before its end.
      have hself := fun e he => selfContained_render (hes e he)
      exact outcome_tupleOrNone isOrWord_orWord isNoneWord_noneWord hself
        (choiceless_render (.tuple hes) hor).orless (outcome_tuple hself ih)
  | noneOrName hx =>
      exact outcome_noneOr isOrWord_orWord isNoneWord_noneWord (SelfContained.dottedName hx)
        (ends_dottedName hx).2 (hname _ hx)
  | noneOrTuple hes ih =>
      have hself := fun e he => selfContained_render (hes e he)
      exact outcome_noneOr isOrWord_orWord isNoneWord_noneWord (selfContained_tuple hself)
        (ends_tuple _).2 (outcome_tuple hself ih)

/-- **Written types are read back.** Against a registry that can be read every name has a type, and
the text of every expression has the type that the expression means. -/
theorem typeOfText_render (h : classes.Usable) :
    ∃ type : List Char → ApiType, (∀ x, (resolveName classes x).outcome = .ok (type x)) ∧
      ∀ e : TypeTerm, e.WellFormed →
        (typeOfText classes e.render).outcome = .ok (e.denote type) := by
  choose type htype _ using outcome_resolveName h
  exact ⟨type, htype, fun e he => outcome_render htype he⟩

end

/-- A tuple of an array of views that may be missing, and a choice with arrays of arrays in it. -/
theorem typeOfText_render_view :
    ClassPaths.Usable (Registry.ofList [["sublime", "View"]]) ∧
      (typeOfText (Registry.ofList [["sublime", "View"]])
        "([View or None], None or (int, [[sublime.View]]))".toList).outcome =
          .ok (.tuple [.array (.nullable (.named ["sublime", "View"])),
            .nullable (.tuple [.int, .array (.array (.named ["sublime", "View"]))])]) := by
  have husable : ClassPaths.Usable (Registry.ofList [["sublime", "View"]]) :=
    ⟨rfl, by decide⟩
  refine ⟨husable, ?_⟩
  obtain ⟨type, htype, hread⟩ := typeOfText_render husable
  have hview : type "View".toList = .named ["sublime", "View"] := by
    have h := htype "View".toList
    exact (Except.ok.inj h).symm
  have hfull : type "sublime.View".toList = .named ["sublime", "View"] := by
    have h := htype "sublime.View".toList
    exact (Except.ok.inj h).symm
  have hint : type "int".toList = .int := by
    have h := htype "int".toList
    exact (Except.ok.inj h).symm
  have hwritten := hread (tuple [array (orNone (name "View".toList)),
    noneOr (tuple [name "int".toList, array (array (name "sublime.View".toList))])]) <| by
    have hinner : ∀ e ∈ [name "int".toList, array (array (name "sublime.View".toList))],
        e.WellFormed := by
      rw [List.forall_mem_cons, List.forall_mem_singleton]
      exact ⟨.name (by decide), .array (.array (.name (by decide)))⟩
    apply WellFormed.tuple
    rw [List.forall_mem_cons, List.forall_mem_singleton]
    exact ⟨.array (.nameOrNone (by decide)), .noneOrTuple hinner⟩
  simp only [denote, denoteAll, hview, hfull, hint] at hwritten
  exact hwritten

end TypeTerm

end TypedReference

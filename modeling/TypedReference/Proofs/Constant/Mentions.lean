/-
# Mentioned constants

The path of a constant is mentioned where it stands by itself in a text: no word goes on in front of
it or behind it, and no further word follows it behind a dot. Several paths can stop at the same
place, and the longest of them is the one that is found.
-/
import TypedReference.Proofs.Constant.Chains
import TypedReference.Proofs.Lists
import TypedReference.Proofs.Text.Name

namespace TypedReference.Constant

open Text

/-! ## Paths of constants -/

/-- The words are one or more names and, behind them, the name of a constant. -/
def IsConstantPath (words : List (List Char)) : Prop :=
  ∃ owner name, words = owner ++ [name] ∧ owner ≠ [] ∧ (∀ s ∈ owner, isName s = true) ∧
    isConstantName name = true

/-- What the name of a constant goes on with are word characters. -/
theorem isWord_of_constantChar {c : Char} (h : (c.isUpper || c.isDigit || c == '_') = true) :
    isWord c = true := by
  rw [Bool.or_eq_true, beq_iff_eq] at h
  rcases h with h | rfl
  · have halnum : c.isAlphanum = true := by
      show (c.isUpper || c.isLower || c.isDigit) = true
      rw [Bool.or_right_comm, h, Bool.true_or]
    have hbounds := toNat_bounds_of_isAlphanum halnum
    rw [isWord, if_pos (by omega), halnum, Bool.true_or]
  · decide

/-- The name of a constant is a name. -/
theorem isName_of_isConstantName {name : List Char} (h : isConstantName name = true) :
    isName name = true := by
  cases name with
  | nil => exact h
  | cons c r =>
      rw [isConstantName, Bool.and_eq_true, List.all_eq_true, Bool.or_eq_true] at h
      rw [isName, Bool.and_eq_true, List.all_eq_true]
      refine ⟨?_, fun d hd => isWord_of_constantChar (h.2 d hd)⟩
      rcases h.1 with hc | hc
      · show (c.isUpper || c.isLower || c == '_') = true
        rw [hc, Bool.true_or, Bool.true_or]
      · rw [startsName, hc, Bool.or_true]

namespace IsConstantPath

variable {words : List (List Char)}

theorem isName (h : IsConstantPath words) : ∀ w ∈ words, Text.isName w = true := by
  obtain ⟨owner, name, rfl, -, howner, hname⟩ := h
  rw [List.forall_mem_append, List.forall_mem_singleton]
  exact ⟨howner, isName_of_isConstantName hname⟩

theorem isChain (h : IsConstantPath words) : IsChain words where
  ne_nil := by
    obtain ⟨owner, name, rfl, -⟩ := h
    exact List.concat_ne_nil name owner
  word_ne_nil := by
    rintro w hw rfl
    exact absurd (h.isName [] hw) (by decide)
  isWord w hw := isWord_of_isName (h.isName w hw)

end IsConstantPath

/-! ## The path that a chain mentions -/

/-- The path of a constant stands at the end of a chain. -/
def Ends (chain : List (List Char)) (path : List Char) : Prop :=
  ∃ words, words <:+ chain ∧ IsConstantPath words ∧ path = dotted words

theorem dotted_append {front words : List (List Char)} (hfront : front ≠ []) (hwords : words ≠ []) :
    dotted (front ++ words) = dotted front ++ '.' :: dotted words := by
  induction front with
  | nil => exact absurd rfl hfront
  | cons w front ih =>
      cases front with
      | nil => rw [List.singleton_append, dotted_cons hwords, dotted_singleton]
      | cons p ps =>
          rw [List.cons_append, dotted_cons (by simp), ih (List.cons_ne_nil p ps), dotted_cons_cons,
            List.append_assoc, List.cons_append]

/-- Words at the end make up an end of the text. -/
theorem dotted_behind {words words' : List (List Char)} (h : words <:+ words') :
    dotted words <:+ dotted words' := by
  obtain ⟨front, rfl⟩ := h
  rcases eq_or_ne words [] with rfl | hwords
  · exact List.nil_suffix
  rcases eq_or_ne front [] with rfl | hfront
  · exact List.suffix_rfl
  · rw [dotted_append hfront hwords]
    exact (List.suffix_cons '.' _).trans (List.suffix_append _ _)

theorem Ends.length_le {chain : List (List Char)} {path : List Char} (h : Ends chain path) :
    path.length ≤ (dotted chain).length := by
  obtain ⟨words, hwords, -, rfl⟩ := h
  exact (dotted_behind hwords).length_le

/-- The owner is what of the chain, in front of the last word, consists of names. -/
theorem ofChain?_concat (front : List (List Char)) (name : List Char) :
    ofChain? (front ++ [name]) =
      if isConstantName name && !(front.rtakeWhile isName).isEmpty then
        some (dotted (front.rtakeWhile isName ++ [name])) else none := by
  rw [ofChain?, List.getLast?_concat, List.dropLast_concat]
  rfl

/-- Names at the end of a list belong to the longest end of names. -/
theorem suffix_rtakeWhile {owner front : List (List Char)} (h : owner <:+ front)
    (hnames : ∀ s ∈ owner, isName s = true) : owner <:+ front.rtakeWhile isName := by
  obtain ⟨before, rfl⟩ := h
  have hreverse : ∀ s ∈ owner.reverse, isName s = true :=
    fun s hs => hnames s (List.mem_reverse.1 hs)
  rw [List.rtakeWhile, List.reverse_append, List.takeWhile_append_of_pos hreverse,
    List.reverse_append, List.reverse_reverse]
  exact List.suffix_append _ _

/-- A path at the end of a chain has the last word as its name, and its owner is part of what is
read as the owner. -/
theorem ends_concat_iff {front : List (List Char)} {name path : List Char} :
    Ends (front ++ [name]) path ↔ isConstantName name = true ∧
      ∃ owner, owner <:+ front.rtakeWhile isName ∧ owner ≠ [] ∧ path = dotted (owner ++ [name]) := by
  constructor
  · rintro ⟨words, hsuffix, ⟨owner, last, rfl, hne, howner, hlast⟩, rfl⟩
    obtain ⟨before, hbefore⟩ := hsuffix
    rw [← List.append_assoc] at hbefore
    obtain ⟨rfl, hname⟩ := List.append_inj' hbefore rfl
    cases hname
    exact ⟨hlast, owner, suffix_rtakeWhile (List.suffix_append before owner) howner, hne, rfl⟩
  · rintro ⟨hname, owner, hsuffix, hne, rfl⟩
    obtain ⟨before, hbefore⟩ := hsuffix.trans (List.rtakeWhile_suffix isName front)
    refine ⟨owner ++ [name], ⟨before, ?_⟩, ⟨owner, name, rfl, hne, ?_, hname⟩, rfl⟩
    · rw [← List.append_assoc, hbefore]
    · exact fun s hs => List.mem_rtakeWhile_imp (hsuffix.mem hs)

/-- **The longest path.** A chain mentions the longest of the paths that stand at its end. -/
theorem ofChain?_eq_some_iff {chain : List (List Char)} {path : List Char} :
    ofChain? chain = some path ↔
      Ends chain path ∧ ∀ path', Ends chain path' → path'.length ≤ path.length := by
  rcases List.eq_nil_or_concat chain with rfl | ⟨front, name, rfl⟩
  · constructor
    · exact fun h => absurd h (by simp [ofChain?])
    · rintro ⟨⟨words, hwords, hpath, -⟩, -⟩
      exact absurd (List.suffix_nil.1 hwords) hpath.isChain.ne_nil
  rw [List.concat_eq_append, ofChain?_concat]
  split
  · next hcond =>
    rw [Bool.and_eq_true, Bool.not_eq_true', List.isEmpty_eq_false_iff] at hcond
    have hends : Ends (front ++ [name]) (dotted (front.rtakeWhile isName ++ [name])) :=
      ends_concat_iff.2 ⟨hcond.1, _, List.suffix_rfl, hcond.2, rfl⟩
    -- Every other path at the end of the chain stands at the end of this one.
    have hbehind : ∀ path', Ends (front ++ [name]) path' →
        path' <:+ dotted (front.rtakeWhile isName ++ [name]) := by
      intro path' hpath'
      obtain ⟨-, owner, ⟨before, hbefore⟩, -, rfl⟩ := ends_concat_iff.1 hpath'
      exact dotted_behind ⟨before, by rw [← List.append_assoc, hbefore]⟩
    rw [Option.some.injEq]
    constructor
    · rintro rfl
      exact ⟨hends, fun path' hpath' => (hbehind path' hpath').length_le⟩
    · rintro ⟨hpath, hlongest⟩
      exact ((hbehind path hpath).eq_of_length_le (hlongest _ hends)).symm
  · next hcond =>
    refine ⟨fun h => absurd h (by simp), ?_⟩
    rintro ⟨hends, -⟩
    obtain ⟨hname, owner, howner, hne, -⟩ := ends_concat_iff.1 hends
    refine absurd ?_ hcond
    rw [Bool.and_eq_true, Bool.not_eq_true', List.isEmpty_eq_false_iff]
    exact ⟨hname, howner.ne_nil hne⟩

/-! ## Where a chain is found -/

/-- A text that starts with a word character starts behind a gap that holds none. -/
theorem gap_append_inj {gap chain before rest : List Char} (hgap : ∀ c ∈ gap, isWord c = false)
    (hrest : ∃ c ∈ rest.head?, isWord c = true) (h : gap ++ chain = before ++ rest) :
    ∃ more, before = gap ++ more ∧ chain = more ++ rest := by
  rcases List.append_eq_append_iff.1 h with hfound | ⟨more, rfl, rfl⟩
  · exact hfound
  cases more with
  | nil => exact ⟨[], by simp⟩
  | cons c more =>
      obtain ⟨_, ⟨⟩, hc⟩ := hrest
      rw [hgap c (by simp)] at hc
      exact absurd hc (by decide)

/-- What does not end inside a word goes beyond a word that it starts with. -/
theorem word_append_cut {w r before rest : List Char} (hw : ∀ c ∈ w, isWord c = true)
    (hne : before ≠ []) (hbefore : ∀ c ∈ before.getLast?, isWord c = false)
    (h : w ++ r = before ++ rest) : ∃ more, before = w ++ more ∧ r = more ++ rest := by
  rcases List.append_eq_append_iff.1 h with hfound | ⟨more, rfl, -⟩
  · exact hfound
  have hlast := hbefore _ (List.getLast?_eq_some_getLast hne)
  rw [hw _ (List.mem_append_left _ (List.getLast_mem hne))] at hlast
  exact absurd hlast (by decide)

/-- A chain that is cut off where no word goes on stands at the end of the first chain of a text, or
behind it. -/
theorem chain_or_rest {chain words : List (List Char)} {rest before after : List Char}
    (hchain : IsChain chain) (hwords : IsChain words) (hrest : EndsChain rest)
    (hafter : EndsChain after) (hbefore : ∀ c ∈ before.getLast?, isWord c = false)
    (h : dotted chain ++ rest = before ++ (dotted words ++ after)) :
    (∃ front, chain = front ++ words ∧ after = rest) ∨
      ∃ more, before = dotted chain ++ more ∧ rest = more ++ (dotted words ++ after) := by
  -- The induction is on the words of the first chain; what stands in front grows shorter with it.
  induction chain generalizing before with
  | nil => exact absurd rfl hchain.ne_nil
  | cons w ps ih =>
      rcases eq_or_ne before [] with rfl | hne
      · obtain ⟨rfl, rfl⟩ := hchain.append_inj hwords hrest hafter h
        exact Or.inl ⟨[], rfl, rfl⟩
      have hw := hchain.isWord w List.mem_cons_self
      cases ps with
      | nil =>
          rw [dotted_singleton] at h ⊢
          exact Or.inr (word_append_cut hw hne hbefore h)
      | cons p qs =>
          rw [dotted_cons_cons, List.append_assoc, List.cons_append] at h
          obtain ⟨more, rfl, hmore⟩ := word_append_cut hw hne hbefore h
          cases more with
          | nil =>
              -- A chain starts with no dot.
              obtain ⟨c, hc, hword⟩ := hwords.exists_mem_head? after
              rw [List.nil_append] at hmore
              rw [← hmore] at hc
              cases hc
              exact absurd hword (by decide)
          | cons d more =>
              obtain ⟨rfl, htail⟩ := List.cons.inj hmore
              have hlast : ∀ c ∈ more.getLast?, isWord c = false := by
                intro c hc
                apply hbefore
                rw [List.append_cons]
                exact List.mem_getLast?_append_of_mem_getLast? hc
              rcases ih hchain.tail hlast htail with ⟨front, hfront, hends⟩ | ⟨more', rfl, hmore'⟩
              · exact Or.inl ⟨w :: front, by rw [hfront, List.cons_append], hends⟩
              · refine Or.inr ⟨more', ?_, hmore'⟩
                rw [dotted_cons_cons, List.append_assoc, List.cons_append]

/-! ## Stretches of a text -/

/-- A stretch of a text: the place where it starts, and what it reads. -/
structure Mention where
  /-- The place of the first character. -/
  start : Nat
  /-- The characters. -/
  path : List Char
  deriving DecidableEq, Repr

namespace Mention

/-- The place behind the last character. -/
def stop (m : Mention) : Nat := m.start + m.path.length

/-- The stretch of a text with more in front of it. -/
def shift (n : Nat) (m : Mention) : Mention := { m with start := n + m.start }

/-- The stretch reads the path of a constant, and the text does not go on in front of it or behind
it. -/
def StandsIn (m : Mention) (l : List Char) : Prop :=
  ∃ before after words, l = before ++ (m.path ++ after) ∧ before.length = m.start ∧
    m.path = dotted words ∧ IsConstantPath words ∧ (∀ c ∈ before.getLast?, isWord c = false) ∧
    EndsChain after

/-- The stretch has a property and is the longest of those that have it and stop at the same
place. -/
structure IsLongest (P : Mention → Prop) (m : Mention) : Prop where
  /-- The stretch has the property. -/
  holds : P m
  /-- No stretch with the property and the same end starts earlier. -/
  start_le : ∀ m', P m' → m'.stop = m.stop → m.start ≤ m'.start

/-- The stretch is the longest path of a constant in the text that stops where it does. -/
def IsMaximalIn (m : Mention) (l : List Char) : Prop := m.IsLongest fun m' => m'.StandsIn l

/-- One stretch stops before another one starts. -/
def Before (m m' : Mention) : Prop := m.stop < m'.start

/-- What the stretch reads. -/
def text (m : Mention) : String := String.ofList m.path

/-! ### Places -/

@[simp] theorem path_shift (n : Nat) (m : Mention) : (m.shift n).path = m.path := rfl

@[simp] theorem start_shift (n : Nat) (m : Mention) : (m.shift n).start = n + m.start := rfl

@[simp] theorem stop_shift (n : Nat) (m : Mention) : (m.shift n).stop = n + m.stop :=
  Nat.add_assoc n m.start m.path.length

theorem Before.shift {m m' : Mention} (h : m.Before m') (n : Nat) :
    (m.shift n).Before (m'.shift n) := by
  rw [Before, stop_shift, start_shift]
  exact Nat.add_lt_add_left h n

/-- The stretch that reads a path and stops at a place. -/
def upTo (n : Nat) (path : List Char) : Mention := ⟨n - path.length, path⟩

theorem eq_upTo_iff {m : Mention} {n : Nat} {path : List Char} (h : path.length ≤ n) :
    m = upTo n path ↔ m.stop = n ∧ m.path = path := by
  constructor
  · rintro rfl
    exact ⟨Nat.sub_add_cancel h, rfl⟩
  · rintro ⟨rfl, rfl⟩
    rw [upTo, stop, Nat.add_sub_cancel]

/-! ### Longest stretches -/

/-- Stretches that never stop at the same place do not matter to each other. -/
theorem isLongest_or_iff {P Q : Mention → Prop} (h : ∀ m m', P m → Q m' → m.stop ≠ m'.stop)
    {m : Mention} : m.IsLongest (fun m' => P m' ∨ Q m') ↔ m.IsLongest P ∨ m.IsLongest Q := by
  constructor
  · rintro ⟨hP | hQ, hle⟩
    · exact Or.inl ⟨hP, fun m' hm' => hle m' (Or.inl hm')⟩
    · exact Or.inr ⟨hQ, fun m' hm' => hle m' (Or.inr hm')⟩
  · rintro (⟨hP, hle⟩ | ⟨hQ, hle⟩)
    · refine ⟨Or.inl hP, ?_⟩
      rintro m' (hm' | hm') hstop
      · exact hle m' hm' hstop
      · exact absurd hstop.symm (h m m' hP hm')
    · refine ⟨Or.inr hQ, ?_⟩
      rintro m' (hm' | hm') hstop
      · exact absurd hstop (h m' m hm' hQ)
      · exact hle m' hm' hstop

/-- A longest stretch stays one when all are shifted. -/
theorem isLongest_shift_iff {P : Mention → Prop} {n : Nat} {m : Mention} :
    m.IsLongest (fun m' => ∃ m₀, P m₀ ∧ m₀.shift n = m') ↔
      ∃ m₀ : Mention, m₀.IsLongest P ∧ m₀.shift n = m := by
  constructor
  · rintro ⟨⟨m₀, hm₀, rfl⟩, hle⟩
    refine ⟨m₀, ⟨hm₀, ?_⟩, rfl⟩
    intro m' hm' hstop
    have hshifted := hle (m'.shift n) ⟨m', hm', rfl⟩ (by rw [stop_shift, stop_shift, hstop])
    exact Nat.le_of_add_le_add_left hshifted
  · rintro ⟨m₀, ⟨hm₀, hle⟩, rfl⟩
    refine ⟨⟨m₀, hm₀, rfl⟩, ?_⟩
    rintro _ ⟨m', hm', rfl⟩ hstop
    rw [stop_shift, stop_shift] at hstop
    exact Nat.add_le_add_left (hle m' hm' (Nat.add_left_cancel hstop)) n

/-- Of the stretches that stop at the end of a chain, the longest is what the chain mentions. -/
theorem isLongest_ends_iff {chain : List (List Char)} {n : Nat} (hn : (dotted chain).length ≤ n)
    {m : Mention} : m.IsLongest (fun m' => m'.stop = n ∧ Ends chain m'.path) ↔
      m.stop = n ∧ ofChain? chain = some m.path := by
  rw [ofChain?_eq_some_iff]
  constructor
  · rintro ⟨⟨hstop, hends⟩, hle⟩
    refine ⟨hstop, hends, ?_⟩
    intro path hpath
    -- Another path at the end of the chain does not start earlier.
    have hother := ((eq_upTo_iff (hpath.length_le.trans hn)).1 rfl).1
    have hstart := hle (upTo n path) ⟨hother, hpath⟩ (hother.trans hstop.symm)
    simp only [stop, upTo] at hstop hstart hother
    omega
  · rintro ⟨hstop, hends, hlongest⟩
    refine ⟨⟨hstop, hends⟩, ?_⟩
    rintro m' ⟨-, hends'⟩ hsame
    have hlength := hlongest m'.path hends'
    simp only [stop] at hsame
    omega

/-! ### The first chain and the rest -/

/-- No path of a constant starts where a chain has just ended. -/
theorem StandsIn.start_pos {m : Mention} {l : List Char} (h : m.StandsIn l) (hl : EndsChain l) :
    0 < m.start := by
  obtain ⟨before, after, words, rfl, hstart, hpath, hwords, -⟩ := h
  rw [← hstart, List.length_pos_iff]
  rintro rfl
  obtain ⟨c, hc, hword⟩ := hwords.isChain.exists_mem_head? after
  rw [← hpath] at hc
  rw [hl.word c hc] at hword
  exact absurd hword (by decide)

/-- A text without word characters reads no path of a constant. -/
theorem not_standsIn_gap {m : Mention} {gap : List Char} (hgap : ∀ c ∈ gap, isWord c = false) :
    ¬ m.StandsIn gap := by
  rintro ⟨before, after, words, rfl, -, hpath, hwords, -⟩
  obtain ⟨c, hc, hword⟩ := hwords.isChain.exists_mem_head? after
  rw [← hpath] at hc
  rw [hgap c (List.mem_append_right before (List.mem_of_mem_head? hc))] at hword
  exact absurd hword (by decide)

section

variable {gap rest : List Char} {chain : List (List Char)} {m : Mention}

/-- What stands behind a chain stands in the whole text. -/
theorem StandsIn.behind (h : m.StandsIn rest) (hrest : EndsChain rest) (front : List Char) :
    (m.shift front.length).StandsIn (front ++ rest) := by
  have hpos := h.start_pos hrest
  obtain ⟨before, after, words, rfl, hstart, hpath, hwords, hbefore, hafter⟩ := h
  refine ⟨front ++ before, after, words, ?_, ?_, hpath, hwords, ?_, hafter⟩
  · rw [path_shift, List.append_assoc]
  · rw [List.length_append, hstart, start_shift]
  · have hne : before ≠ [] := List.length_pos_iff.1 (by omega)
    rw [List.getLast?_append_of_ne_nil front hne]
    exact hbefore

variable (hgap : ∀ c ∈ gap, isWord c = false) (hrest : EndsChain rest)
include hgap hrest

/-- What stands at the end of a chain stands in the whole text. -/
theorem standsIn_of_ends (hends : Ends chain m.path) (hstop : m.stop = (gap ++ dotted chain).length) :
    m.StandsIn (gap ++ dotted chain ++ rest) := by
  obtain ⟨words, ⟨front, rfl⟩, hwords, hpath⟩ := hends
  -- In front of the path stands the gap, or a dot.
  obtain ⟨more, hmore, hlast⟩ : ∃ more, dotted (front ++ words) = more ++ dotted words ∧
      ∀ c ∈ (gap ++ more).getLast?, isWord c = false := by
    rcases eq_or_ne front [] with rfl | hfront
    · refine ⟨[], rfl, ?_⟩
      rw [List.append_nil]
      exact fun c hc => hgap c (List.mem_of_mem_getLast? hc)
    · refine ⟨dotted front ++ ['.'], ?_, ?_⟩
      · rw [dotted_append hfront hwords.isChain.ne_nil, List.append_assoc]
        rfl
      · rw [← List.append_assoc, List.getLast?_concat]
        rintro c ⟨⟩
        exact isWord_dot
  refine ⟨gap ++ more, rest, words, ?_, ?_, hpath, hwords, hlast, hrest⟩
  · simp only [hmore, hpath, List.append_assoc]
  · rw [hmore, stop, hpath, ← List.append_assoc, List.length_append] at hstop
    omega

variable (hchain : IsChain chain)
include hchain

/-- The path of a constant stands at the end of the first chain or behind it. -/
theorem standsIn_iff : m.StandsIn (gap ++ dotted chain ++ rest) ↔
    (m.stop = (gap ++ dotted chain).length ∧ Ends chain m.path) ∨
      ∃ m' : Mention, m'.StandsIn rest ∧ m'.shift (gap ++ dotted chain).length = m := by
  constructor
  · rintro ⟨before, after, words, htext, hstart, hpath, hwords, hbefore, hafter⟩
    rw [hpath, List.append_assoc] at htext
    obtain ⟨more, rfl, hmore⟩ :=
      gap_append_inj hgap (hwords.isChain.exists_mem_head? after) htext
    have hlast : ∀ c ∈ more.getLast?, isWord c = false :=
      fun c hc => hbefore c (List.mem_getLast?_append_of_mem_getLast? hc)
    rcases chain_or_rest hchain hwords.isChain hrest hafter hlast hmore with
      ⟨front, rfl, rfl⟩ | ⟨more', rfl, hmore'⟩
    · refine Or.inl ⟨?_, words, List.suffix_append front words, hwords, hpath⟩
      rw [← List.append_assoc] at hmore
      rw [List.append_cancel_right hmore, ← List.append_assoc, List.length_append, hstart, ← hpath,
        stop]
    · refine Or.inr ⟨⟨more'.length, m.path⟩, ?_, ?_⟩
      · refine ⟨more', after, words, by rw [hmore', hpath], rfl, hpath, hwords, ?_, hafter⟩
        exact fun c hc => hlast c (List.mem_getLast?_append_of_mem_getLast? hc)
      · rw [← List.append_assoc, List.length_append] at hstart
        rw [shift, hstart]
  · rintro (⟨hstop, hends⟩ | ⟨m', hm', rfl⟩)
    · exact standsIn_of_ends hgap hrest hends hstop
    · exact hm'.behind hrest (gap ++ dotted chain)

/-- So does a longest one, and at the end of the first chain it is what the chain mentions. -/
theorem isMaximalIn_iff : m.IsMaximalIn (gap ++ dotted chain ++ rest) ↔
    (m.stop = (gap ++ dotted chain).length ∧ ofChain? chain = some m.path) ∨
      ∃ m' : Mention, m'.IsMaximalIn rest ∧ m'.shift (gap ++ dotted chain).length = m := by
  have hchainLength : (dotted chain).length ≤ (gap ++ dotted chain).length := by simp
  simp only [IsMaximalIn, standsIn_iff hgap hrest hchain]
  rw [isLongest_or_iff, isLongest_ends_iff hchainLength, isLongest_shift_iff]
  -- What stands behind the chain stops behind it, too.
  rintro m₁ _ ⟨hstop, -⟩ ⟨m₂, hm₂, rfl⟩ hsame
  have hpos := hm₂.start_pos hrest
  rw [hstop, stop_shift, stop] at hsame
  omega

end

end Mention

/-! ## All mentions of a text -/

/-- The chains of a text mention the longest paths that stand in it, from the front to the back. -/
theorem exists_listing_chains (l : List Char) : ∃ found : List Mention,
    Lists.IsListing Mention.Before (fun m => m.IsMaximalIn l) found ∧
      found.map Mention.path = (chains l).filterMap ofChain? := by
  rcases exists_chain l with hgap | ⟨gap, chain, rest, hl, hgap, hchain, hrest⟩
  · refine ⟨[], ⟨List.Pairwise.nil, ?_⟩, by rw [chains_gap hgap]; rfl⟩
    intro m
    exact ⟨fun h => absurd h List.not_mem_nil,
      fun h => absurd h.holds (Mention.not_standsIn_gap hgap)⟩
  have hlength : rest.length < l.length := by
    obtain ⟨c, r, hhead, -⟩ := hchain.exists_head
    simp only [hl, hhead, List.length_append, List.length_cons]
    omega
  -- What stands behind the first chain is found there, at the places that it has by itself.
  obtain ⟨found, hfound, hpaths⟩ := exists_listing_chains rest
  have hbehind := hfound.map (S := Mention.Before)
    (g := Mention.shift (gap ++ dotted chain).length) fun _ _ h => h.shift _
  have hpaths' : (found.map (Mention.shift (gap ++ dotted chain).length)).map Mention.path =
      (chains rest).filterMap ofChain? := by
    rw [← hpaths, List.map_map]
    rfl
  rw [hl, chains_gap_append hgap, chains_dotted hchain hrest, List.filterMap_cons,
    ← List.append_assoc]
  cases hpath : ofChain? chain with
  | none =>
      refine ⟨_, hbehind.congr ?_, hpaths'⟩
      intro m
      rw [Mention.isMaximalIn_iff hgap hrest hchain, hpath]
      simp
  | some path =>
      have hends : path.length ≤ (gap ++ dotted chain).length := by
        have hle := (ofChain?_eq_some_iff.1 hpath).1.length_le
        rw [List.length_append]
        omega
      have hstop := ((Mention.eq_upTo_iff hends).1 rfl).1
      refine ⟨Mention.upTo (gap ++ dotted chain).length path :: _, (hbehind.cons ?_).congr ?_,
        congrArg (path :: ·) hpaths'⟩
      · -- The first chain ends in front of what stands behind it.
        rintro m ⟨m', hm', rfl⟩
        rw [Mention.Before, hstop, Mention.start_shift]
        exact Nat.lt_add_of_pos_right (hm'.holds.start_pos hrest)
      · intro m
        rw [Mention.isMaximalIn_iff hgap hrest hchain, hpath, Mention.eq_upTo_iff hends,
          Option.some.injEq, eq_comm (a := path)]
termination_by l.length

/-- **What is mentioned.** The constants that are found in a text are the longest paths of constants
that stand in it, from the front to the back. -/
theorem exists_listing_mentions (text : String) : ∃ found : List Mention,
    Lists.IsListing Mention.Before (fun m => m.IsMaximalIn text.toList) found ∧
      found.map Mention.text = mentions text := by
  obtain ⟨found, hfound, hpaths⟩ := exists_listing_chains text.toList
  refine ⟨found, hfound, ?_⟩
  rw [mentions, ← hpaths, List.map_map]
  rfl

/-- A word that is no name ends the owner, and one that is no name of a constant hides the path. -/
example : mentions "9a.b.C, é.A.B; a..b.C_1. x.Y.z x.Y.9" = ["b.C", "A.B", "b.C_1"] := by decide

end TypedReference.Constant

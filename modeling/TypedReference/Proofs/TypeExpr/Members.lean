/-
# Members in parentheses

A text that closes all it opens can be put in parentheses, with others beside it. The parentheses
are then read as a tuple, member by member, whatever blanks stand around the commas.
-/
import TypedReference.Proofs.Text.Gap
import TypedReference.Proofs.TypeExpr.Typing

namespace TypedReference

open Text

/-! ## Closed texts -/

/-- A text that no cut between members falls into and that opens and closes its own parentheses. -/
structure Closed (l : List Char) : Prop where
  /-- No comma in it is outside brackets, at whatever depth it stands. -/
  uncut : ∀ depth, Uncut (fun c => [','] == [c]) depth l
  /-- Every parenthesis in it is paired. -/
  balanced : Balanced l

namespace Closed

theorem append {a b : List Char} (ha : Closed a) (hb : Closed b) : Closed (a ++ b) where
  uncut depth := (ha.uncut depth).append (hb.uncut depth)
  balanced := ha.balanced.append hb.balanced

theorem of_plain {l : List Char}
    (h : ∀ c ∈ l, opensLevel c = false ∧ closesLevel c = false ∧ c ≠ ',') : Closed l where
  uncut depth := Uncut.of_plain fun c hc => by
    obtain ⟨hopen, hclose, hcomma⟩ := h c hc
    exact ⟨hopen, hclose, by simpa using hcomma.symm⟩
  balanced := Balanced.of_noParenthesis fun c hc => by
    obtain ⟨hopen, hclose, -⟩ := h c hc
    constructor
    · rintro rfl
      exact absurd hopen (by decide)
    · rintro rfl
      exact absurd hclose (by decide)

/-- A text of characters of a kind is closed if no bracket and no comma is of that kind. -/
theorem of_kind {kind : Char → Bool}
    (hkind : (['(', '[', '<', ')', ']', '>', ','].all fun d => !kind d) = true) {l : List Char}
    (h : ∀ c ∈ l, kind c = true) : Closed l := by
  apply of_plain
  intro c hc
  have hne : ∀ d ∈ ['(', '[', '<', ')', ']', '>', ','], c ≠ d := by
    rintro d hd rfl
    have hother := List.all_eq_true.1 hkind c hd
    rw [h c hc] at hother
    cases hother
  simp only [List.forall_mem_cons] at hne
  obtain ⟨hparen, hbracket, hangle, hparen', hbracket', hangle', hcomma, -⟩ := hne
  simp [opensLevel, closesLevel, hparen, hbracket, hangle, hparen', hbracket', hangle', hcomma]

theorem of_blank {l : List Char} (h : ∀ c ∈ l, isBlank c = true) : Closed l :=
  of_kind (by decide) h

theorem dottedName {x : List Char} (hx : isDottedName x = true) : Closed x :=
  of_kind (by decide) (isWordOrDot_of_isDottedName hx)

theorem inBrackets {l : List Char} (h : Closed l) : Closed ('[' :: l ++ [']']) where
  uncut depth :=
    Uncut.enclose (by decide) (by decide) (by decide) (by decide) (h.uncut (depth + 1))
  balanced := by
    have hopen : Balanced ('[' :: l) :=
      (Balanced.char (c := '[') (by decide) (by decide)).append h.balanced
    exact hopen.append (Balanced.char (by decide) (by decide))

/-- Between commas with gaps behind them closed texts are cut only outside brackets. -/
theorem joined {ls : List (List Char)} {gap : List Char} (hgap : Closed gap)
    (h : ∀ l ∈ ls, Closed l) :
    (∀ depth, Uncut (fun c => [','] == [c]) (depth + 1) (joinWith (',' :: gap) ls)) ∧
      Balanced (joinWith (',' :: gap) ls) := by
  constructor
  · intro depth
    apply joinWith_induction Uncut.nil (fun _ _ => Uncut.append)
    · exact fun l hl => (h l hl).uncut (depth + 1)
    · intro l hl
      have hcomma : Uncut (fun c => [','] == [c]) (depth + 1) [','] :=
        Uncut.char (by decide) (by decide) (Or.inr (by omega))
      exact (hcomma.append (hgap.uncut (depth + 1))).append ((h l hl).uncut (depth + 1))
  · apply joinWith_induction Balanced.nil (fun _ _ => Balanced.append)
    · exact fun l hl => (h l hl).balanced
    · intro l hl
      have hcomma : Balanced [','] := Balanced.char (by decide) (by decide)
      exact (hcomma.append hgap.balanced).append (h l hl).balanced

theorem inParentheses {body : List Char}
    (huncut : ∀ depth, Uncut (fun c => [','] == [c]) (depth + 1) body) (hbalanced : Balanced body) :
    Closed ('(' :: body ++ [')']) where
  uncut depth := Uncut.enclose (by decide) (by decide) (by decide) (by decide) (huncut depth)
  balanced := hbalanced.enclose

end Closed

/-! ## Reading members -/

namespace TypeExpr

/-- Gaps hide no parenthesis: in front of something else a collapsed text closes what the text
does. -/
theorem closesAtEnd_collapse {rest : List Char} (hrest : rest ≠ []) (l : List Char) (depth : Nat)
    (gap : Bool) : closesAtEnd depth (collapse gap l ++ rest) = closesAtEnd depth (l ++ rest) := by
  have hblank : ∀ {c : Char}, isBlank c = true → ∀ (depth : Nat) (r : List Char),
      closesAtEnd depth (c :: r) = closesAtEnd depth r := by
    intro c hc depth r
    have hopen : c ≠ '(' := ne_of_isBlank hc (by decide)
    have hclose : c ≠ ')' := ne_of_isBlank hc (by decide)
    rw [closesAtEnd, if_neg (by simpa using hopen), if_neg (by simpa using hclose)]
  induction l generalizing depth gap with
  | nil => rfl
  | cons c r ih =>
      rw [collapse]
      by_cases hc : isBlank c = true
      · rw [if_pos hc, ih, List.cons_append, hblank hc]
      · have hnext : closesAtEnd depth (c :: collapse false r ++ rest) =
            closesAtEnd depth (c :: r ++ rest) := by
          have hempty : (collapse false r ++ rest).isEmpty = (r ++ rest).isEmpty := by
            rw [List.isEmpty_eq_false_iff.2 (by simp [hrest]),
              List.isEmpty_eq_false_iff.2 (by simp [hrest])]
          rw [List.cons_append, List.cons_append, closesAtEnd, closesAtEnd, hempty, ih, ih, ih]
        rw [if_neg hc]
        cases gap with
        | false => exact hnext
        | true =>
            rw [if_pos rfl, List.cons_append, hblank (by decide)]
            exact hnext

/-- Texts that are condensed to the same are read alike. -/
theorem map_read_congr {ls ls' : List (List Char)} (h : ls.map condense = ls'.map condense) :
    ls.map read = ls'.map read := by
  have hread : read = read ∘ condense := funext fun l => (read_condense l).symm
  rw [hread, ← List.map_map, h, List.map_map]

/-- In parentheses a text is condensed up to a gap behind it. -/
theorem condense_parenthesized (body : List Char) : ∃ gap, (∀ c ∈ gap, isBlank c = true) ∧
    condense ('(' :: body ++ [')']) = '(' :: (collapse false body ++ gap) ++ [')'] := by
  obtain ⟨gap, hgap, hcollapse⟩ := collapse_concat (c := ')') (by decide) body
  refine ⟨gap, hgap, ?_⟩
  rw [condense, trimStart_eq_self_iff.2 (by simp; decide), List.cons_append, collapse,
    if_neg (by decide), hcollapse]
  rfl

/-- A balanced text in parentheses is read part by part. -/
theorem read_parenthesized {body : List Char} (h : Balanced body) :
    read ('(' :: body ++ [')']) = array 0 (tuple ((topLevelParts [','] body).map read)) := by
  obtain ⟨gap, hgap, hcondense⟩ := condense_parenthesized body
  have hclose : closesAtEnd 1 (collapse false body ++ (gap ++ [')'])) = true := by
    rw [closesAtEnd_collapse (by simp), h 0, (Balanced.of_noParenthesis _) 0]
    · decide
    · intro c hc
      exact ⟨ne_of_isBlank (hgap c hc) (by decide), ne_of_isBlank (hgap c hc) (by decide)⟩
  have hparenthesized : parenthesized? (condense ('(' :: body ++ [')'])) =
      some (collapse false body ++ gap) := by
    rw [hcondense, List.cons_append, parenthesized?, List.append_assoc, hclose,
      ← List.append_assoc, List.dropLast_concat]
    rfl
  have hpeel : peelBrackets (condense ('(' :: body ++ [')'])) =
      .ok ⟨condense ('(' :: body ++ [')']), 0⟩ := by
    apply peelBrackets_bare (trim_condense _)
    · rw [hcondense]
      simp
    · rw [hcondense, List.getLast?_append]
      simp
  have hbody : collapse false (collapse false body ++ gap) = collapse false body := by
    rw [collapse_append_blanks hgap]
    have hsettled := settled_collapse body false []
    rwa [List.append_nil, collapse, List.append_nil] at hsettled
  rw [read_of_peel hpeel, outline, hparenthesized]
  show array 0 (tuple ((topLevelParts [','] (collapse false body ++ gap)).map read)) = _
  rw [map_read_congr (map_condense_topLevelParts (by decide) hbody)]

/-- Closed texts between commas are the parts that are read, whatever blanks stand around them. -/
theorem map_read_joined {gap last : List Char} (hgap : ∀ c ∈ gap, isBlank c = true)
    (hlast : ∀ c ∈ last, isBlank c = true) {ls : List (List Char)} (hclosed : ∀ l ∈ ls, Closed l)
    (hne : ∀ l ∈ ls, trim l ≠ []) :
    (topLevelParts [','] (joinWith (',' :: gap) ls ++ last)).map read = ls.map read := by
  have hend : collapse false (joinWith (',' :: gap) ls ++ last) =
      collapse false (joinWith (',' :: gap) ls) := collapse_append_blanks hlast _ _
  have hparts : topLevelParts [','] (joinWith (',' :: gap) ls) = ls.map trim := by
    cases ls with
    | nil => rfl
    | cons l ls =>
        rw [List.forall_mem_cons] at hclosed
        have hcut : cutTopLevel (fun c => [','] == [c]) 0
            (l ++ ls.flatMap fun p => ',' :: gap ++ p) = l :: ls.map fun p => gap ++ p :=
          cutTopLevel_joined (by decide) (by decide) (by decide) ((Closed.of_blank hgap).uncut 0) l
            ls (hclosed.1.uncut 0) fun p hp => (hclosed.2 p hp).uncut 0
        have hgaps : (ls.map fun p => gap ++ p).map trim = ls.map trim := by
          rw [List.map_map]
          exact List.map_congr_left fun p _ => trim_blanks_append hgap
        rw [joinWith_cons, topLevelParts, hcut, List.map_cons, hgaps, ← List.map_cons,
          List.filter_eq_self, List.forall_mem_map]
        intro p hp
        simpa using hne p hp
  rw [map_read_congr (map_condense_topLevelParts (by decide) hend), hparts]
  apply map_read_congr
  rw [List.map_map]
  exact List.map_congr_left fun l _ => condense_trim l

/-- Closed texts between commas in parentheses are read as a tuple. -/
theorem read_tuple {gap last : List Char} (hgap : ∀ c ∈ gap, isBlank c = true)
    (hlast : ∀ c ∈ last, isBlank c = true) {ls : List (List Char)} (hclosed : ∀ l ∈ ls, Closed l)
    (hne : ∀ l ∈ ls, trim l ≠ []) :
    read ('(' :: (joinWith (',' :: gap) ls ++ last) ++ [')']) = array 0 (tuple (ls.map read)) := by
  have hbalanced := (Closed.joined (Closed.of_blank hgap) hclosed).2
  rw [read_parenthesized (hbalanced.append (Closed.of_blank hlast).balanced),
    map_read_joined hgap hlast hclosed hne]

end TypeExpr

end TypedReference

/-
# Where a call stands

A call opens a text when a name, as long as word characters and dots go on, is followed by a
parenthesis, with nothing but blanks between, and a closing parenthesis stands somewhere behind it.
The call of a text is the one that stands at the first place where one does. Its name is read up to
the last dot, and its arguments stand between commas.
-/
import TypedReference.Proofs.Text.Name
import TypedReference.Proofs.Text.Split
import TypedReference.Signature

namespace TypedReference

open Text

/-! ## The last occurrence of a character -/

theorem beforeLast?_eq_none_iff {stop : Char} {l : List Char} :
    beforeLast? stop l = none ↔ stop ∉ l := by
  induction l with
  | nil => simp [beforeLast?]
  | cons c r ih =>
      rw [beforeLast?, List.mem_cons, not_or, ← ih]
      cases hr : beforeLast? stop r with
      | some before => simp
      | none =>
          by_cases hc : c = stop
          · simp [hc]
          · simp [hc, Ne.symm hc]

/-- What stands before the last occurrence is followed by it and by a text without the character. -/
theorem beforeLast?_eq_some_iff {stop : Char} {l before : List Char} :
    beforeLast? stop l = some before ↔ ∃ after, l = before ++ stop :: after ∧ stop ∉ after := by
  induction l generalizing before with
  | nil => simp [beforeLast?]
  | cons c r ih =>
      rw [beforeLast?]
      constructor
      · intro h
        cases hr : beforeLast? stop r with
        | some b =>
            rw [hr] at h
            cases h
            obtain ⟨after, rfl, hafter⟩ := ih.1 hr
            exact ⟨after, rfl, hafter⟩
        | none =>
            -- The character itself is the last occurrence.
            rw [hr] at h
            simp only [beq_iff_eq] at h
            split at h
            · next hc =>
              cases h
              exact ⟨r, by rw [hc, List.nil_append], beforeLast?_eq_none_iff.1 hr⟩
            · cases h
      · rintro ⟨after, heq, hafter⟩
        cases before with
        | nil =>
            cases heq
            rw [beforeLast?_eq_none_iff.2 hafter]
            simp
        | cons d b =>
            cases heq
            rw [ih.2 ⟨after, rfl, hafter⟩]

namespace Call

/-! ## Calls at a place -/

/-- A call stands at the front of a text. -/
structure Opens (call : Call) (l : List Char) : Prop where
  /-- A name can start there. -/
  starts : ∃ c ∈ l.head?, startsName c = true
  /-- The name goes on as far as it can. -/
  name : call.name = l.takeWhile isWordOrDot
  /-- Behind the name the arguments stand in parentheses, up to the last closing one. -/
  inner : ∃ gap after, l.dropWhile isWordOrDot = gap ++ '(' :: (call.inner ++ ')' :: after) ∧
    (∀ c ∈ gap, isBlank c = true) ∧ ')' ∉ after

/-- A call is the first one of a text: it stands at a place, and none stands before. -/
structure FirstAt (call : Call) (l : List Char) (i : Nat) : Prop where
  /-- The call stands at the place. -/
  opens : call.Opens (l.drop i)
  /-- No call stands before. -/
  first : ∀ j < i, ∀ other : Call, ¬ other.Opens (l.drop j)

theorem not_opens_nil (call : Call) : ¬ call.Opens [] := by
  intro h
  obtain ⟨c, hc, -⟩ := h.starts
  cases hc

/-- Dropping blanks in front of a character that is none. -/
theorem dropWhile_isBlank_eq_cons_iff {l rest : List Char} {c : Char} (hc : isBlank c = false) :
    l.dropWhile isBlank = c :: rest ↔
      ∃ gap, l = gap ++ c :: rest ∧ ∀ d ∈ gap, isBlank d = true := by
  constructor
  · intro h
    refine ⟨l.takeWhile isBlank, ?_, fun d hd => List.mem_takeWhile_imp hd⟩
    rw [← h, List.takeWhile_append_dropWhile]
  · rintro ⟨gap, rfl, hgap⟩
    rw [List.dropWhile_append_of_pos hgap, List.dropWhile_cons_of_neg (by simp [hc])]

/-- The call that is looked for at the very start is the one that stands there. -/
theorem atStart?_eq_some_iff {l : List Char} {call : Call} :
    atStart? l = some call ↔ call.Opens l := by
  cases l with
  | nil => exact iff_of_false (by simp [atStart?]) (not_opens_nil call)
  | cons c r =>
      rw [atStart?]
      by_cases hc : startsName c = true
      · have hword : isWordOrDot c = true := by simp [isWordOrDot, isWord_of_startsName hc]
        have htake : (c :: r).takeWhile isWordOrDot = c :: r.takeWhile isWordOrDot :=
          List.takeWhile_cons_of_pos hword
        have hdrop : (c :: r).dropWhile isWordOrDot = r.dropWhile isWordOrDot :=
          List.dropWhile_cons_of_pos hword
        rw [if_pos hc]
        constructor
        · intro h
          split at h
          · next rest hrest =>
            obtain ⟨before, hbefore, rfl⟩ := Option.map_eq_some_iff.1 h
            obtain ⟨gap, hgap, hblank⟩ := (dropWhile_isBlank_eq_cons_iff (by decide)).1 hrest
            obtain ⟨after, rfl, hafter⟩ := beforeLast?_eq_some_iff.1 hbefore
            exact ⟨⟨c, rfl, hc⟩, htake.symm, gap, after, hdrop.trans hgap, hblank, hafter⟩
          · cases h
        · rintro ⟨-, hname, gap, after, hinner, hblank, hafter⟩
          rw [hdrop] at hinner
          rw [(dropWhile_isBlank_eq_cons_iff (by decide)).2 ⟨gap, hinner, hblank⟩]
          simp only
          rw [beforeLast?_eq_some_iff.2 ⟨after, rfl, hafter⟩, Option.map_some, ← htake, ← hname]
      · rw [if_neg hc]
        refine iff_of_false (by simp) fun h => hc ?_
        obtain ⟨d, hd, hstarts⟩ := h.starts
        cases hd
        exact hstarts

/-- No call is found where none stands at any place. -/
theorem find?_eq_none_iff {l : List Char} :
    find? l = none ↔ ∀ i, ∀ call : Call, ¬ call.Opens (l.drop i) := by
  induction l with
  | nil =>
      refine iff_of_true rfl fun i call => ?_
      rw [List.drop_nil]
      exact not_opens_nil call
  | cons c r ih =>
      rw [find?]
      cases hstart : atStart? (c :: r) with
      | some call =>
          refine iff_of_false (by simp) fun h => h 0 call ?_
          exact atStart?_eq_some_iff.1 hstart
      | none =>
          refine ih.trans ⟨?_, fun h i call => h (i + 1) call⟩
          intro h i call
          cases i with
          | zero =>
              rw [List.drop_zero, ← atStart?_eq_some_iff, hstart]
              simp
          | succ i => exact h i call

/-- **The call of a text.** The call that is found is the first one. -/
theorem find?_eq_some_iff {l : List Char} {call : Call} :
    find? l = some call ↔ ∃ i, call.FirstAt l i := by
  induction l with
  | nil =>
      refine iff_of_false (by simp [find?]) ?_
      rintro ⟨i, h, -⟩
      rw [List.drop_nil] at h
      exact not_opens_nil call h
  | cons c r ih =>
      rw [find?]
      cases hstart : atStart? (c :: r) with
      | some other =>
          have hother := atStart?_eq_some_iff.1 hstart
          simp only [Option.some.injEq]
          constructor
          · rintro rfl
            exact ⟨0, hother, fun j hj => absurd hj (Nat.not_lt_zero j)⟩
          · rintro ⟨i, h, hfirst⟩
            -- A call that stands here leaves no later one to be the first.
            cases i with
            | zero => exact Option.some.inj (hstart.symm.trans (atStart?_eq_some_iff.2 h))
            | succ i => exact absurd hother (hfirst 0 (Nat.succ_pos i) other)
      | none =>
          simp only
          have hhere : ∀ other : Call, ¬ other.Opens (c :: r) := by
            intro other hother
            rw [← atStart?_eq_some_iff, hstart] at hother
            cases hother
          rw [ih]
          constructor
          · rintro ⟨i, h, hfirst⟩
            refine ⟨i + 1, h, ?_⟩
            intro j hj other
            cases j with
            | zero => exact hhere other
            | succ j => exact hfirst j (by omega) other
          · rintro ⟨i, h, hfirst⟩
            cases i with
            | zero => exact absurd h (hhere call)
            | succ i => exact ⟨i, h, fun j hj => hfirst (j + 1) (by omega)⟩

/-! ## The parts of a call -/

/-- The last part of the name is its end without dots. -/
theorem lastName_eq (call : Call) : call.lastName = call.name.rtakeWhile (· != '.') := by
  rw [lastName, getLast?_splitOn, Option.getD_some]

/-- The texts between the commas of the arguments. Blanks alone are no argument. -/
def pieces (call : Call) : List (List Char) :=
  if call.inner.all isBlank then [] else call.inner.splitOn ','

/-- Blanks hold no comma. -/
theorem comma_not_mem_of_blank {l : List Char} (h : ∀ c ∈ l, isBlank c = true) : ',' ∉ l :=
  fun hmem => absurd (h _ hmem) (by decide)

/-- What is read as arguments are the trimmed pieces. -/
theorem tokens_eq (call : Call) : call.tokens = call.pieces.map trim := by
  have hblank : (call.inner.splitOn ',').map trim = [[]] ↔ call.inner.all isBlank = true := by
    rw [List.all_eq_true]
    constructor
    · intro h
      -- A single part is the whole text.
      have hcomma : ',' ∉ call.inner := by
        intro hmem
        have hlength := congrArg List.length h
        have hcount := List.count_pos_iff.2 hmem
        rw [List.length_map, length_splitOn, List.length_singleton] at hlength
        omega
      rw [List.splitOn_eq_singleton hcomma, List.map_singleton, List.singleton_inj] at h
      exact trim_eq_nil_iff.1 h
    · intro h
      rw [List.splitOn_eq_singleton (comma_not_mem_of_blank h), List.map_singleton,
        trim_eq_nil_iff.2 h]
  simp only [tokens, hblank, pieces]
  split <;> rfl

end Call

end TypedReference

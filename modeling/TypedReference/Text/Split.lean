/-
# Splitting texts

Where the library's `List.splitOn` cuts a text at every occurrence of a character, `topLevelParts`
cuts it only outside brackets, trims the parts and drops the empty ones.
-/
import TypedReference.Text.Blank

namespace TypedReference.Text

variable {α : Type}

/-- Puts an element in front of the first part. -/
def consFirst (a : α) : List (List α) → List (List α)
  | [] => [[a]]
  | part :: parts => (a :: part) :: parts

/-- The parts with a separating text between neighbours. -/
def joinWith (sep : List Char) (parts : List (List Char)) : List Char := sep.intercalate parts

/-! ## Nesting -/

/-- The characters that open a level of nesting. -/
def opensLevel (c : Char) : Bool := c == '(' || c == '[' || c == '<'

/-- The characters that close a level of nesting. -/
def closesLevel (c : Char) : Bool := c == ')' || c == ']' || c == '>'

/-- The depth after a character. Brackets are not told apart by kind, and a closing one that
nothing opened is passed over. -/
def depthAfter (depth : Nat) (c : Char) : Nat :=
  if opensLevel c then depth + 1 else if closesLevel c then depth - 1 else depth

/-- The parts between the separators that stand at depth zero, starting from a given depth. A
separator that is itself a bracket counts for the depth first. -/
def cutTopLevel (isSep : Char → Bool) (depth : Nat) : List Char → List (List Char)
  | [] => [[]]
  | c :: r =>
    let d := depthAfter depth c
    if isSep c && d == 0 then [] :: cutTopLevel isSep d r
    else consFirst c (cutTopLevel isSep d r)

/-- The trimmed non-empty parts of a text between separators outside brackets. Only a separator of
one character is ever met. -/
def topLevelParts (sep : List Char) (l : List Char) : List (List Char) :=
  ((cutTopLevel (fun c => sep == [c]) 0 l).map trim).filter (fun part => !part.isEmpty)

/-! ## The parts are no longer than the whole -/

theorem length_le_of_mem_consFirst {a : α} {parts : List (List α)} {n : Nat}
    (h : ∀ part ∈ parts, part.length ≤ n) : ∀ part ∈ consFirst a parts, part.length ≤ n + 1 := by
  cases parts with
  | nil => simp [consFirst]
  | cons first parts =>
    intro part hpart
    simp only [consFirst, List.mem_cons] at hpart
    rcases hpart with rfl | hpart
    · have := h first (by simp)
      simp only [List.length_cons]
      omega
    · have := h part (by simp [hpart])
      omega

theorem length_le_of_mem_cutTopLevel {isSep : Char → Bool} {l part : List Char} {depth : Nat}
    (h : part ∈ cutTopLevel isSep depth l) : part.length ≤ l.length := by
  induction l generalizing depth part with
  | nil => simp_all [cutTopLevel]
  | cons c r ih =>
    simp only [cutTopLevel] at h
    split at h
    · rcases List.mem_cons.1 h with rfl | h
      · simp
      · exact Nat.le_succ_of_le (ih h)
    · exact length_le_of_mem_consFirst (fun _ hp => ih hp) part h

theorem length_le_of_mem_topLevelParts {sep l part : List Char}
    (h : part ∈ topLevelParts sep l) : part.length ≤ l.length := by
  simp only [topLevelParts, List.mem_filter, List.mem_map] at h
  obtain ⟨⟨piece, hpiece, rfl⟩, -⟩ := h
  exact Nat.le_trans (length_trim_le piece) (length_le_of_mem_cutTopLevel hpiece)

end TypedReference.Text

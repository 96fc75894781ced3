/-
# Blanks

Which characters count as blank, and the two ways of tidying them: `trim` takes them off the ends
of a text, and `condense` also makes every inner run of them one space.
-/

namespace TypedReference.Text

/-- A blank separates words: the controls from tab to carriage return and from file separator to
unit separator, the space, and the space and line separators beyond ASCII. -/
def isBlank (c : Char) : Bool :=
  let n := c.toNat
  (9 ≤ n && n ≤ 13) || (28 ≤ n && n ≤ 32) || n == 0x85 || n == 0xA0 || n == 0x1680 ||
    (0x2000 ≤ n && n ≤ 0x200A) || n == 0x2028 || n == 0x2029 || n == 0x202F || n == 0x205F ||
    n == 0x3000

/-! ## The ends of a text -/

/-- The text without the blanks it starts with. -/
def trimStart (l : List Char) : List Char := l.dropWhile isBlank

/-- The text without the blanks it ends with. -/
def trimEnd (l : List Char) : List Char := (l.reverse.dropWhile isBlank).reverse

/-- The text without the blanks at either end. -/
def trim (l : List Char) : List Char := trimEnd (trimStart l)

theorem length_trim_le (l : List Char) : (trim l).length ≤ l.length := by
  have h₁ := (l.dropWhile_sublist isBlank).length_le
  have h₂ := ((l.dropWhile isBlank).reverse.dropWhile_sublist isBlank).length_le
  simp only [List.length_reverse] at h₂
  simp only [trim, trimEnd, trimStart, List.length_reverse]
  omega

/-! ## Runs of blanks -/

/-- Writes one space for each run of blanks that text follows; `gap` says that such a run has just
been read. A run at the very end is dropped, since nothing follows it. -/
def collapse (gap : Bool) : List Char → List Char
  | [] => []
  | c :: r =>
    if isBlank c then collapse true r
    else if gap then ' ' :: c :: collapse false r
    else c :: collapse false r

/-- The words of a text with one space between neighbours and none at the ends. -/
def condense (l : List Char) : List Char := collapse false (trimStart l)

/-- Every space that is written stands for at least one blank that was read. -/
theorem length_collapse_le (l : List Char) :
    (collapse false l).length ≤ l.length ∧ (collapse true l).length ≤ l.length + 1 := by
  induction l with
  | nil => simp [collapse]
  | cons c r ih =>
    by_cases hc : isBlank c <;> simp [collapse, hc] <;> omega

theorem length_condense_le (l : List Char) : (condense l).length ≤ l.length := by
  have h₁ := (length_collapse_le (trimStart l)).1
  have h₂ := (l.dropWhile_sublist isBlank).length_le
  simp only [condense, trimStart] at *
  omega

/-- The text with every blank taken out. -/
def withoutBlanks (l : List Char) : List Char := l.filter (fun c => !isBlank c)

end TypedReference.Text

/-
# Tables as Markdown

The rows of a table can be read off its lines. A line is read at the pipes that have no backslash
right in front of them; in a cell every pipe has one, and a backslash at the end of a cell has a
space behind it.
-/
import TypedReference.Markdown
import TypedReference.Proofs.Text.Split

namespace TypedReference.Markdown

open Text

/-! ## Reading a line -/

/-- The parts of a line between the pipes that have no backslash right in front of them; the flag
says that one stands in front of the line. -/
def pipeParts (behindBackslash : Bool) : List Char → List (List Char)
  | [] => [[]]
  | c :: r =>
    if c == '|' && !behindBackslash then [] :: pipeParts false r
    else consFirst c (pipeParts (c == '\\') r)

/-- A text without the space it starts with, if it does. -/
def withoutSpace : List Char → List Char
  | ' ' :: r => r
  | l => l

/-- A text without a space on either side. -/
def withoutSpaces (l : List Char) : List Char := (withoutSpace (withoutSpace l).reverse).reverse

/-- A text with plain pipes in place of those behind a backslash. -/
def unescaped : List Char → List Char
  | [] => []
  | '\\' :: '|' :: r => '|' :: unescaped r
  | c :: r => c :: unescaped r

/-- The cells of a line, if nothing stands in front of its first pipe and behind its last one. -/
def cellsOfLine? (l : List Char) : Option (List String) :=
  match pipeParts false l with
  | [] :: parts =>
    if parts.getLast? = some [] then
      some (parts.dropLast.map fun part => String.ofList (unescaped (withoutSpaces part)))
    else none
  | _ => none

/-! ## Cells -/

/-- The characters of a cell with a backslash in front of each pipe. -/
def escapedChars (l : List Char) : List Char :=
  l.flatMap fun c => if c == '|' then ['\\', '|'] else [c]

theorem escapedChars_pipe (l : List Char) :
    escapedChars ('|' :: l) = '\\' :: '|' :: escapedChars l := rfl

theorem escapedChars_cons {c : Char} (hc : c ≠ '|') (l : List Char) :
    escapedChars (c :: l) = c :: escapedChars l := by
  have hbeq : (c == '|') = false := by simpa using hc
  rw [escapedChars, List.flatMap_cons, hbeq]
  rfl

/-- No bare pipe stands in front of an escaped cell. -/
theorem escapedChars_ne_pipe (l r : List Char) : escapedChars l ≠ '|' :: r := by
  intro h
  cases l with
  | nil => cases h
  | cons c l =>
      by_cases hc : c = '|'
      · rw [hc, escapedChars_pipe] at h
        exact absurd (List.cons.inj h).1 (by decide)
      · rw [escapedChars_cons hc] at h
        exact hc (List.cons.inj h).1

/-- Pipes are read back as they were. -/
theorem unescaped_escapedChars (l : List Char) : unescaped (escapedChars l) = l := by
  induction l with
  | nil => rfl
  | cons c l ih =>
      by_cases hc : c = '|'
      · rw [hc, escapedChars_pipe, unescaped, ih]
      · rw [escapedChars_cons hc]
        have hread : unescaped (c :: escapedChars l) = c :: unescaped (escapedChars l) := by
          -- Behind a backslash of its own a cell never goes on with a bare pipe.
          rw [unescaped]
          intro r _ hr
          exact escapedChars_ne_pipe l r hr
        rw [hread, ih]

/-- At a character that is no pipe a line goes on. -/
theorem pipeParts_cons {c : Char} (hc : c ≠ '|') (behindBackslash : Bool) (r : List Char) :
    pipeParts behindBackslash (c :: r) = consFirst c (pipeParts (c == '\\') r) := by
  have hbeq : (c == '|') = false := by simpa using hc
  rw [pipeParts, hbeq, Bool.false_and, if_neg Bool.false_ne_true]

/-- No pipe of an escaped cell ends it. -/
theorem pipeParts_escapedChars (l rest : List Char) (behindBackslash : Bool) :
    pipeParts behindBackslash (escapedChars l ++ ' ' :: rest) =
      (escapedChars l).foldr consFirst (consFirst ' ' (pipeParts false rest)) := by
  induction l generalizing behindBackslash with
  | nil => exact pipeParts_cons (by decide) _ _
  | cons c l ih =>
      by_cases hc : c = '|'
      · have hpipe : pipeParts true ('|' :: (escapedChars l ++ ' ' :: rest)) =
            consFirst '|' (pipeParts false (escapedChars l ++ ' ' :: rest)) := by
          rw [pipeParts, Bool.not_true, Bool.and_false, if_neg Bool.false_ne_true]
          rfl
        rw [hc, escapedChars_pipe, List.cons_append, List.cons_append,
          pipeParts_cons (by decide), beq_self_eq_true, hpipe, ih]
        rfl
      · rw [escapedChars_cons hc, List.cons_append, pipeParts_cons hc, ih]
        rfl

theorem withoutSpaces_around (l : List Char) : withoutSpaces (' ' :: l ++ [' ']) = l := by
  rw [withoutSpaces, List.cons_append, withoutSpace, List.reverse_append]
  exact List.reverse_reverse l

/-! ## Lines -/

/-- A line is a pipe, and for each cell the cell between spaces and a pipe. -/
theorem toList_line {cells : List String} (hne : cells ≠ []) : (line cells).toList =
    '|' :: cells.flatMap fun x => ' ' :: x.toList ++ [' ', '|'] := by
  have hjoin : ∀ (x : String) (xs : List String),
      ' ' :: joinWith [' ', '|', ' '] (x.toList :: xs.map String.toList) ++ [' ', '|'] =
        (x :: xs).flatMap fun y => ' ' :: y.toList ++ [' ', '|'] := by
    intro x xs
    induction xs generalizing x with
    | nil =>
        rw [List.map_nil, joinWith_cons]
        simp
    | cons next xs ih =>
        rw [List.flatMap_cons, ← ih next, joinWith_cons, List.map_cons, List.flatMap_cons,
          joinWith_cons]
        simp
  cases cells with
  | nil => exact absurd rfl hne
  | cons x xs =>
      have hline : (line (x :: xs)).toList = '|' ::
          (' ' :: joinWith [' ', '|', ' '] (x.toList :: xs.map String.toList) ++ [' ', '|']) := by
        rw [line, String.toList_append, String.toList_append, String.toList_intercalate]
        rfl
      rw [hline, hjoin]

/-- A cell between spaces ends at the pipe behind it. -/
theorem pipeParts_cell (l rest : List Char) :
    pipeParts false (' ' :: escapedChars l ++ [' ', '|'] ++ rest) =
      (' ' :: escapedChars l ++ [' ']) :: pipeParts false rest := by
  have hshape : ' ' :: escapedChars l ++ [' ', '|'] ++ rest =
      ' ' :: (escapedChars l ++ ' ' :: '|' :: rest) := by simp
  have hend : pipeParts false ('|' :: rest) = [] :: pipeParts false rest := rfl
  rw [hshape, pipeParts_cons (by decide), pipeParts_escapedChars, hend, consFirst,
    foldr_consFirst, consFirst]
  rfl

theorem pipeParts_cells (cells : List String) :
    pipeParts false (cells.flatMap fun x => ' ' :: escapedChars x.toList ++ [' ', '|']) =
      cells.map (fun x => ' ' :: escapedChars x.toList ++ [' ']) ++ [[]] := by
  induction cells with
  | nil => rfl
  | cons x cells ih =>
      rw [List.flatMap_cons, pipeParts_cell, ih, List.map_cons]
      rfl

/-- The cells of a line are read back. -/
theorem cellsOfLine?_line {cells : List String} (hne : cells ≠ []) :
    cellsOfLine? (line (cells.map escaped)).toList = some cells := by
  have htext : (line (cells.map escaped)).toList =
      '|' :: cells.flatMap fun x => ' ' :: escapedChars x.toList ++ [' ', '|'] := by
    rw [toList_line (by simpa using hne), List.flatMap_map]
    simp only [escaped, String.toList_ofList]
    rfl
  have hparts : pipeParts false (line (cells.map escaped)).toList =
      [] :: (cells.map (fun x => ' ' :: escapedChars x.toList ++ [' ']) ++ [[]]) := by
    rw [htext, ← pipeParts_cells]
    rfl
  have hcell : ∀ x : String,
      String.ofList (unescaped (withoutSpaces (' ' :: escapedChars x.toList ++ [' ']))) = x := by
    intro x
    rw [withoutSpaces_around, unescaped_escapedChars, String.ofList_toList]
  rw [cellsOfLine?, hparts]
  simp only [List.getLast?_concat, if_true, List.dropLast_concat, List.map_map]
  congr 1
  conv_rhs => rw [← List.map_id cells]
  exact List.map_congr_left fun x _ => hcell x

/-! ## Tables -/

/-- A row is written with as many cells as there are headers, and those that it lacks are empty. -/
theorem fitted_eq {width : Nat} (hwidth : width ≠ 0) (row : List String) :
    fitted width row = (List.range width).map (cell row) := by
  rw [fitted, if_neg hwidth]
  apply List.ext_getElem
  · simp only [List.length_append, List.length_take, List.length_replicate, List.length_map,
      List.length_range]
    omega
  · intro i hi hi'
    have hbound : i < width := by simpa using hi'
    rw [List.getElem_map, List.getElem_range, cell, List.getElem_append]
    split
    · next htake =>
      have hrow : i < row.length := by
        rw [List.length_take] at htake
        omega
      rw [List.getElem_take, List.getD_eq_getElem?_getD, List.getElem?_eq_getElem hrow]
      rfl
    · next htake =>
      have hrow : row.length ≤ i := by
        rw [List.length_take] at htake
        omega
      rw [List.getElem_replicate, List.getD_eq_getElem?_getD, List.getElem?_eq_none hrow]
      rfl

/-- A table with headers starts with them and a line below them. -/
theorem tableLines_eq {t : Table} (hcolumns : t.columns ≠ []) :
    tableLines t = line t.columns :: line (t.columns.map fun _ => "---") ::
      t.rows.map fun row => line ((fitted t.columns.length row).map escaped) := by
  have hempty : t.columns.isEmpty = false := by simpa using hcolumns
  rw [tableLines, hempty]
  rfl

/-- The signs that tables are drawn with. -/
def signs : List Char := [' ', '|', '-', '\\']

/-- Line breaks, among which none is a sign that tables are drawn with. -/
structure EndsLines (isBreak : Char → Bool) : Prop where
  /-- A new line is a line break. -/
  newline : isBreak '\n' = true
  /-- The signs of tables are none. -/
  sign : ∀ c ∈ signs, isBreak c = false

/-- The new line alone is a line break. -/
theorem endsLines_newline : EndsLines (· == '\n') where
  newline := by decide
  sign := by simp [signs]

/-- A text has no line break in it. -/
def OneLine (isBreak : Char → Bool) (s : String) : Prop := ∀ c ∈ s.toList, isBreak c = false

/-- No text of a table has a line break in it. -/
structure Unbroken (isBreak : Char → Bool) (t : Table) : Prop where
  /-- Every header stands on one line. -/
  columns : ∀ header ∈ t.columns, OneLine isBreak header
  /-- So does every cell. -/
  rows : ∀ row ∈ t.rows, ∀ x ∈ row, OneLine isBreak x

section

variable {isBreak : Char → Bool} (h : EndsLines isBreak)
include h

/-- What consists of signs has no line break in it. -/
theorem isBreak_of_signs {l : List Char} (hl : l.all signs.contains = true) :
    ∀ c ∈ l, isBreak c = false :=
  fun c hc => h.sign c (List.contains_iff_mem.1 (List.all_eq_true.1 hl c hc))

/-- Cells without line breaks make a line without one. -/
theorem oneLine_line {cells : List String} (hcells : ∀ x ∈ cells, OneLine isBreak x) :
    OneLine isBreak (line cells) := by
  have hparts : ∀ l ∈ cells.map String.toList, ∀ c ∈ l, isBreak c = false :=
    List.forall_mem_map.2 hcells
  have hjoin : ∀ c ∈ joinWith " | ".toList (cells.map String.toList), isBreak c = false := by
    apply joinWith_induction (P := fun l => ∀ c ∈ l, isBreak c = false)
    · simp
    · exact fun a b ha hb => List.forall_mem_append.2 ⟨ha, hb⟩
    · exact hparts
    · exact fun l hl => List.forall_mem_append.2 ⟨isBreak_of_signs h rfl, hparts l hl⟩
  rw [OneLine, line, String.toList_append, String.toList_append, String.toList_intercalate,
    List.forall_mem_append, List.forall_mem_append]
  exact ⟨⟨isBreak_of_signs h rfl, hjoin⟩, isBreak_of_signs h rfl⟩

/-- A backslash is no line break. -/
theorem oneLine_escaped {s : String} (hs : OneLine isBreak s) : OneLine isBreak (escaped s) := by
  intro c hc
  rw [escaped, String.toList_ofList, List.mem_flatMap] at hc
  obtain ⟨d, hd, hc⟩ := hc
  split at hc
  · exact isBreak_of_signs h rfl c hc
  · rw [List.mem_singleton] at hc
    rw [hc]
    exact hs d hd

/-- What a table is made of are lines. -/
theorem oneLine_tableLines {t : Table} (hcells : Unbroken isBreak t) :
    ∀ s ∈ tableLines t, OneLine isBreak s := by
  have hrule : ∀ x ∈ t.columns.map fun _ => "---", OneLine isBreak x := by
    rw [List.forall_mem_map]
    intro _ _
    exact isBreak_of_signs h rfl
  have hfitted : ∀ row ∈ t.rows, ∀ x ∈ fitted t.columns.length row, OneLine isBreak x := by
    intro row hrow x hx
    rw [fitted] at hx
    split at hx
    · exact hcells.rows row hrow x hx
    · rcases List.mem_append.1 hx with hx | hx
      · exact hcells.rows row hrow x (List.mem_of_mem_take hx)
      · rw [List.eq_of_mem_replicate hx]
        simp [OneLine]
  rw [tableLines, List.forall_mem_append, List.forall_mem_map]
  constructor
  · split
    · simp
    · rw [List.forall_mem_cons, List.forall_mem_singleton]
      exact ⟨oneLine_line h hcells.columns, oneLine_line h hrule⟩
  · intro row hrow
    apply oneLine_line h
    rw [List.forall_mem_map]
    exact fun x hx => oneLine_escaped h (hfitted row hrow x hx)

/-- The lines of a table are those that it is made of. -/
theorem splitOnP_table {t : Table} (hcolumns : t.columns ≠ []) (hcells : Unbroken isBreak t) :
    (table t).toList.splitOnP isBreak = (tableLines t).map String.toList := by
  have hne : (tableLines t).map String.toList ≠ [] := by
    rw [tableLines_eq hcolumns]
    simp
  rw [table, String.toList_intercalate]
  exact splitOnP_joinWith h.newline hne (List.forall_mem_map.2 (oneLine_tableLines h hcells))

/-- **Rows survive.** A table with headers and without line breaks is written in two lines and one
more for each row, whatever else its texts hold. Read at the pipes that have no backslash in front
of them, the line of a row has as many cells as there are headers: those of the row, and empty ones
where the row is shorter. -/
theorem lines_table {t : Table} (hcolumns : t.columns ≠ []) (hcells : Unbroken isBreak t) :
    ((table t).toList.splitOnP isBreak).length = 2 + t.rows.length ∧
      (((table t).toList.splitOnP isBreak).drop 2).map cellsOfLine? =
        t.rows.map fun row => some ((List.range t.columns.length).map (cell row)) := by
  have hwidth : t.columns.length ≠ 0 := by simpa using hcolumns
  have hread : ∀ row, cellsOfLine? (line ((fitted t.columns.length row).map escaped)).toList =
      some ((List.range t.columns.length).map (cell row)) := by
    intro row
    rw [fitted_eq hwidth, cellsOfLine?_line (by simpa using hcolumns)]
  rw [splitOnP_table h hcolumns hcells, tableLines_eq hcolumns]
  constructor
  · simp only [List.map_cons, List.length_cons, List.length_map]
    omega
  · simp only [List.map_cons, List.drop_succ_cons, List.drop_zero, List.map_map]
    exact List.map_congr_left fun row _ => hread row

end

/-- A header with a pipe in it, a row that is too long with a pipe and a backslash at the end of a
cell, and a row that is too short with a pipe behind a backslash. -/
def pipeTable : Table where
  columns := ["a|b", "c"]
  rows := [["x|y\\", " z ", "more"], ["\\|"]]

theorem lines_table_pipes :
    EndsLines (· == '\n') ∧ pipeTable.columns ≠ [] ∧ Unbroken (· == '\n') pipeTable ∧
      table pipeTable = "| a|b | c |\n| --- | --- |\n| x\\|y\\ |  z  |\n| \\\\| |  |" ∧
      ((table pipeTable).toList.splitOnP (· == '\n')).length = 4 ∧
      (((table pipeTable).toList.splitOnP (· == '\n')).drop 2).map cellsOfLine? =
        [some ["x|y\\", " z "], some ["\\|", ""]] := by
  have hcolumns : pipeTable.columns ≠ [] := by decide
  have hcells : Unbroken (· == '\n') pipeTable :=
    ⟨by simp [pipeTable, OneLine], by simp [pipeTable, OneLine]⟩
  exact ⟨endsLines_newline, hcolumns, hcells, rfl, lines_table endsLines_newline hcolumns hcells⟩

end TypedReference.Markdown

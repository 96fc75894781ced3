/-
# Widths of tables

How many cells the lines of a table have. The pipes of a cell are written behind backslashes, so the
line of a row has as many cells as there are headers, and so has the line below the headers. Headers
are written as they are: each pipe in them that has no backslash in front of it makes one more cell
of their line, and a table is rectangular exactly when no header has such a pipe.
-/
import Mathlib.Algebra.GroupWithZero.Nat
import TypedReference.Proofs.Markdown

namespace TypedReference.Markdown

open Text

/-! ## Bare pipes -/

/-- The number of pipes that have no backslash right in front of them; the flag says that one stands
in front of the text. -/
def barePipes (behindBackslash : Bool) : List Char → Nat
  | [] => 0
  | c :: r => (if c == '|' && !behindBackslash then 1 else 0) + barePipes (c == '\\') r

/-- A pipe with no backslash right in front of it stands in the text. -/
def HasBarePipe (l : List Char) : Prop :=
  ∃ before after, l = before ++ '|' :: after ∧ before.getLast? ≠ some '\\'

/-- Behind a backslash the first character counts for nothing if it is a pipe. -/
theorem barePipes_ne_zero_iff (behindBackslash : Bool) (l : List Char) :
    barePipes behindBackslash l ≠ 0 ↔
      ∃ before after, l = before ++ '|' :: after ∧
        (before = [] → behindBackslash = false) ∧ before.getLast? ≠ some '\\' := by
  induction l generalizing behindBackslash with
  | nil => simp [barePipes]
  | cons c r ih =>
      have hsum : barePipes behindBackslash (c :: r) ≠ 0 ↔
          (c = '|' ∧ behindBackslash = false) ∨ barePipes (c == '\\') r ≠ 0 := by
        rw [barePipes]
        by_cases hc : c = '|' <;> cases behindBackslash <;> simp [hc]
      rw [hsum, ih]
      constructor
      · rintro (⟨rfl, hflag⟩ | ⟨before, after, rfl, hfirst, hlast⟩)
        · exact ⟨[], r, rfl, fun _ => hflag, by simp⟩
        · refine ⟨c :: before, after, rfl, by simp, ?_⟩
          cases before with
          | nil => simpa using hfirst rfl
          | cons d before => rwa [List.getLast?_cons_cons]
      · rintro ⟨before, after, heq, hfirst, hlast⟩
        cases before with
        | nil =>
            cases heq
            exact Or.inl ⟨rfl, hfirst rfl⟩
        | cons d before =>
            cases heq
            right
            refine ⟨before, after, rfl, ?_, ?_⟩
            · rintro rfl
              simpa using hlast
            · intro hback
              rw [List.getLast?_cons, hback] at hlast
              exact hlast rfl

/-- No pipe is counted where none is bare. -/
theorem barePipes_eq_zero_iff {l : List Char} : barePipes false l = 0 ↔ ¬ HasBarePipe l := by
  rw [← not_iff_not, not_not, ← ne_eq, barePipes_ne_zero_iff]
  simp [HasBarePipe]

/-- In a cell every pipe has a backslash in front of it. -/
theorem barePipes_escapedChars (behindBackslash : Bool) (l : List Char) :
    barePipes behindBackslash (escapedChars l) = 0 := by
  induction l generalizing behindBackslash with
  | nil => rfl
  | cons c l ih =>
      by_cases hc : c = '|'
      · rw [hc, escapedChars_pipe, barePipes, barePipes, ih]
        simp
      · rw [escapedChars_cons hc, barePipes, ih]
        simp [hc]

/-! ## Lines -/

/-- The number of cells of a line, if nothing stands in front of its first pipe and behind its last
one. -/
def width? (l : List Char) : Option Nat := (cellsOfLine? l).map List.length

/-- A text between a pipe and a space makes one part, and one more for each bare pipe in it. -/
theorem exists_pipeParts (behindBackslash : Bool) (l rest : List Char) :
    ∃ parts, parts.length = barePipes behindBackslash l + 1 ∧
      pipeParts behindBackslash (l ++ ' ' :: '|' :: rest) = parts ++ pipeParts false rest := by
  induction l generalizing behindBackslash with
  | nil => exact ⟨[[' ']], rfl, rfl⟩
  | cons c l ih =>
      obtain ⟨parts, hlength, hparts⟩ := ih (c == '\\')
      have hne : parts ≠ [] := by
        rintro rfl
        cases hlength
      by_cases hbare : (c == '|' && !behindBackslash) = true
      · have hc : c = '|' := by
          rw [Bool.and_eq_true] at hbare
          exact eq_of_beq hbare.1
        refine ⟨[] :: parts, ?_, ?_⟩
        · rw [barePipes, if_pos hbare, List.length_cons, hlength]
          omega
        · rw [List.cons_append, pipeParts, if_pos hbare, List.cons_append, ← hparts, hc]
          rfl
      · refine ⟨consFirst c parts, ?_, ?_⟩
        · rw [barePipes, if_neg hbare, length_consFirst c hne, hlength]
          omega
        · rw [List.cons_append, pipeParts, if_neg hbare, hparts, consFirst_append c hne]

/-- Cells between spaces and pipes make one part each, and one more for each bare pipe in them. -/
theorem exists_pipeParts_cells (cells : List String) :
    ∃ parts, parts.length = cells.length + (cells.map fun x => barePipes false x.toList).sum ∧
      pipeParts false (cells.flatMap fun x => ' ' :: x.toList ++ [' ', '|']) = parts ++ [[]] := by
  induction cells with
  | nil => exact ⟨[], rfl, rfl⟩
  | cons x cells ih =>
      obtain ⟨parts, hlength, hparts⟩ := ih
      obtain ⟨first, hfirst, hsplit⟩ := exists_pipeParts false (' ' :: x.toList)
        (cells.flatMap fun y => ' ' :: y.toList ++ [' ', '|'])
      refine ⟨first ++ parts, ?_, ?_⟩
      · have hspace : barePipes false (' ' :: x.toList) = barePipes false x.toList := by
          rw [barePipes]
          simp
        rw [List.length_append, hfirst, hlength, hspace, List.length_cons, List.map_cons,
          List.sum_cons]
        omega
      · have hshape : ' ' :: x.toList ++ [' ', '|'] ++
            (cells.flatMap fun y => ' ' :: y.toList ++ [' ', '|']) =
              ' ' :: x.toList ++ ' ' :: '|' ::
                cells.flatMap fun y => ' ' :: y.toList ++ [' ', '|'] := by simp
        rw [List.flatMap_cons, hshape, hsplit, hparts, List.append_assoc]

/-- A line has its cells, and one more for each bare pipe in them. -/
theorem width?_line {cells : List String} (hne : cells ≠ []) : width? (line cells).toList =
    some (cells.length + (cells.map fun x => barePipes false x.toList).sum) := by
  obtain ⟨parts, hlength, hparts⟩ := exists_pipeParts_cells cells
  have hline : pipeParts false (line cells).toList = [] :: (parts ++ [[]]) := by
    rw [toList_line hne, ← hparts]
    rfl
  rw [width?, cellsOfLine?, hline]
  simp [hlength]

/-- Together cells have no bare pipes exactly when none of them has one. -/
theorem sum_barePipes_eq_zero_iff {cells : List String} :
    (cells.map fun x => barePipes false x.toList).sum = 0 ↔
      ∀ x ∈ cells, ¬ HasBarePipe x.toList := by
  rw [List.sum_eq_zero_iff_forall_eq_nat, List.forall_mem_map]
  simp only [barePipes_eq_zero_iff]

/-- A line of cells without bare pipes has as many cells as it is made of. -/
theorem width?_line_of_eq_zero {cells : List String} (hne : cells ≠ [])
    (h : ∀ x ∈ cells, barePipes false x.toList = 0) :
    width? (line cells).toList = some cells.length := by
  have hsum : (cells.map fun x => barePipes false x.toList).sum = 0 := by
    rw [List.sum_eq_zero_iff_forall_eq_nat, List.forall_mem_map]
    exact h
  rw [width?_line hne, hsum, Nat.add_zero]

/-- The line of a row is as wide as the table, whatever the row is. -/
theorem width?_row {n : Nat} (hn : n ≠ 0) (row : List String) :
    width? (line ((fitted n row).map escaped)).toList = some n := by
  have hlength : (fitted n row).length = n := by
    rw [fitted_eq hn, List.length_map, List.length_range]
  rw [width?_line_of_eq_zero, List.length_map, hlength]
  · rw [← List.length_pos_iff, List.length_map, hlength]
    exact Nat.pos_of_ne_zero hn
  · rw [List.forall_mem_map]
    intro x _
    rw [escaped, String.toList_ofList]
    exact barePipes_escapedChars false x.toList

/-! ## Tables -/

section

variable {isBreak : Char → Bool} (h : EndsLines isBreak)
include h

/-- **Rectangular tables.** Below its headers a table with headers and without line breaks has as
many cells in each line as there are headers. The line of the headers has one more for each pipe in
them that has no backslash in front of it, so all lines have the same number of cells exactly when
no header has such a pipe. -/
theorem widths_table {t : Table} (hcolumns : t.columns ≠ []) (hcells : Unbroken isBreak t) :
    ((table t).toList.splitOnP isBreak).map width? =
        some (t.columns.length + (t.columns.map fun header => barePipes false header.toList).sum) ::
          List.replicate (1 + t.rows.length) (some t.columns.length) ∧
      ((∀ l ∈ (table t).toList.splitOnP isBreak, width? l = some t.columns.length) ↔
        ∀ header ∈ t.columns, ¬ HasBarePipe header.toList) := by
  have hwidth : t.columns.length ≠ 0 := by simpa using hcolumns
  have hrule : width? (line (t.columns.map fun _ => "---")).toList = some t.columns.length := by
    rw [width?_line_of_eq_zero (by simpa using hcolumns), List.length_map]
    rw [List.forall_mem_map]
    exact fun _ _ => rfl
  have hwidths : ((table t).toList.splitOnP isBreak).map width? =
      some (t.columns.length + (t.columns.map fun header => barePipes false header.toList).sum) ::
        List.replicate (1 + t.rows.length) (some t.columns.length) := by
    have hrows : (t.rows.map fun row =>
        width? (line ((fitted t.columns.length row).map escaped)).toList) =
          List.replicate t.rows.length (some t.columns.length) := by
      rw [List.eq_replicate_iff, List.length_map, List.forall_mem_map]
      exact ⟨rfl, fun row _ => width?_row hwidth row⟩
    rw [splitOnP_table h hcolumns hcells, tableLines_eq hcolumns, Nat.add_comm 1,
      List.replicate_succ, ← hrows, ← hrule, ← width?_line hcolumns]
    simp only [List.map_cons, List.map_map, Function.comp_def]
  refine ⟨hwidths, ?_⟩
  -- All lines but the first one are as wide as the table, so the headers alone decide.
  rw [← sum_barePipes_eq_zero_iff,
    ← List.forall_mem_map (P := fun w => w = some t.columns.length), hwidths,
    List.forall_mem_cons, Option.some.injEq, Nat.add_eq_left, and_iff_left_iff_imp]
  intro _ w hw
  exact List.eq_of_mem_replicate hw

end

/-- A header with a pipe behind a backslash, a row that is too long with a pipe in it, and a row
without cells. -/
def evenTable : Table where
  columns := ["a\\|b", "c"]
  rows := [["x|y", "z", "more"], []]

theorem widths_table_even :
    EndsLines (· == '\n') ∧ evenTable.columns ≠ [] ∧ Unbroken (· == '\n') evenTable ∧
      table evenTable = "| a\\|b | c |\n| --- | --- |\n| x\\|y | z |\n|  |  |" ∧
      (∀ l ∈ (table evenTable).toList.splitOnP (· == '\n'), width? l = some 2) ∧
      ((table evenTable).toList.splitOnP (· == '\n')).map width? =
        [some 2, some 2, some 2, some 2] := by
  have hcolumns : evenTable.columns ≠ [] := by decide
  have hcells : Unbroken (· == '\n') evenTable :=
    ⟨by simp [evenTable, OneLine], by simp [evenTable, OneLine]⟩
  obtain ⟨hwidths, heven⟩ := widths_table endsLines_newline hcolumns hcells
  refine ⟨endsLines_newline, hcolumns, hcells, rfl, heven.2 ?_, hwidths⟩
  intro header hheader
  rw [← barePipes_eq_zero_iff]
  revert header
  decide

/-- A header with a pipe in it, and a row with one cell. -/
def pipeHeader : Table where
  columns := ["a|b"]
  rows := [["x"]]

/-- A header is not escaped as a cell is, so its line can be wider than the other ones. -/
theorem not_rectangular_pipeHeader :
    pipeHeader.columns ≠ [] ∧ Unbroken (· == '\n') pipeHeader ∧
      table pipeHeader = "| a|b |\n| --- |\n| x |" ∧
      ((table pipeHeader).toList.splitOnP (· == '\n')).map width? = [some 2, some 1, some 1] ∧
      ¬ ∀ l ∈ (table pipeHeader).toList.splitOnP (· == '\n'),
        width? l = some pipeHeader.columns.length := by
  refine ⟨by decide, ⟨by simp [pipeHeader, OneLine], by simp [pipeHeader, OneLine]⟩, rfl, rfl, ?_⟩
  intro hall
  have hfirst : width? "| a|b |".toList = some 1 := hall _ (List.mem_of_mem_head? rfl)
  exact absurd hfirst (by decide)

end TypedReference.Markdown

/-
# Sections as Markdown

A readable dump of the sections of a page: a heading for each section, and its tables with a header
row. Pipes inside cells are escaped; headers are written as they are.
-/
import TypedReference.Section
import TypedReference.Text.Blank

namespace TypedReference.Markdown

open Text

/-- A line of cells between pipes. -/
def line (cells : List String) : String := "| " ++ " | ".intercalate cells ++ " |"

/-- A cell with a backslash in front of each pipe. -/
def escaped (s : String) : String :=
  String.ofList (s.toList.flatMap fun c => if c == '|' then ['\\', '|'] else [c])

/-- The cells of a row cut off or filled up to a width. Without a header a row has no width. -/
def fitted (width : Nat) (row : List String) : List String :=
  if width = 0 then row else row.take width ++ List.replicate (width - row.length) ""

/-- The lines of a table: header, separator and rows. -/
def tableLines (t : Table) : List String :=
  let header :=
    if t.columns.isEmpty then [] else [line t.columns, line (t.columns.map fun _ => "---")]
  header ++ t.rows.map fun row => line ((fitted t.columns.length row).map escaped)

/-- A table; one without header and rows is empty text. -/
def table (t : Table) : String := "\n".intercalate (tableLines t)

/-- A text without the blanks it ends with. -/
def trimmedEnd (s : String) : String := String.ofList (trimEnd s.toList)

/-- The heading of a section, one to six levels deep. -/
def heading (level : Int) (s : Section) : String :=
  String.ofList (List.replicate (max 1 (min level 6)).toNat '#') ++ " " ++ s.dottedName ++ " " ++
    s.kind.word

/-- The lines for a table with its number in a section. -/
def numberedTable (t : Table) (number : Nat) : List String :=
  let body := table t
  ["**Table " ++ toString number ++ "**", "", if body.isEmpty then "_<empty table>_" else body, ""]

/-- A section under a heading. -/
def sectionText (level : Int) (s : Section) : String :=
  trimmedEnd <| "\n".intercalate <|
    [heading level s, ""] ++ (s.tables.zipIdx 1).flatMap fun (t, i) => numberedTable t i

/-- All sections of a page. -/
def sections : List Section → String
  | [] => "_No sections found._\n"
  | all =>
    String.ofList (trim ("\n\n".intercalate (all.map (sectionText 2))).toList) ++ "\n"

end TypedReference.Markdown

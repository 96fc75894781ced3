/-
# Sections of a reference page

A page documents classes and modules. Each has a section: its kind, its dotted path, and the tables
that follow its title.
-/
import TypedReference.Text.Case

namespace TypedReference

/-- What a section documents. -/
inductive SectionKind where
  /-- A class. -/
  | «class»
  /-- A module. -/
  | module
  deriving DecidableEq, Repr, Inhabited

namespace SectionKind

/-- The word that ends the title of a section. -/
def word : SectionKind → String
  | «class» => "Class"
  | module => "Module"

/-- The kind with a given title word. -/
def ofWord? (w : String) : Option SectionKind :=
  if w = "Class" then some «class» else if w = "Module" then some module else none

end SectionKind

/-! ## Tables -/

/-- A table of texts. Rows may be shorter or longer than the header. -/
structure Table where
  /-- The column headers. -/
  columns : List String
  /-- The rows below the header. -/
  rows : List (List String)
  deriving DecidableEq, Repr, Inhabited

namespace Table

/-- The lower case form of a column header. -/
def lowered (s : String) : String := String.ofList (Text.lower s.toList)

/-- The position of the first column whose header is the lower case form of a name. -/
def columnIndex? (t : Table) (name : String) : Option Nat := t.columns.idxOf? (lowered name)

/-- The cells of a column, from the rows that are long enough to have one. -/
def columnValues (t : Table) (name : String) : List String :=
  match t.columnIndex? name with
  | none => []
  | some i => t.rows.filterMap (·[i]?)

end Table

/-- The cell at a position of a row, empty beyond its end. -/
def cell (row : List String) (i : Nat) : String := row.getD i ""

/-! ## Sections -/

/-- A documented class or module with its tables. -/
structure Section where
  /-- Whether it is a class or a module. -/
  kind : SectionKind
  /-- The segments of the dotted path. -/
  path : List String
  /-- The tables that follow the title. -/
  tables : List Table
  /-- A title names at least one segment. -/
  path_ne_nil : path ≠ []

namespace Section

/-- The section with the given parts, unless the path is empty. -/
def ofParts? (kind : SectionKind) (path : List String) (tables : List Table) : Option Section :=
  if h : path ≠ [] then some ⟨kind, path, tables, h⟩ else none

/-- The path with dots between its segments. -/
def dottedName (s : Section) : String := ".".intercalate s.path

/-- The last segment of the path. -/
def lastSegment (s : Section) : String := s.path.getLast s.path_ne_nil

/-- The package and the name of the declaration made from a section. A class stands in the package
that its path names; a module becomes a package and, with a capital, a name in it. -/
def identity (s : Section) : List String × String :=
  match s.kind with
  | .class => (s.path.dropLast, s.lastSegment)
  | .module => (s.path, String.ofList (Text.capitalized s.lastSegment.toList))

end Section

end TypedReference

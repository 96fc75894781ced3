/-
# Sections of a page

A section begins with a title such as `sublime.View Class` and has the tables among the following
siblings of the title, up to the next title or boundary.
-/
import TypedReference.Conventions
import TypedReference.Event
import TypedReference.Markup.Node
import TypedReference.Text.Blank

namespace TypedReference.Page

open Markup Text

/-! ## Tables -/

/-- The text of a cell, with its blanks condensed. -/
def cellText (e : Element) : String := String.ofList (condense e.text)

/-- The cells of a row, whether they are for headers or for data. -/
def cells (row : Element) : List Element := row.below ["th", "td"]

/-- The table of an element. Its first row is the header; without any cells in it there is no
table. Rows of inner tables count for the outer one as well. -/
def table? (e : Element) : Option Table :=
  match e.below ["tr"] with
  | [] => none
  | header :: rows =>
    let columns := (cells header).map fun c => Table.lowered (cellText c)
    if columns.isEmpty then none
    else some { columns, rows := rows.map fun row => (cells row).map cellText }

/-- The elements among sibling nodes. -/
def siblingElements (nodes : List Node) : List Element :=
  nodes.filterMap fun
    | .element name children => some ⟨name, children⟩
    | _ => none

/-- The name as it is compared with boundaries. -/
def loweredName (name : String) : String := String.ofList (lower name.toList)

/-- An element after which nothing belongs to the section any more. -/
def isBoundary (cfg : Conventions) (e : Element) : Bool :=
  let name := loweredName e.name
  name == loweredName cfg.titleTag || (cfg.boundaryTags.map loweredName).contains name

/-- The table elements among the siblings that follow a title, up to the first boundary. -/
def tableElements (cfg : Conventions) (following : List Node) : List Element :=
  ((siblingElements following).takeWhile fun e => !isBoundary cfg e).filter
    fun e => loweredName e.name == "table"

/-! ## Titles -/

/-- What a title says: a dotted path of names, and the word for a class or a module. -/
structure Title where
  /-- Whether it is a class or a module. -/
  kind : SectionKind
  /-- The segments of the path. -/
  path : List String
  /-- A title names at least one segment. -/
  path_ne_nil : path ≠ []

/-- Reads a title whose blanks are condensed. -/
def Title.ofText? (l : List Char) : Option Title :=
  match l.splitOn ' ' with
  | [name, word] =>
    match SectionKind.ofWord? (String.ofList word) with
    | none => none
    | some kind =>
      if (name.splitOn '.').all isName then
        some {
          kind, path := (name.splitOn '.').map String.ofList
          path_ne_nil := by simp }
      else none
  | _ => none

/-! ## Sections -/

/-- What comes of a title: events, and a section if the title can be read. -/
structure Reading where
  /-- What is reported. -/
  events : List Event
  /-- The section, if there is one. -/
  made? : Option Section

/-- Reads the section that begins with a title and goes on with the siblings after it. -/
def readSection (cfg : Conventions) (title : Element) (following : List Node) : Reading :=
  let text := condense title.text
  match Title.ofText? text with
  | none => ⟨[.unparsableTitle (String.ofList text)], none⟩
  | some ⟨kind, path, path_ne_nil⟩ =>
    let found := (tableElements cfg following).map table?
    let s : Section := { kind, path, tables := found.filterMap id, path_ne_nil }
    ⟨(found.filter Option.isNone).map (fun _ => .headerlessTable) ++
      [.sectionRead s.dottedName kind s.tables.length], some s⟩

/-- Reads the sections of a tree in document order. -/
def readings (cfg : Conventions) (tree : List Node) : List Reading :=
  ((Node.locatedAll tree).filter fun (e, _) => e.name == cfg.titleTag).map
    fun (e, following) => readSection cfg e following

/-- The sections of a tree, in document order. -/
def sections (cfg : Conventions) (tree : List Node) : List Section :=
  (readings cfg tree).filterMap Reading.made?

/-- What reading the sections of a tree reports. -/
def events (cfg : Conventions) (tree : List Node) : List Event :=
  (readings cfg tree).flatMap Reading.events

end TypedReference.Page

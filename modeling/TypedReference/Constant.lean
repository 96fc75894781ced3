/-
# Constants

Descriptions mention constants by dotted paths such as `sublime.DIALOG_CANCEL`. `mentions` finds
these paths in a text, and `owner` says which declaration a constant belongs to.
-/
import TypedReference.Registry
import TypedReference.Text.Split

namespace TypedReference.Constant

open Text

/-! ## Mentions in running text -/

/-- The dotted chains of a text: words with single dots between them, as long as they can be. -/
def chains (l : List Char) : List (List (List Char)) :=
  let pieces := l.splitOnP fun c => !isWordOrDot c
  (pieces.flatMap fun piece => (piece.splitOn '.').splitOnP List.isEmpty).filter
    fun chain => !chain.isEmpty

/-- The constant that a chain mentions: its last word is the name, and the words in front of it,
as far back as they are names, are the owner. -/
def ofChain? (chain : List (List Char)) : Option (List Char) :=
  match chain.getLast? with
  | none => none
  | some name =>
    let owner := (chain.dropLast.reverse.takeWhile isName).reverse
    if isConstantName name && !owner.isEmpty then some (joinWith ['.'] (owner ++ [name])) else none

/-- The paths of the constants that a text mentions, in order. -/
def mentions (text : String) : List String :=
  ((chains text.toList).filterMap ofChain?).map String.ofList

/-! ## Owners -/

/-- The path of the declaration that owns a constant, and the name of the constant. The segment in
front of the name is a class if it starts with a capital; otherwise it is a module, whose
declaration has the capitalized name and lies in the package of the same path. -/
def owner (path : String) : Except AssemblyFault (List String × String) :=
  let segments := path.toList.splitOn '.'
  let front := segments.dropLast
  match front.getLast?, segments.getLast? with
  | some parent, some name =>
    let ownerPath := if startsUpper parent then front else front ++ [capitalized parent]
    .ok (ownerPath.map String.ofList, String.ofList name)
  | _, _ => .error .ownerlessConstant

end TypedReference.Constant

namespace TypedReference.ConstantPaths

/-- The constants that a table mentions in its first column of descriptions. -/
def ofTable (t : Table) : List String :=
  (t.columnValues "description").flatMap Constant.mentions

/-- The frozen registry of the constants that the sections mention, each at its first mention. -/
def ofSections (sections : List Section) : ConstantPaths :=
  .ofPaths (sections.flatMap fun s => s.tables.flatMap ofTable)

end TypedReference.ConstantPaths

/-
# The tree of a page

Tokens form a tree of elements. A tag that opens makes a child of the innermost open element; a tag
that closes ends everything up to the innermost open element of its name, and is passed over when
there is none. Nothing else opens or closes an element. Void elements hold nothing: they are
finished as soon as they are met, so that a tag that closes one never finds it open.
-/
import TypedReference.Markup.Token

namespace TypedReference.Markup

/-- A part of a page. -/
inductive Node where
  /-- Text, with the innermost element around it that keeps its text to itself. -/
  | text (keeper : Option String) (content : List Char)
  /-- The text of a marked section, which no element keeps to itself. -/
  | marked (content : List Char)
  /-- An element with its children. -/
  | element (name : String) (children : List Node)
  deriving Inhabited

/-- An element apart from the nodes it stands among. -/
structure Element where
  /-- The lower case name. -/
  name : String
  /-- What it holds. -/
  children : List Node

/-! ## Building the tree -/

/-- The elements that hold nothing and close at once. -/
def voidElements : List String := [
  "area", "base", "br", "col", "embed", "hr", "img", "input", "keygen", "link", "menuitem", "meta",
  "param", "source", "track", "wbr", "basefont", "bgsound", "command", "frame", "image", "isindex",
  "nextid", "spacer"]

/-- The elements that keep their text to themselves: it is not part of the text around them. -/
def keepers : List String := ["rt", "rp", "style", "script", "template"]

/-- The elements in which blanks are kept as they are. -/
def blankKeepers : List String := ["pre", "textarea"]

/-- The state of building: the finished nodes at the top and, innermost first, the open elements
with their finished children. Nodes stand in reverse order. -/
structure Builder where
  /-- The finished nodes outside of all elements. -/
  top : List Node := []
  /-- The open elements. -/
  stack : List Element := []

namespace Builder

/-- Adds a finished node to the innermost open element. -/
def push (b : Builder) (n : Node) : Builder :=
  match b.stack with
  | [] => { b with top := n :: b.top }
  | e :: rest => { b with stack := { e with children := n :: e.children } :: rest }

/-- Finishes the innermost open element. -/
def closeOne (b : Builder) : Builder :=
  match b.stack with
  | [] => b
  | e :: rest => push { b with stack := rest } (.element e.name e.children.reverse)

/-- Finishes a number of open elements, innermost first. -/
def closeMany : Nat → Builder → Builder
  | 0, b => b
  | n + 1, b => closeMany n b.closeOne

/-- Finishes everything up to the innermost open element of a name, if one is open. -/
def closeNamed (b : Builder) (name : String) : Builder :=
  match b.stack.findIdx? (fun e => e.name == name) with
  | none => b
  | some i => closeMany (i + 1) b

/-- Opens an element; a void one is finished at once. -/
def opening (b : Builder) (name : String) : Builder :=
  if voidElements.contains name then b.push (.element name [])
  else { b with stack := ⟨name, []⟩ :: b.stack }

/-- Some open element has one of the names. -/
def within (b : Builder) (names : List String) : Bool := b.stack.any fun e => names.contains e.name

/-- The innermost open element that keeps its text to itself. -/
def keeper? (b : Builder) : Option String :=
  (b.stack.find? fun e => keepers.contains e.name).map Element.name

/-- A marked section without any text reads as a space, except where blanks are kept. -/
def markedContent (b : Builder) (content : List Char) : List Char :=
  if content.isEmpty && !b.within blankKeepers then [' '] else content

/-- Reads a token. -/
def add (b : Builder) : Token → Builder
  | .text content => b.push (.text b.keeper? content)
  | .marked content => b.push (.marked (b.markedContent content))
  | .opening name => b.opening name
  | .closing name => b.closeNamed name
  | .single name => b.push (.element name [])

/-- The finished tree, with everything closed that is still open. -/
def finish (b : Builder) : List Node := (closeMany b.stack.length b).top.reverse

end Builder

/-- The tree of some tokens. -/
def treeOfTokens (tokens : List Token) : List Node := (tokens.foldl Builder.add {}).finish

/-- The tree of a page. -/
def treeOfPage (page : String) : Except MarkupFault (List Node) := (tokens page).map treeOfTokens

/-! ## Looking into the tree -/

mutual

/-- The elements of a node and below it, each with the nodes that follow it under the same
parent. -/
def Node.located (following : List Node) : Node → List (Element × List Node)
  | .element name children => (⟨name, children⟩, following) :: Node.locatedAll children
  | _ => []

/-- The elements of some sibling nodes and below them in document order, each with the nodes that
follow it under the same parent. -/
def Node.locatedAll : List Node → List (Element × List Node)
  | [] => []
  | n :: rest => n.located rest ++ Node.locatedAll rest

end

mutual

/-- The elements of a node and below it, in document order. -/
def Node.elements : Node → List Element
  | .element name children => ⟨name, children⟩ :: Node.elementsAll children
  | _ => []

/-- The elements of some nodes and below them, in document order. -/
def Node.elementsAll : List Node → List Element
  | [] => []
  | n :: rest => n.elements ++ Node.elementsAll rest

end

/-- The elements below an element that have one of the names, in document order. -/
def Element.below (e : Element) (names : List String) : List Element :=
  (Node.elementsAll e.children).filter fun d => names.contains d.name

mutual

/-- The text of a node as an element with the given keeper reads it. A keeper reads only text that
it keeps itself. -/
def Node.textFor (reader : Option String) : Node → List Char
  | .text keeper content => if keeper = reader then content else []
  | .marked content => if reader.isNone then content else []
  | .element _ children => Node.textForAll reader children

/-- The text of some nodes as an element with the given keeper reads it. -/
def Node.textForAll (reader : Option String) : List Node → List Char
  | [] => []
  | n :: rest => n.textFor reader ++ Node.textForAll reader rest

end

/-- The text of an element. -/
def Element.text (e : Element) : List Char :=
  Node.textForAll (if keepers.contains e.name then some e.name else none) e.children

end TypedReference.Markup

/-
# Conventions of a reference page

Where a page puts its titles, how it says that a class has no methods, and which argument names a
declaration cannot use as they are.
-/

namespace TypedReference

/-- Words that the language of the declarations keeps for itself. -/
def reservedWords : List String := [
  "abstract", "break", "case", "cast", "catch", "class", "continue", "default", "do", "dynamic",
  "else", "enum", "extends", "extern", "false", "final", "for", "function", "if", "implements",
  "import", "in", "inline", "interface", "macro", "new", "null", "operator", "overload",
  "override", "package", "private", "public", "return", "static", "super", "switch", "this",
  "throw", "true", "try", "typedef", "untyped", "using", "var", "while"]

/-- How a page is written and how names are made safe. -/
structure Conventions where
  /-- The element that holds the title of a section. -/
  titleTag : String := "h2"
  /-- Elements after which no table belongs to the section any more. -/
  boundaryTags : List String := ["h1"]
  /-- What stands in place of a signature when a class has no methods. -/
  noMethodsText : String := "no methods"
  /-- Names that have to be escaped. -/
  reserved : List String := reservedWords
  /-- What is put in front of a reserved name. -/
  escape : String := "_"
  deriving Inhabited

namespace Conventions

/-- The name, with the escape in front when it is reserved. -/
def escaped (cfg : Conventions) (name : String) : String :=
  if cfg.reserved.contains name then cfg.escape ++ name else name

end Conventions

end TypedReference

/-
# Paths

A path is a place to start from and the parts that lead on. Empty parts and single dots vanish; two
dots stay, since what they lead to is not known from the path alone.
-/

namespace TypedReference.Files

/-- Where a path starts. -/
inductive Anchor where
  /-- At the working directory. -/
  | relative
  /-- At the root of all files. -/
  | root
  /-- At the root, written with exactly two slashes. -/
  | doubleRoot
  deriving DecidableEq, Repr

/-- How an anchor is written. -/
def Anchor.text : Anchor → String
  | relative => ""
  | root => "/"
  | doubleRoot => "//"

/-- A path in normal form. -/
structure Path where
  /-- Where it starts. -/
  anchor : Anchor
  /-- The parts, outermost first. -/
  parts : List String
  deriving DecidableEq, Repr

namespace Path

/-- The parts that the slashes in a text set apart. -/
def textParts (s : String) : List String :=
  ((s.toList.splitOn '/').map String.ofList).filter fun part => part != ""

/-- The path that a text writes. -/
def ofText (s : String) : Path where
  anchor :=
    match (s.toList.takeWhile (· == '/')).length with
    | 0 => .relative
    | 2 => .doubleRoot
    | _ => .root
  parts := (textParts s).filter fun part => part != "."

/-- The text of a path; a single dot for the working directory. -/
def text (p : Path) : String :=
  if p.anchor = .relative ∧ p.parts = [] then "."
  else p.anchor.text ++ "/".intercalate p.parts

/-- The second path seen from the first. One that starts at the root stays as it is. -/
def join (p q : Path) : Path :=
  if q.anchor = .relative then { p with parts := p.parts ++ q.parts } else q

/-- The path without its last part. -/
def parent (p : Path) : Path := { p with parts := p.parts.dropLast }

end Path

end TypedReference.Files

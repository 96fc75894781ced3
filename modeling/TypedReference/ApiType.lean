/-
# The types of an API

What a documented argument, result or property can be, from primitives and references to documented
classes up to tuples, maps and functions.
-/

namespace TypedReference

/-- A type as it is written into a declaration. -/
inductive ApiType where
  /-- A built-in type, by name. -/
  | primitive (name : String)
  /-- No statement about the values. -/
  | any
  /-- A regular expression. -/
  | regex
  /-- A value of the inner type, or nothing. -/
  | nullable (inner : ApiType)
  /-- A list of values of one type. -/
  | array (inner : ApiType)
  /-- A fixed number of values, each with its own type. -/
  | tuple (items : List ApiType)
  /-- A class documented elsewhere on the page, by its path. -/
  | named (path : List String)
  /-- A table from keys to values. -/
  | map (key value : ApiType)
  /-- A function value. -/
  | function (args : List ApiType) (ret : ApiType)
  deriving Inhabited

namespace ApiType

/-! ## Types that names stand for -/

/-- Text. -/
def string : ApiType := primitive "string"

/-- Whole numbers. -/
def int : ApiType := primitive "int"

/-- Numbers with a fraction. -/
def float : ApiType := primitive "float"

/-- Truth values. -/
def bool : ApiType := primitive "bool"

/-- Raw bytes. -/
def bytes : ApiType := primitive "bytes"

/-- No value at all. -/
def void : ApiType := primitive "void"

/-- A table from text to anything. -/
def stringMap : ApiType := map string any

/-- A function of one value that returns nothing. -/
def callback : ApiType := function [any] void

/-! ## Layers of arrays -/

/-- The type inside `n` layers of arrays. -/
def arrays : Nat → ApiType → ApiType
  | 0, t => t
  | n + 1, t => array (arrays n t)

/-- The type inside as many layers as the depth says; a negative depth adds none. -/
def atDepth (depth : Int) (t : ApiType) : ApiType := arrays depth.toNat t

end ApiType

end TypedReference

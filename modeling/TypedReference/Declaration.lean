/-
# Declarations

A declaration is what the generator writes for one class or module: a package, a name, and members
in order. A member keeps its further signatures as overloads.
-/
import TypedReference.ApiType

namespace TypedReference

/-- One argument of a method or constructor. -/
structure Argument where
  /-- The name, fit for use as an identifier. -/
  name : String
  /-- The argument may be left out. -/
  optional : Bool
  /-- How many brackets stood around the name. -/
  arrayDepth : Int
  /-- The type, arrays included. -/
  type : ApiType
  deriving Inhabited

/-- What a member is and what it takes and gives. -/
inductive MemberKind where
  /-- A method or function. -/
  | method (args : List Argument) (ret : ApiType)
  /-- The constructor of a class. -/
  | constructor (args : List Argument)
  /-- A property. -/
  | property (type : ApiType)
  /-- A named constant. -/
  | constant (type : ApiType)
  deriving Inhabited

namespace MemberKind

/-- Methods are the members that may be overloaded. -/
def isMethod : MemberKind → Bool
  | method .. => true
  | _ => false

/-- The word for the kind in messages. -/
def label : MemberKind → String
  | method .. => "MethodKind"
  | constructor .. => "ConstructorKind"
  | property .. => "PropertyKind"
  | constant .. => "EnumConstantKind"

end MemberKind

/-- A member of a declaration. -/
structure Member where
  /-- The name under which the member is used. -/
  name : String
  /-- What the member is. -/
  kind : MemberKind
  /-- The description on the page. -/
  doc : String := ""
  /-- The member belongs to the class and not to its instances. -/
  isStatic : Bool := false
  /-- Further signatures of the same name. -/
  overloads : List MemberKind := []
  deriving Inhabited

/-- What is generated for one class or module. -/
structure Declaration where
  /-- The path of the package. -/
  package : List String
  /-- The name within the package. -/
  name : String
  /-- The members in the order of the page. -/
  members : List Member := []
  deriving Inhabited

namespace Declaration

/-- The path of the package and the name. -/
def path (d : Declaration) : List String := d.package ++ [d.name]

/-- The path with dots between its segments. -/
def dottedPath (d : Declaration) : String := ".".intercalate d.path

/-- The names of the members, in order. -/
def memberNames (d : Declaration) : List String := d.members.map Member.name

/-- The names that more than one member has, each once. -/
def sharedNames (d : Declaration) : List String :=
  (d.memberNames.filter fun n => 1 < d.memberNames.count n).eraseDups

end Declaration

end TypedReference

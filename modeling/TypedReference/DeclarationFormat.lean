/-
# The format of declarations

How a declaration is written as data, and the schema that such data have to meet. Every part of a
type or member carries the word for its kind, by which it can be told from the others.
-/
import TypedReference.Declaration
import TypedReference.Schema

namespace TypedReference

/-- Texts as data. -/
def Datum.ofTexts (texts : List String) : Datum := .list (texts.map .text)

/-! ## Declarations as data -/

mutual

/-- A type as data. -/
def ApiType.toDatum : ApiType → Datum
  | .primitive name => .object [("kind", .text "primitive"), ("name", .text name)]
  | .any => .object [("kind", .text "any")]
  | .regex => .object [("kind", .text "regex")]
  | .nullable inner => .object [("kind", .text "nullable"), ("inner", inner.toDatum)]
  | .array inner => .object [("kind", .text "array"), ("inner", inner.toDatum)]
  | .tuple items =>
    .object [("kind", .text "tuple"), ("arity", .int items.length),
      ("items", .list (ApiType.toData items))]
  | .named path => .object [("kind", .text "named"), ("path", .ofTexts path)]
  | .map key value =>
    .object [("kind", .text "map"), ("key", key.toDatum), ("value", value.toDatum)]
  | .function args ret =>
    .object [("kind", .text "function"), ("args", .list (ApiType.toData args)),
      ("ret", ret.toDatum)]

/-- Types as data. -/
def ApiType.toData : List ApiType → List Datum
  | [] => []
  | t :: ts => t.toDatum :: ApiType.toData ts

end

/-- An argument as data. -/
def Argument.toDatum (a : Argument) : Datum :=
  .object [("name", .text a.name), ("optional", .bool a.optional),
    ("array_depth", .int a.arrayDepth), ("type", a.type.toDatum)]

/-- What a member is, as data. -/
def MemberKind.toDatum : MemberKind → Datum
  | .method args ret =>
    .object [("kind", .text "method"), ("args", .list (args.map Argument.toDatum)),
      ("ret", ret.toDatum)]
  | .constructor args =>
    .object [("kind", .text "constructor"), ("args", .list (args.map Argument.toDatum))]
  | .property type => .object [("kind", .text "property"), ("type", type.toDatum)]
  | .constant type => .object [("kind", .text "enum_constant"), ("type", type.toDatum)]

/-- A member as data. -/
def Member.toDatum (m : Member) : Datum :=
  .object [("name", .text m.name), ("doc", .text m.doc), ("static", .bool m.isStatic),
    ("kind", m.kind.toDatum), ("overloads", .list (m.overloads.map MemberKind.toDatum))]

/-- A declaration as data. -/
def Declaration.toDatum (d : Declaration) : Datum :=
  .object [("package", .ofTexts d.package), ("name", .text d.name),
    ("fields", .list (d.members.map Member.toDatum))]

/-! ## The schema -/

/-- The parts of a declaration with a definition of their own. -/
inductive Part where
  /-- A type. -/
  | type
  /-- An argument. -/
  | argument
  /-- What a member is. -/
  | kind
  /-- A member. -/
  | member
  deriving DecidableEq, Repr

namespace Part

/-- A list of parts of one sort. -/
def listOf (p : Part) : Schema Part := .list (.ref p) false

/-- The schema of a part. Names that it does not mention are allowed. -/
def schema : Part → Schema Part
  | type =>
    .object ["kind"] false [
      ("kind", .oneOf ["primitive", "any", "regex", "nullable", "array", "tuple", "named", "map",
        "function"]),
      ("name", .text false), ("inner", .ref type), ("arity", .natural), ("items", type.listOf),
      ("path", .list (.text false) true), ("key", .ref type), ("value", .ref type),
      ("args", type.listOf), ("ret", .ref type)]
  | argument =>
    .object ["name", "optional", "array_depth", "type"] false [
      ("name", .text true), ("optional", .bool), ("array_depth", .natural), ("type", .ref type)]
  | kind =>
    .object ["kind"] false [
      ("kind", .oneOf ["method", "constructor", "property", "enum_constant"]),
      ("args", argument.listOf), ("ret", .ref type), ("type", .ref type)]
  | member =>
    .object ["name", "doc", "static", "kind", "overloads"] false [
      ("name", .text true), ("doc", .text false), ("static", .bool), ("kind", .ref kind),
      ("overloads", kind.listOf)]

end Part

/-- The schema of a declaration. Names that it does not mention are not allowed. -/
def declarationSchema : Schema Part :=
  .object ["package", "name", "fields"] true [
    ("package", .list (.text true) false), ("name", .text true), ("fields", Part.member.listOf)]

/-- The first violation of the declaration schema by a datum. -/
def declarationViolation? (d : Datum) : Option Violation :=
  declarationSchema.violation? Part.schema d

end TypedReference

/-
# Schemas

A schema says which data are acceptable. `violation?` finds the first place where a datum breaks its
schema: an object is checked for missing names, then for names that do not belong, then property by
property in the order of the schema; a list is checked item by item, then for being empty.
-/
import TypedReference.Datum

namespace TypedReference

/-! ## Violations -/

/-- One step from a datum to a part of it. -/
inductive Step where
  /-- To the value under a name. -/
  | key (name : String)
  /-- To the item at a position. -/
  | index (i : Nat)
  deriving DecidableEq, Repr

/-- How a datum breaks a schema. -/
inductive Breach where
  /-- The datum is of another type. -/
  | wrongType (found : Datum) (expected : String)
  /-- A required name is missing. -/
  | missing (name : String)
  /-- Names that do not belong, in ascending order. -/
  | unexpected (names : List String)
  /-- A text may not be empty. -/
  | emptyText
  /-- A list may not be empty. -/
  | emptyList
  /-- A number lies below zero. -/
  | negative (found : Datum)
  /-- The datum is none of the allowed words. -/
  | notAllowed (found : Datum) (words : List String)
  deriving Inhabited

namespace Breach

/-- The keyword of the schema that a breach is against. -/
def keyword : Breach → String
  | wrongType .. => "type"
  | missing _ => "required"
  | unexpected _ => "additionalProperties"
  | emptyText => "minLength"
  | emptyList => "minItems"
  | negative _ => "minimum"
  | notAllowed .. => "enum"

/-- The text shown for a breach. -/
def message : Breach → String
  | wrongType found expected => found.shown ++ " is not of type " ++ Text.quoted expected
  | missing name => Text.quoted name ++ " is a required property"
  | unexpected names =>
    "Additional properties are not allowed (" ++ ", ".intercalate (names.map Text.quoted) ++
      (if names.length = 1 then " was" else " were") ++ " unexpected)"
  | emptyText => Text.quoted "" ++ " should be non-empty"
  | emptyList => (Datum.list []).shown ++ " should be non-empty"
  | negative found => found.shown ++ " is less than the minimum of 0"
  | notAllowed found words => found.shown ++ " is not one of " ++ Text.quotedList words

end Breach

/-- A breach and where in a datum it is. -/
structure Violation where
  /-- The steps from the whole datum to the part at fault. -/
  path : List Step
  /-- What is wrong there. -/
  breach : Breach
  deriving Inhabited

/-- The violation seen from one step further out. -/
def Violation.under (s : Step) (v : Violation) : Violation := { v with path := s :: v.path }

/-- A breach by a datum as a whole. -/
def Violation.here (b : Breach) : Violation := ⟨[], b⟩

/-! ## Schemas -/

/-- What data may be. `Name` names the definitions that schemas refer to. -/
inductive Schema (Name : Type) where
  /-- Anything that the definition of a name allows. -/
  | ref (name : Name)
  /-- An object with some required names, a closed or open set of names, and schemas for the values
  under known names. -/
  | object (required : List String) (closed : Bool) (properties : List (String × Schema Name))
  /-- A list, with a schema for its items. -/
  | list (items : Schema Name) (nonEmpty : Bool)
  /-- A text. -/
  | text (nonEmpty : Bool)
  /-- A truth value. -/
  | bool
  /-- A whole number that is not negative. -/
  | natural
  /-- One of some words. -/
  | oneOf (words : List String)

namespace Schema

variable {Name : Type}

/-- The names of an object that its schema does not know, in ascending order. -/
def unknownNames (properties : List (String × Schema Name)) (fields : List (String × Datum)) :
    List String :=
  ((fields.map Prod.fst).filter fun k => (properties.map Prod.fst).all (· != k)).mergeSort
    fun a b => !(decide (b < a))

/-- The first breach by an object itself, apart from its values. -/
def objectBreach? (required : List String) (closed : Bool)
    (properties : List (String × Schema Name)) (fields : List (String × Datum)) : Option Breach :=
  match required.find? fun k => (fields.lookup k).isNone with
  | some k => some (.missing k)
  | none =>
    let extra := if closed then unknownNames properties fields else []
    if extra.isEmpty then none else some (.unexpected extra)

/-- The breach by a number that should be whole and not negative. -/
def naturalBreach? : Datum → Option Breach
  | .int n => if n < 0 then some (.negative (.int n)) else none
  | .float x =>
    if !Text.isIntegral x then some (.wrongType (.float x) "integer")
    else if x < 0 then some (.negative (.float x))
    else none
  | d => some (.wrongType d "integer")

/-- The schema behind a reference. -/
def unfolded (define : Name → Schema Name) : Schema Name → Schema Name
  | ref name => define name
  | s => s

mutual

/-- The first violation of a schema by a datum, where `define` gives the definitions, which do not
refer on at once. -/
def violation? (define : Name → Schema Name) (s : Schema Name) (d : Datum) : Option Violation :=
  match s.unfolded define, d with
  | ref _, _ => none
  | object required closed properties, .object fields =>
    match objectBreach? required closed properties fields with
    | some b => some (.here b)
    | none =>
      let found := fieldViolations define properties fields
      properties.findSome? fun (name, _) => (found.lookup name).join
  | object .., d => some (.here (.wrongType d "object"))
  | list items nonEmpty, .list data =>
    match itemViolation? define items 0 data with
    | some v => some v
    | none => if nonEmpty && data.isEmpty then some (.here .emptyList) else none
  | list .., d => some (.here (.wrongType d "array"))
  | text nonEmpty, .text t => if nonEmpty && t.isEmpty then some (.here .emptyText) else none
  | text _, d => some (.here (.wrongType d "string"))
  | bool, .bool _ => none
  | bool, d => some (.here (.wrongType d "boolean"))
  | natural, d => (naturalBreach? d).map .here
  | oneOf words, .text t =>
    if words.contains t then none else some (.here (.notAllowed (.text t) words))
  | oneOf words, d => some (.here (.notAllowed d words))

/-- For each field whose name the schema knows, its first violation. -/
def fieldViolations (define : Name → Schema Name) (properties : List (String × Schema Name)) :
    List (String × Datum) → List (String × Option Violation)
  | [] => []
  | (name, d) :: fields =>
    let v? := match properties.lookup name with
      | none => none
      | some s => (violation? define s d).map (Violation.under (.key name))
    (name, v?) :: fieldViolations define properties fields

/-- The first violation by an item, from a position on. -/
def itemViolation? (define : Name → Schema Name) (items : Schema Name) (i : Nat) :
    List Datum → Option Violation
  | [] => none
  | d :: ds =>
    match violation? define items d with
    | some v => some (v.under (.index i))
    | none => itemViolation? define items (i + 1) ds

end

end Schema

end TypedReference

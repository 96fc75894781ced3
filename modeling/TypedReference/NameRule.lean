/-
# Types guessed from names

A bare name is given a type by the first of eight rules that knows one: first the names with a fixed
meaning, then the documented classes, then the endings that argument names commonly have.
-/
import TypedReference.Logged
import TypedReference.Registry
import TypedReference.Text.Blank

namespace TypedReference

open Text

/-! ## Tables of names and endings -/

/-- Names with a fixed meaning, in the form of `singular`. -/
def knownNames : List (String × ApiType) := [
  ("dict", .stringMap), ("arg", .stringMap), ("int", .int), ("integer", .int), ("float", .float),
  ("number", .float), ("str", .string), ("string", .string), ("bool", .bool), ("boolean", .bool),
  ("byte", .bytes), ("none", .void), ("void", .void), ("value", .any), ("object", .any),
  ("any", .any), ("list", .array .any), ("callback", .callback), ("function", .callback)]

/-- Endings of names for text. -/
def stringEndings : List String :=
  ["string", "str", "text", "title", "name", "prefix", "suffix", "key"]

/-- Endings of names for whole numbers. -/
def integerEndings : List String :=
  ["idx", "index", "limit", "timestamp", "point", "delay", "row", "col", "width", "height", "depth"]

/-- Endings of names for truth values. -/
def booleanEndings : List String := ["flag", "bool", "enabled"]

/-- The text ends in one of the endings. -/
def endsInAny (endings : List String) (l : List Char) : Bool :=
  endings.any fun e => e.toList.isSuffixOf l

/-- The part stands somewhere in the text. -/
def occursIn (part : List Char) : List Char → Bool
  | [] => part.isEmpty
  | c :: r => part.isPrefixOf (c :: r) || occursIn part r

/-- Several flags are combined in one number. -/
def isPluralFlag (lowered : List Char) : Bool :=
  ['s'].isSuffixOf lowered && occursIn "flag".toList lowered

/-- Names of functions that are called back end in `callback`, or start with `on` and then an
underscore or a capital. -/
def isCallbackName (name lowered : List Char) : Bool :=
  "callback".toList.isSuffixOf lowered || "on_".toList.isPrefixOf lowered ||
    (match name with
      | 'o' :: 'n' :: c :: _ => isUpper c
      | _ => false)

/-! ## Rules -/

/-- The rules by which a name is given a type. -/
inductive NameRule where
  /-- The name has a fixed meaning. -/
  | knownName
  /-- The name is that of a documented class. -/
  | documentedClass
  /-- The name ends like one for text. -/
  | stringEnding
  /-- The name ends like one for a whole number. -/
  | integerEnding
  /-- The name ends like one for a truth value. -/
  | booleanEnding
  /-- The name is one for a function. -/
  | callbackName
  /-- The name ends in `arg`. -/
  | argEnding
  /-- The name ends in `pattern`. -/
  | patternEnding
  deriving DecidableEq, Repr

/-- The first registered path whose last segment has the given singular form. -/
def findClass (form : List Char) : List (List String) → Except AssemblyFault (Option (List String))
  | [] => .ok none
  | path :: paths =>
    match path.getLast? with
    | none => .error .emptyClassPath
    | some last => if singular last.toList = form then .ok (some path) else findClass form paths

namespace NameRule

/-- The rules in the order in which they are tried. -/
def all : List NameRule := [
  knownName, documentedClass, stringEnding, integerEnding, booleanEnding, callbackName, argEnding,
  patternEnding]

/-- The word for a rule in messages. -/
def label : NameRule → String
  | knownName => "known-name"
  | documentedClass => "class"
  | stringEnding => "string-suffix"
  | integerEnding => "integer-suffix"
  | booleanEnding => "boolean-suffix"
  | callbackName => "callback"
  | argEnding => "arg-suffix"
  | patternEnding => "pattern-suffix"

/-- The type that a rule knows for a name. Only the rule for documented classes reads the
registry. -/
def apply (classes : ClassPaths) (name : List Char) (rule : NameRule) :
    Except AssemblyFault (Option ApiType) :=
  let lowered := lower name
  match rule with
  | knownName => .ok (knownNames.lookup (String.ofList (singular name)))
  | documentedClass => do
    let path? ← findClass (singular name) (← classes.paths)
    return path?.map ApiType.named
  | stringEnding => .ok (if endsInAny stringEndings lowered then some .string else none)
  | integerEnding =>
    .ok (if endsInAny integerEndings lowered || isPluralFlag lowered then some .int else none)
  | booleanEnding => .ok (if endsInAny booleanEndings lowered then some .bool else none)
  | callbackName => .ok (if isCallbackName name lowered then some .callback else none)
  | argEnding => .ok (if endsInAny ["arg"] lowered then some .stringMap else none)
  | patternEnding => .ok (if endsInAny ["pattern"] lowered then some .regex else none)

/-- The first of the given rules that knows a type, with that type. -/
def firstOf (classes : ClassPaths) (name : List Char) :
    List NameRule → Except AssemblyFault (Option (NameRule × ApiType))
  | [] => .ok none
  | rule :: rules =>
    match rule.apply classes name with
    | .error e => .error e
    | .ok (some t) => .ok (some (rule, t))
    | .ok none => firstOf classes name rules

end NameRule

/-! ## Resolution -/

/-- The type for a name without regard to what stands before it: that of the first rule that knows
one, or anything at all. -/
def guessType (classes : ClassPaths) (name : List Char) : Logged AssemblyFault ApiType :=
  match NameRule.firstOf classes name NameRule.all with
  | .error e => .fail e
  | .ok (some (rule, t)) => ⟨.ok t, [.resolved (String.ofList name) rule.label]⟩
  | .ok none => ⟨.ok .any, [.unknownName (String.ofList name)]⟩

/-- The type for a name. A dotted name that is a registered path means that class; otherwise only
the part after the last dot counts. -/
def resolveName (classes : ClassPaths) (name : List Char) : Logged AssemblyFault ApiType :=
  let segments := (trim name).splitOn '.'
  match segments with
  | [only] => guessType classes only
  | _ =>
    match classes.paths with
    | .error e => .fail e
    | .ok paths =>
      let path := segments.map String.ofList
      if paths.contains path then .ok (.named path)
      else guessType classes (segments.getLast?.getD [])

end TypedReference

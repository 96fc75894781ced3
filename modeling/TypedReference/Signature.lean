/-
# Signatures

Texts such as `find_all(pattern, <flags>, [regions])`. A call is a dotted name with arguments in
parentheses; an argument is a name that may stand in brackets, which make it an array, and in angle
brackets, which make it optional.
-/
import TypedReference.Conventions
import TypedReference.TypeExpr

namespace TypedReference

open Text

/-! ## Calls -/

/-- A dotted name and what stands in the parentheses after it. -/
structure Call where
  /-- The dotted name. -/
  name : List Char
  /-- The text of the arguments. -/
  inner : List Char
  deriving DecidableEq, Repr

/-- What stands before the last occurrence of a character. -/
def beforeLast? (stop : Char) : List Char → Option (List Char)
  | [] => none
  | c :: r =>
    match beforeLast? stop r with
    | some before => some (c :: before)
    | none => if c == stop then some [] else none

namespace Call

/-- The call at the very start of a text. The name goes as far as it can; the arguments go up to
the last closing parenthesis of the text. -/
def atStart? : List Char → Option Call
  | [] => none
  | c :: r =>
    if startsName c then
      match (r.dropWhile isWordOrDot).dropWhile isBlank with
      | '(' :: rest => (beforeLast? ')' rest).map (Call.mk (c :: r.takeWhile isWordOrDot))
      | _ => none
    else none

/-- The first call in a text. -/
def find? : List Char → Option Call
  | [] => none
  | c :: r =>
    match atStart? (c :: r) with
    | some call => some call
    | none => find? r

/-- The part of the name after the last dot. -/
def lastName (call : Call) : List Char := (call.name.splitOn '.').getLast?.getD []

/-- The texts of the arguments, between commas wherever they stand. Blanks alone are no
argument. -/
def tokens (call : Call) : List (List Char) :=
  let parts := (call.inner.splitOn ',').map trim
  if parts = [[]] then [] else parts

end Call

/-! ## Arguments -/

/-- A text marks an argument as optional when an angle bracket opens and a later one closes. -/
def marksOptional (token : List Char) : Bool := (token.dropWhile (· != '<')).contains '>'

/-- The text of an argument without angle brackets and without a default value. -/
def bareArgument (token : List Char) : List Char :=
  trim ((token.filter fun c => c != '<' && c != '>').takeWhile (· != '='))

/-- Writes one underscore for each run of characters that belong to no word; `gap` says that such a
run has just been read. -/
def underscored (gap : Bool) : List Char → List Char
  | [] => if gap then ['_'] else []
  | c :: r =>
    if isWord c then
      if gap then '_' :: c :: underscored false r else c :: underscored false r
    else underscored true r

/-- The text without underscores at either end. -/
def trimUnderscores (l : List Char) : List Char :=
  ((l.dropWhile (· == '_')).reverse.dropWhile (· == '_')).reverse

/-- A name made of a text: its words with underscores between them, or a name made of the position
when nothing is left or a digit would come first. -/
def argumentName (position : Int) (ident : List Char) : List Char :=
  match trimUnderscores (underscored false ident) with
  | [] => "arg".toList ++ (toString position).toList
  | c :: r => if isDigit c then "arg".toList ++ (toString position).toList else c :: r

/-- Reads the text of an argument at a position. A dotted name decides the type as it stands; of
any other text the name made of it does. -/
def readArgument (cfg : Conventions) (classes : ClassPaths) (position : Int)
    (token : List Char) : Logged AssemblyFault Argument :=
  match peelBrackets (bareArgument token) with
  | .error cause => .fail (.document (.badArgument position (String.ofList token) cause))
  | .ok ⟨ident, depth⟩ =>
    let name := argumentName position ident
    let key := if isDottedName ident then ident else name
    (resolveName classes key).map fun t =>
      { name := cfg.escaped (String.ofList name)
        optional := marksOptional token
        arrayDepth := depth
        type := t.arrays depth }

/-! ## Signatures -/

/-- The name of a call and its arguments. -/
structure Signature where
  /-- The last part of the name. -/
  name : String
  /-- The arguments in order. -/
  args : List Argument

/-- The text says that there are no methods; neither case nor blanks matter. -/
def saysNoMethods (cfg : Conventions) (l : List Char) : Bool :=
  lower (withoutBlanks l) == lower (withoutBlanks cfg.noMethodsText.toList)

/-- Reads a signature, or nothing where the text says that there are no methods. -/
def readSignature (cfg : Conventions) (classes : ClassPaths) (l : List Char) :
    Logged AssemblyFault (Option Signature) :=
  match Call.find? l with
  | some call =>
    (Logged.mapAll (fun (token, i) => readArgument cfg classes i token)
      (call.tokens.zipIdx 1)).map fun args => some ⟨String.ofList call.lastName, args⟩
  | none =>
    if saysNoMethods cfg l then .ok none
    else .fail (.document (.unparsableSignature (String.ofList l)))

end TypedReference

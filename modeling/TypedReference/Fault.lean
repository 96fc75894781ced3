/-
# Faults

Why a page cannot be turned into declarations. `DocumentFault` holds the causes that lie in the text
of the page; `AssemblyFault` adds the ways in which a caller can misuse the registries and paths.
-/
import TypedReference.Text.Quoted

namespace TypedReference

/-- Where the text of a page departs too far from what can be read. -/
inductive DocumentFault where
  /-- The brackets around a text do not pair up. -/
  | mismatchedBrackets (text : String) (opened closed : Nat)
  /-- An argument of a signature, counted from one, cannot be read. -/
  | badArgument (position : Int) (token : String) (cause : DocumentFault)
  /-- A text is neither a call nor the words for "no methods". -/
  | unparsableSignature (text : String)
  /-- A table of constructors has no row. -/
  | noConstructorRow (owner : String)
  /-- The row of a constructor says that there are no methods. -/
  | noConstructorSignature (owner : String)
  deriving DecidableEq, Repr

namespace DocumentFault

/-- The text shown for a fault. -/
def message : DocumentFault → String
  | mismatchedBrackets text opened closed =>
    "mismatched brackets in " ++ Text.quoted text ++
      " (" ++ toString opened ++ " '[' vs " ++ toString closed ++ " ']')"
  | badArgument position token cause =>
    "argument " ++ toString position ++ " " ++ Text.quoted token ++ ": " ++ cause.message
  | unparsableSignature text => "unparsable signature " ++ Text.quoted text
  | noConstructorRow owner => owner ++ ": constructors table has no rows"
  | noConstructorSignature owner => owner ++ ": constructor row has no signature"

end DocumentFault

/-- The two registries that are filled before any type is read. -/
inductive RegistryRole where
  /-- The paths of the documented classes. -/
  | classPaths
  /-- The paths of the documented constants. -/
  | constants
  deriving DecidableEq, Repr

namespace RegistryRole

/-- The word for a registry in messages. -/
def label : RegistryRole → String
  | classPaths => "ClassPathRegistry"
  | constants => "EnumRegistry"

end RegistryRole

/-- Why sections cannot be assembled into declarations. -/
inductive AssemblyFault where
  /-- The page itself is at fault. -/
  | document (cause : DocumentFault)
  /-- Something was to be registered after the registry was frozen. -/
  | frozen (role : RegistryRole)
  /-- A registry was read before it was frozen. -/
  | unfrozen (role : RegistryRole)
  /-- A registered class path has no segment. -/
  | emptyClassPath
  /-- The path of a constant has no owner in front of the name. -/
  | ownerlessConstant
  deriving DecidableEq, Repr

namespace AssemblyFault

/-- The text shown for a fault. -/
def message : AssemblyFault → String
  | document cause => cause.message
  | frozen role => role.label ++ " is frozen; registration phase is over"
  | unfrozen role => role.label ++ " read before its registration phase finished"
  | emptyClassPath => "tuple index out of range"
  | ownerlessConstant => "list index out of range"

end AssemblyFault

end TypedReference

/-
# Failures

Everything that can end a run early, from the page that cannot be fetched to the file that cannot be
written.
-/
import TypedReference.Fault
import TypedReference.Files.Tree
import TypedReference.Files.Utf8
import TypedReference.Markup.Token
import TypedReference.Schema

namespace TypedReference

/-- Why a run ends early. -/
inductive Failure where
  /-- The page is not in the cache, and it must not be fetched. -/
  | notCached (path : String)
  /-- The server answered with the status of an error. -/
  | refused (status : Int)
  /-- The bytes of a file are no text. -/
  | undecodable (cause : Files.Defect)
  /-- The page is no markup. -/
  | markup (cause : Markup.MarkupFault)
  /-- The sections of the page cannot be made into declarations. -/
  | assembly (cause : AssemblyFault)
  /-- Several members of a declaration have the same name; the names are in ascending order. -/
  | sharedNames (owner : String) (names : List String)
  /-- A declaration breaks the schema. -/
  | schema (cause : Violation)
  /-- A file cannot be read or written. -/
  | files (cause : Files.FileFault)
  /-- An option that is to name a path was left without a value. -/
  | noPath
  deriving Inhabited

namespace Failure

/-- The text shown for a failure. -/
def message : Failure → String
  | notCached path => "offline mode and no cached document at " ++ path
  | refused status => toString status ++ " error"
  | undecodable cause => cause.message
  | markup cause => cause.message
  | assembly cause => cause.message
  | sharedNames owner names => owner ++ ": duplicate fields " ++ Text.quotedList names
  | schema cause => cause.breach.message
  | files cause => cause.message
  | noPath => "expected str, bytes or os.PathLike object, not list"

end Failure

end TypedReference

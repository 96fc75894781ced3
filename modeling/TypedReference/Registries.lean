/-
# Steps on the registries

The two registries of a page are filled, frozen, asked and read in steps. A step answers or is
refused, and what it leaves behind is what the next one finds.
-/
import TypedReference.NameRule

namespace TypedReference

/-- A step on one of the registries. -/
inductive RegistryStep where
  /-- A class path is registered. -/
  | registerClass (path : List String)
  /-- The path of a constant is registered. -/
  | registerConstant (path : String)
  /-- The registration ends. -/
  | freeze (role : RegistryRole)
  /-- It is asked whether the registration is over. -/
  | askFrozen (role : RegistryRole)
  /-- It is asked how many entries there are. -/
  | askSize (role : RegistryRole)
  /-- The entries are read. -/
  | read (role : RegistryRole)
  /-- The constants are gone through. -/
  | iterate
  /-- A name is resolved against the class paths. -/
  | resolve (name : List Char)
  deriving DecidableEq

/-- What a step answers. -/
inductive RegistryAnswer where
  /-- Nothing. -/
  | done
  /-- Yes or no. -/
  | flag (value : Bool)
  /-- A number of entries. -/
  | count (n : Nat)
  /-- The class paths. -/
  | classPaths (paths : List (List String))
  /-- The paths of the constants. -/
  | constantPaths (paths : List String)
  /-- The type of a name. -/
  | type (t : ApiType)

/-- The registries of a page; at first nothing is registered. -/
structure Registries where
  /-- The paths of the documented classes. -/
  classes : ClassPaths := .empty
  /-- The paths of the documented constants. -/
  constants : ConstantPaths := .empty
  deriving DecidableEq

namespace Registries

/-- What a step comes to, and the registries afterwards. A step that is refused changes nothing. -/
def step (r : Registries) : RegistryStep → Logged AssemblyFault RegistryAnswer × Registries
  | .registerClass path =>
    match r.classes.insert path with
    | .ok classes => (.ok .done, { r with classes })
    | .error e => (.fail e, r)
  | .registerConstant path =>
    match r.constants.insert path with
    | .ok (isNew, constants) => (.ok (.flag isNew), { r with constants })
    | .error e => (.fail e, r)
  | .freeze .classPaths => (.ok .done, { r with classes := r.classes.freeze })
  | .freeze .constants => (.ok .done, { r with constants := r.constants.freeze })
  | .askFrozen .classPaths => (.ok (.flag r.classes.frozen), r)
  | .askFrozen .constants => (.ok (.flag r.constants.frozen), r)
  | .askSize .classPaths => (.ok (.count r.classes.size), r)
  | .askSize .constants => (.ok (.count r.constants.size), r)
  | .read .classPaths => (.ofExcept (r.classes.paths.map .classPaths), r)
  | .read .constants => (.ofExcept (r.constants.paths.map .constantPaths), r)
  | .iterate => (.ofExcept (r.constants.paths.map .constantPaths), r)
  | .resolve name => ((resolveName r.classes name).map .type, r)

/-- The registries after some steps, from empty ones. -/
def after (steps : List RegistryStep) : Registries := steps.foldl (fun r s => (r.step s).2) {}

end Registries

end TypedReference

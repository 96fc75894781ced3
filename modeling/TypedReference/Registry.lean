/-
# Registries

A registry is filled first and read afterwards: once frozen it takes nothing more, and before that
it cannot be read.
-/
import TypedReference.Fault
import TypedReference.Section

namespace TypedReference

/-- Entries in the order of registration, and whether the registry is frozen. -/
structure Registry (α : Type) where
  /-- What has been registered. -/
  entries : List α
  /-- Reading has begun and registration is over. -/
  frozen : Bool
  deriving DecidableEq, Repr, Inhabited

namespace Registry

variable {α : Type}

/-- The registry before anything is registered. -/
def empty : Registry α := ⟨[], false⟩

/-- A frozen registry with the given entries. -/
def ofList (entries : List α) : Registry α := ⟨entries, true⟩

/-- Ends the registration. -/
def freeze (r : Registry α) : Registry α := { r with frozen := true }

/-- The number of entries, which can be asked for at any time. -/
def size (r : Registry α) : Nat := r.entries.length

/-- The entries of a frozen registry. -/
def read (role : RegistryRole) (r : Registry α) : Except AssemblyFault (List α) :=
  if r.frozen then .ok r.entries else .error (.unfrozen role)

/-- Adds an entry to a registry that is not frozen. -/
def register (role : RegistryRole) (r : Registry α) (a : α) : Except AssemblyFault (Registry α) :=
  if r.frozen then .error (.frozen role) else .ok { r with entries := r.entries ++ [a] }

end Registry

/-! ## Class paths -/

/-- The paths of the documented classes. -/
abbrev ClassPaths := Registry (List String)

namespace ClassPaths

/-- The paths of a frozen registry. -/
def paths (r : ClassPaths) : Except AssemblyFault (List (List String)) :=
  Registry.read .classPaths r

/-- Registers a class path; the same path may be registered again. -/
def insert (r : ClassPaths) (path : List String) : Except AssemblyFault ClassPaths :=
  Registry.register .classPaths r path

/-- The frozen registry of the class sections of a page. -/
def ofSections (sections : List Section) : ClassPaths :=
  .ofList ((sections.filter fun s => s.kind = .class).map Section.path)

end ClassPaths

/-! ## Constant paths -/

/-- The dotted paths of the documented constants, each once. -/
abbrev ConstantPaths := Registry String

namespace ConstantPaths

/-- The paths of a frozen registry. -/
def paths (r : ConstantPaths) : Except AssemblyFault (List String) := Registry.read .constants r

/-- Registers a constant path and says whether it is new. -/
def insert (r : ConstantPaths) (path : String) : Except AssemblyFault (Bool × ConstantPaths) :=
  if r.entries.contains path && !r.frozen then .ok (false, r)
  else (Registry.register .constants r path).map fun r' => (true, r')

/-- The frozen registry of some paths, each at its first occurrence. -/
def ofPaths (paths : List String) : ConstantPaths := .ofList paths.eraseDups

end ConstantPaths

end TypedReference

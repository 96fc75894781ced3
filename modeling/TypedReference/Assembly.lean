/-
# Assembly

Sections become declarations in phases: the class paths and the constants are registered, each
section is read against the frozen class paths, the constants are attached to their owners, and
members of one name are merged.
-/
import TypedReference.Constant
import TypedReference.Overload
import TypedReference.Signature

namespace TypedReference

open Text

/-! ## Members of a table -/

/-- What a table lists. -/
inductive TableRole where
  /-- Methods, with a return value and a description. -/
  | methods (ofClass : Bool)
  /-- A constructor, with a description. -/
  | constructors
  /-- Properties, with a type and a description. -/
  | properties
  deriving DecidableEq, Repr

/-- The role of a table with the given lower case headers. -/
def TableRole.ofColumns? (columns : List String) : Option TableRole :=
  if columns = ["methods", "return value", "description"] then some (methods false)
  else if columns = ["class methods", "return value", "description"] then some (methods true)
  else if columns = ["constructors", "description"] then some constructors
  else if columns = ["properties", "type", "description"] then some properties
  else none

/-- The method in a row, unless the row says that there are none. -/
def methodOfRow (cfg : Conventions) (classes : ClassPaths) (isStatic : Bool)
    (row : List String) : Logged AssemblyFault (Option Member) :=
  (readSignature cfg classes (cell row 0).toList).andThen fun
    | none => .ok none
    | some sig =>
      (typeOfText classes (cell row 1).toList).map fun ret =>
        some { name := sig.name, kind := .method sig.args ret, doc := cell row 2, isStatic }

/-- The constructor in the first row. Further rows are reported and passed over. -/
def constructorOfRows (cfg : Conventions) (classes : ClassPaths) (owner : String) :
    List (List String) → Logged AssemblyFault Member
  | [] => .fail (.document (.noConstructorRow owner))
  | row :: more =>
    (Logged.reportAll
      (if more.isEmpty then [] else [.extraConstructorRows owner more.length])).andThen fun _ =>
    (readSignature cfg classes (cell row 0).toList).andThen fun
      | none => .fail (.document (.noConstructorSignature owner))
      | some sig => .ok { name := sig.name, kind := .constructor sig.args, doc := cell row 1 }

/-- The property in a row with a name. Without a type in its cell the name decides. -/
def propertyOfRow (cfg : Conventions) (classes : ClassPaths) (row : List String) :
    Logged AssemblyFault (Option Member) :=
  let name := trim (cell row 0).toList
  let text := condense (cell row 1).toList
  if name.isEmpty then .ok none
  else
    (if text.isEmpty then resolveName classes name else typeOfText classes text).map fun t =>
      some { name := cfg.escaped (String.ofList name), kind := .property t, doc := cell row 2 }

/-- The members that a table of a section lists. -/
def membersOfTable (cfg : Conventions) (classes : ClassPaths) (s : Section) (t : Table) :
    Logged AssemblyFault (List Member) :=
  let columns := t.columns.map Table.lowered
  match TableRole.ofColumns? columns with
  | some (.methods ofClass) =>
    (Logged.mapAll (methodOfRow cfg classes (ofClass || s.kind = .module)) t.rows).map
      (List.filterMap id)
  | some .constructors => (constructorOfRows cfg classes s.dottedName t.rows).map ([·])
  | some .properties =>
    (Logged.mapAll (propertyOfRow cfg classes) t.rows).map (List.filterMap id)
  | none => ⟨.ok [], [.unknownColumns s.dottedName columns]⟩

/-! ## The declaration of a section -/

/-- The declaration of a section. A module without members has none. -/
def assemble (cfg : Conventions) (classes : ClassPaths) (s : Section) :
    Logged AssemblyFault (Option Declaration) :=
  (Logged.mapAll (membersOfTable cfg classes s) s.tables).andThen fun parts =>
    let members := parts.flatten
    if members.isEmpty && s.kind = .module then ⟨.ok none, [.moduleDropped s.dottedName]⟩
    else .ok (some { package := s.identity.1, name := s.identity.2, members })

/-! ## Constants -/

/-- A named constant as a member of its owner. -/
def constantMember (name : String) : Member :=
  { name, kind := .constant .int, isStatic := true }

/-- Adds a member to the first declaration with a path, if there is one. -/
def attachTo? (owner : List String) (m : Member) : List Declaration → Option (List Declaration)
  | [] => none
  | d :: ds =>
    if d.path = owner then some ({ d with members := d.members ++ [m] } :: ds)
    else (attachTo? owner m ds).map (d :: ·)

/-- Adds the constants with the given paths to their owners and counts those that have one. -/
def attachAll : List String → List Declaration → Logged AssemblyFault (List Declaration × Nat)
  | [], ds => .ok (ds, 0)
  | path :: paths, ds =>
    (Logged.ofExcept (Constant.owner path)).andThen fun (owner, name) =>
    match attachTo? owner (constantMember name) ds with
    | some ds' => (attachAll paths ds').map fun (out, n) => (out, n + 1)
    | none =>
      (Logged.report (.ownerMissing owner path)).andThen fun _ => attachAll paths ds

/-- Adds the registered constants to their owners and counts those that have one. -/
def attachConstants (ds : List Declaration) (constants : ConstantPaths) :
    Logged AssemblyFault (List Declaration × Nat) :=
  (Logged.ofExcept constants.paths).andThen fun paths => attachAll paths ds

/-! ## All sections -/

/-- What the sections of a page have been made into. -/
structure Assembly where
  /-- The declarations in the order of their sections. -/
  declarations : List Declaration
  /-- The documented classes. -/
  classPaths : ClassPaths
  /-- The documented constants. -/
  constants : ConstantPaths
  /-- How many constants were attached. -/
  attached : Nat
  /-- How many members were merged away. -/
  mergedAway : Nat
  /-- The modules without a declaration. -/
  dropped : List String

/-- The sections that got no declaration, by name. -/
def droppedNames (sections : List Section) (made : List (Option Declaration)) : List String :=
  (sections.zip made).filterMap fun (s, d) => if d.isNone then some s.dottedName else none

/-- Makes declarations of the sections of a page. -/
def Assembly.ofSections (cfg : Conventions) (sections : List Section) :
    Logged AssemblyFault Assembly :=
  let classPaths := ClassPaths.ofSections sections
  let constants := ConstantPaths.ofSections sections
  (Logged.reportAll
    [.classesRegistered classPaths.size, .constantsRegistered constants.size]).andThen fun _ =>
  (Logged.mapAll (assemble cfg classPaths) sections).andThen fun made =>
  (attachConstants (made.filterMap id) constants).andThen fun (declarations, attached) =>
  (Logged.reportAll (declarations.flatMap Declaration.mergeEvents)).andThen fun _ =>
  .ok {
    declarations := declarations.map Declaration.mergeOverloads
    classPaths, constants, attached
    mergedAway := Declaration.mergedAwayFrom declarations
    dropped := droppedNames sections made }

end TypedReference

/-
# Emission

Every declaration is written into a file of its own, in a directory for its package. One that has
two members of a name, or that breaks the schema, ends the emission; the files before it stay.
-/
import TypedReference.DeclarationFormat
import TypedReference.Effect

namespace TypedReference

open Files

/-- Where and how declarations are written. -/
structure OutputOptions where
  /-- The directory of all packages. -/
  root : String := "externs"
  /-- How far each level of a file is indented; `none` for one line. -/
  indent : Option Nat := some 2
  /-- Declarations are checked against the schema. -/
  validate : Bool := true

namespace OutputOptions

/-- The path of the directory of all packages. -/
def rootPath (o : OutputOptions) : Path := Path.ofText o.root

end OutputOptions

namespace Declaration

/-- The file of a declaration below a directory. -/
def filePath (root : Path) (d : Declaration) : Path :=
  (d.package.foldl (fun p segment => p.join (Path.ofText segment)) root).join
    (Path.ofText (d.name ++ ".json"))

/-- The text of the file of a declaration. -/
def fileText (indent : Option Nat) (d : Declaration) : String := d.toDatum.written ⟨indent⟩ ++ "\n"

/-- The failure of a declaration that has several members of one name. -/
def sharing? (d : Declaration) : Option Failure :=
  if d.sharedNames.isEmpty then none
  else some (.sharedNames d.dottedPath (d.sharedNames.mergeSort fun a b => !(decide (b < a))))

/-- Why a declaration is not written, if it is not. -/
def rejection? (o : OutputOptions) (d : Declaration) : Option Failure :=
  match d.sharing? with
  | some f => some f
  | none => if o.validate then (declarationViolation? d.toDatum).map .schema else none

end Declaration

/-- Writes the file of a declaration. -/
def emitOne (o : OutputOptions) (d : Declaration) (t : FileTree) : Effect Path :=
  match d.rejection? o with
  | some f => .fail f t
  | none =>
    let path := d.filePath o.rootPath
    (Effect.ofChanged (t.writeWithin path (d.fileText o.indent).toUTF8)).andThen fun _ t =>
    (Effect.report [.declarationWritten path.text] t).andThen fun _ t => .ok path t

/-- Writes the files of declarations in order and gives their paths. -/
def emitEach (o : OutputOptions) : List Declaration → FileTree → Effect (List Path)
  | [], t => .ok [] t
  | d :: ds, t =>
    (emitOne o d t).andThen fun path t =>
    (emitEach o ds t).andThen fun paths t => .ok (path :: paths) t

/-- Writes all declarations and gives the paths of their files. -/
def emit (o : OutputOptions) (ds : List Declaration) (t : FileTree) : Effect (List Path) :=
  (emitEach o ds t).andThen fun paths t =>
  (Effect.report [.declarationsWritten paths.length o.rootPath.text] t).andThen fun _ t =>
  .ok paths t

end TypedReference

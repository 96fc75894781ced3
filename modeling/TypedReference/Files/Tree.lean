/-
# Trees of files

What a run finds and leaves on disk. A tree holds the directories and files below the working
directory; the working directory itself, the directories above it and the root are always there.
Names and paths have a greatest length, and no path holds the zero character.
-/
import TypedReference.Files.Path
import TypedReference.Text.Quoted

namespace TypedReference.Files

/-! ## Faults -/

/-- Why an operation on files fails. -/
inductive FileCause where
  /-- There is nothing at the path. -/
  | missing
  /-- There is something at the path already. -/
  | occupied
  /-- A file stands where the path needs a directory. -/
  | notDirectory
  /-- A directory stands where the path needs a file. -/
  | isDirectory
  /-- The path, or a name in it, is longer than any can be. -/
  | tooLong
  /-- The path holds the zero character. -/
  | zeroCharacter
  deriving DecidableEq, Repr

/-- The words for a cause, with the number it has if it has one. -/
def FileCause.text : FileCause → String
  | missing => "[Errno 2] No such file or directory"
  | occupied => "[Errno 17] File exists"
  | notDirectory => "[Errno 20] Not a directory"
  | isDirectory => "[Errno 21] Is a directory"
  | tooLong => "[Errno 36] File name too long"
  | zeroCharacter => "embedded null byte"

/-- A failed operation on files. -/
structure FileFault where
  /-- Why it fails. -/
  cause : FileCause
  /-- The path as it was given. -/
  path : String
  deriving DecidableEq, Repr

/-- The text shown for a fault. A path with the zero character is not shown. -/
def FileFault.message (f : FileFault) : String :=
  match f.cause with
  | .zeroCharacter => f.cause.text
  | cause => cause.text ++ ": " ++ Text.quoted f.path

/-! ## Places -/

/-- A directory that is always there. -/
inductive Base where
  /-- So many levels above the working directory. -/
  | above (levels : Nat)
  /-- The root. -/
  | root
  deriving DecidableEq, Repr

/-- A place in the tree: a base and the names that lead to it. -/
structure Place where
  /-- Where the place is counted from. -/
  base : Base
  /-- The names, outermost first. -/
  names : List String
  deriving DecidableEq, Repr

namespace Place

/-- The place of a name in a directory. -/
def child (p : Place) (name : String) : Place := { p with names := p.names ++ [name] }

/-- The directory that holds a place. -/
def up (p : Place) : Place :=
  match p.names, p.base with
  | [], .above n => ⟨.above (n + 1), []⟩
  | [], .root => p
  | names, _ => { p with names := names.dropLast }

/-- The place where a path starts. -/
def ofAnchor : Anchor → Place
  | .relative => ⟨.above 0, []⟩
  | _ => ⟨.root, []⟩

end Place

/-! ## Trees -/

/-- What stands at a place. -/
inductive Entry where
  /-- A directory. -/
  | directory
  /-- A file with its bytes. -/
  | file (bytes : ByteArray)

/-- The entries at their places. -/
structure FileTree where
  /-- Places with what stands there, each place once. -/
  entries : List (Place × Entry)

namespace FileTree

/-- The tree without any file. -/
def empty : FileTree := ⟨[]⟩

/-- What stands at a place. -/
def get? (t : FileTree) (p : Place) : Option Entry :=
  if p.names = [] then some .directory else t.entries.lookup p

/-- Puts an entry at a place, in place of what stood there. -/
def put (t : FileTree) (p : Place) (e : Entry) : FileTree :=
  if (t.entries.lookup p).isSome then
    ⟨t.entries.map fun entry => if entry.1 = p then (p, e) else entry⟩
  else ⟨t.entries ++ [(p, e)]⟩

/-- How many bytes a name has at most. -/
def maxNameBytes : Nat := 255

/-- How many bytes a path has at most. -/
def maxPathBytes : Nat := 4095

/-- Why a path with this text cannot lead anywhere, whatever the tree holds. -/
def textCause? (shown : String) : Option FileCause :=
  if shown.toList.contains '\x00' then some .zeroCharacter
  else if maxPathBytes < shown.utf8ByteSize then some .tooLong
  else none

/-- The place to which some parts lead. All but the last have to lead to directories, and a name is
looked up only in a directory that is there. -/
def walk (t : FileTree) (p : Place) : List String → Except FileCause Place
  | [] => .ok p
  | part :: parts =>
    match t.get? p with
    | none => .error .missing
    | some (.file _) => .error .notDirectory
    | some .directory =>
      if maxNameBytes < part.utf8ByteSize then .error .tooLong
      else if part = ".." then walk t p.up parts
      else if part = "." then walk t p parts
      else walk t (p.child part) parts

/-- The place to which some parts lead from where a path starts, with the path as it was given. -/
def placeFrom (t : FileTree) (anchor : Anchor) (parts : List String) (shown : String) :
    Except FileFault Place :=
  match textCause? shown with
  | some cause => .error ⟨cause, shown⟩
  | none => (t.walk (.ofAnchor anchor) parts).mapError fun cause => ⟨cause, shown⟩

/-- The place to which a path leads. -/
def place (t : FileTree) (p : Path) : Except FileFault Place :=
  t.placeFrom p.anchor p.parts p.text

/-- What a path leads to, if anything. -/
def find? (t : FileTree) (p : Path) : Option Entry :=
  match t.place p with
  | .ok place => t.get? place
  | .error _ => none

/-- Whether a path leads to something, which can only not be told when the path or a name in it is
too long. -/
def leadsSomewhere (t : FileTree) (p : Path) : Except FileFault Bool :=
  match t.place p with
  | .ok place => .ok (t.get? place).isSome
  | .error f => if f.cause = .tooLong then .error f else .ok false

/-- The path leads to a directory. -/
def isDirectory (t : FileTree) (p : Path) : Bool :=
  match t.find? p with
  | some .directory => true
  | _ => false

/-! ## Reading and writing -/

/-- The bytes of the file to which some parts lead, with the path as it was given. -/
def readFrom (t : FileTree) (anchor : Anchor) (parts : List String) (shown : String) :
    Except FileFault ByteArray :=
  match t.placeFrom anchor parts shown with
  | .error f => .error f
  | .ok place =>
    match t.get? place with
    | none => .error ⟨.missing, shown⟩
    | some .directory => .error ⟨.isDirectory, shown⟩
    | some (.file bytes) => .ok bytes

/-- The bytes of the file at a path. -/
def read (t : FileTree) (p : Path) : Except FileFault ByteArray :=
  t.readFrom p.anchor p.parts p.text

/-- The bytes of the file that a text names. The text is taken as it stands: a single dot, or a
slash at the end, asks for a directory in front of it. -/
def readNamed (t : FileTree) (name : String) : Except FileFault ByteArray :=
  if name = "" then .error ⟨.missing, name⟩
  else
    let parts := Path.textParts name
    let parts := if name.toList.getLast? = some '/' then parts ++ ["."] else parts
    t.readFrom (Path.ofText name).anchor parts name

/-- Writes a file, in place of one that may be there. Its directory has to be there. -/
def write (t : FileTree) (p : Path) (bytes : ByteArray) : Except FileFault FileTree :=
  match t.place p with
  | .error f => .error f
  | .ok place =>
    match t.get? place with
    | some .directory => .error ⟨.isDirectory, p.text⟩
    | _ => if (t.get? place.up).isSome then .ok (t.put place (.file bytes))
      else .error ⟨.missing, p.text⟩

/-- Makes one directory in a directory that is there. -/
def makeDirectory (t : FileTree) (p : Path) : Except FileFault FileTree :=
  match t.place p with
  | .error f => .error f
  | .ok place =>
    if (t.get? place).isSome then .error ⟨.occupied, p.text⟩
    else if (t.get? place.up).isSome then .ok (t.put place .directory)
    else .error ⟨.missing, p.text⟩

/-- A tree after an operation, and why the operation failed, if it did. -/
structure Changed where
  /-- The tree as it has become. -/
  tree : FileTree
  /-- The fault that ended the operation. -/
  fault? : Option FileFault

/-- Takes note of an attempt to make a directory, which may be there already. -/
def settle (t : FileTree) (p : Path) (attempt : Except FileFault FileTree) : Changed :=
  match attempt with
  | .ok t' => ⟨t', none⟩
  | .error f => if t.isDirectory p then ⟨t, none⟩ else ⟨t, some f⟩

/-- Makes the directory at some parts, innermost first, and those around it where they are
missing. -/
def ensureAt (t : FileTree) (anchor : Anchor) : List String → Changed
  | [] => t.settle ⟨anchor, []⟩ (t.makeDirectory ⟨anchor, []⟩)
  | part :: outer =>
    let p : Path := ⟨anchor, (part :: outer).reverse⟩
    match t.makeDirectory p with
    | .error ⟨.missing, _⟩ =>
      let around := ensureAt t anchor outer
      if around.fault?.isSome then around
      else around.tree.settle p (around.tree.makeDirectory p)
    | attempt => t.settle p attempt

/-- Makes the directory at a path and those around it where they are missing. -/
def ensureDirectory (t : FileTree) (p : Path) : Changed := t.ensureAt p.anchor p.parts.reverse

/-- Writes a file and makes the directories around it first. -/
def writeWithin (t : FileTree) (p : Path) (bytes : ByteArray) : Changed :=
  let around := t.ensureDirectory p.parent
  if around.fault?.isSome then around
  else
    match around.tree.write p bytes with
    | .ok t' => ⟨t', none⟩
    | .error f => ⟨around.tree, some f⟩

/-! ## Listing -/

/-- The files below the working directory, by their paths from there. -/
def files (t : FileTree) : List (String × ByteArray) :=
  t.entries.filterMap fun
    | (⟨.above 0, names⟩, .file bytes) => some ("/".intercalate names, bytes)
    | _ => none

/-- A tree that holds some files in the working directory and below it. -/
def ofFiles (files : List (String × ByteArray)) : FileTree :=
  files.foldl (fun t (name, bytes) => (t.writeWithin (Path.ofText name) bytes).tree) empty

end FileTree

end TypedReference.Files

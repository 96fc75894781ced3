/-
# The program

The outer layer of the two programs: it loads the files that a run may look at, runs the program,
and brings the changes back to disk. With `sections` as first word the sections of a page in a file
are printed; any other command line is for the generator. Servers cannot be reached from here, so
that every request is refused and the page has to be in the cache.
-/
import TypedReference.CommandLine.Generator
import TypedReference.CommandLine.SectionDump

namespace TypedReference.CommandLine

open Files

/-! ## Loading files -/

/-- The path of a place from the working directory. -/
def placeText (p : Place) : String :=
  match p.base with
  | .above n => "/".intercalate ("." :: List.replicate n ".." ++ p.names)
  | .root => "/" ++ "/".intercalate p.names

/-- Adds what stands at a place. -/
def loadAt (t : FileTree) (p : Place) : IO FileTree := do
  let path := (← IO.currentDir) / placeText p
  if ← path.isDir then return t.put p .directory
  else if ← path.pathExists then return t.put p (.file (← IO.FS.readBinFile path))
  else return t

/-- Adds what stands on the way along some parts. -/
def loadAlong (t : FileTree) (p : Place) : List String → IO FileTree
  | [] => return t
  | ".." :: parts => loadAlong t p.up parts
  | part :: parts => do loadAlong (← loadAt t (p.child part)) (p.child part) parts

/-- Adds everything below a directory. -/
partial def loadBelow (t : FileTree) (p : Place) : IO FileTree := do
  let path := (← IO.currentDir) / placeText p
  if ← path.isDir then
    let mut t := t
    for entry in ← path.readDir do
      let child := p.child entry.fileName
      t ← loadBelow (← loadAt t child) child
    return t
  else return t

/-- Adds what stands on the way along a path. -/
def loadPath (t : FileTree) (p : Path) : IO FileTree := loadAlong t (.ofAnchor p.anchor) p.parts

/-- Adds a path and, if it leads to a directory, everything below it. -/
def loadTree (t : FileTree) (p : Path) : IO FileTree := do
  let t ← loadPath t p
  match t.place p with
  | .ok place => loadBelow t place
  | .error _ => return t

/-- The files that a run of the generator may look at. -/
def generatorFiles (s : Generator.Settings) : IO FileTree := do
  let t ←
    match s.fetchOptions? with
    | some o => loadPath .empty o.cachePath
    | none => pure .empty
  match s.outputOptions? with
  | some o => loadTree t o.rootPath
  | none => return t

/-! ## Saving files -/

/-- Brings a changed entry to disk. -/
def saveEntry (old : FileTree) (p : Place) (e : Entry) : IO Unit := do
  let path := (← IO.currentDir) / placeText p
  match e, old.get? p with
  | .directory, none => IO.FS.createDir path
  | .file bytes, some (.file before) => if bytes != before then IO.FS.writeBinFile path bytes
  | .file bytes, _ => IO.FS.writeBinFile path bytes
  | .directory, some _ => return

/-- Brings all changes of a run to disk, prints its outputs, and gives the exit code. -/
def conclude (old : FileTree) (r : Run) : IO UInt32 := do
  for (p, e) in r.tree.entries do saveEntry old p e
  (← IO.getStdout).putStr r.output
  let diagnostics ← IO.getStderr
  diagnostics.putStr r.diagnostics
  match r.ending with
  | .code n => return n.toUInt32
  | .stopped text => diagnostics.putStr (text ++ "\n"); return 1
  | .failed f => diagnostics.putStr (f.message ++ "\n"); return 1

/-- A server that cannot be reached. -/
def unreachable (_ : Request) : Reply := ⟨503, ""⟩

/-- Runs the generator. -/
def runGenerator (args : List String) : IO UInt32 := do
  let t ←
    match Generator.grammar.read {} args with
    | .ok s => generatorFiles s
    | .error _ => pure .empty
  conclude t (Generator.program.run args unreachable t)

/-- Runs the section dump. -/
def runSectionDump (args : List String) : IO UInt32 := do
  let t ←
    match SectionDump.grammar.read {} args with
    | .ok s => loadPath .empty (Path.ofText s.page)
    | .error _ => pure .empty
  conclude t (SectionDump.program.run args unreachable t)

end TypedReference.CommandLine

/-- Runs the program that the command line asks for. -/
def main (args : List String) : IO UInt32 :=
  match args with
  | "sections" :: rest => TypedReference.CommandLine.runSectionDump rest
  | _ => TypedReference.CommandLine.runGenerator args

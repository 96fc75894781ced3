/-
# The generator

The program that fetches a page, makes declarations of it, and writes their files. Nothing is
written for a page that cannot be read to its end. It can also print the sections of the page
instead.
-/
import TypedReference.CommandLine.Program
import TypedReference.Emission
import TypedReference.Generation
import TypedReference.Markdown

namespace TypedReference.CommandLine.Generator

open Files

/-! ## Command line -/

/-- What the generator is to do. An address or path can be left out by its option. -/
structure Settings where
  /-- The address of the page. -/
  url : Option String := ({} : FetchOptions).url
  /-- The file that keeps the page. -/
  cache : Option String := some ({} : FetchOptions).cache
  /-- The directory of all packages. -/
  root : Option String := some ({} : OutputOptions).root
  /-- The page is to be fetched even if it is in the cache. -/
  refresh : Bool := false
  /-- The page must not be fetched. -/
  offline : Bool := false
  /-- The sections are to be printed, and no declaration is made. -/
  dumpSections : Bool := false
  /-- Declarations are checked against the schema. -/
  validate : Bool := true
  /-- Details are to be reported. -/
  verbose : Bool := false

namespace Settings

/-- How the page is come by, which takes a path for the cache. -/
def fetchOptions? (s : Settings) : Option FetchOptions :=
  s.cache.map fun cache => { url := s.url, cache, refresh := s.refresh, offline := s.offline }

/-- How declarations are written, which takes a path for the directory of all packages. -/
def outputOptions? (s : Settings) : Option OutputOptions :=
  s.root.map fun root => { root, validate := s.validate }

end Settings

/-- What the command line of the generator may hold. -/
def grammar : Grammar Settings where
  choices := [
    ⟨["-h", "--help"], .help⟩,
    ⟨["--url"], .value fun v s => { s with url := v }⟩,
    ⟨["--cache"], .value fun v s => { s with cache := v }⟩,
    ⟨["--out"], .value fun v s => { s with root := v }⟩,
    ⟨["--refresh"], .flag fun s => { s with refresh := true }⟩,
    ⟨["--offline"], .flag fun s => { s with offline := true }⟩,
    ⟨["--dump-sections"], .flag fun s => { s with dumpSections := true }⟩,
    ⟨["--no-validate"], .flag fun s => { s with validate := false }⟩,
    ⟨["-v", "--verbose"], .flag fun s => { s with verbose := true }⟩]
  operand? := none

/-- How to call the generator. -/
def usage : String :=
  "usage: run.py [-h] [--url URL] [--cache CACHE] [--out OUT] [--refresh]\n" ++
  "              [--offline] [--dump-sections] [--no-validate] [-v]\n"

/-- What the generator tells about itself. -/
def help : String :=
  "\nGenerate type declarations from an HTML API reference\n" ++
  "\n" ++
  "options:\n" ++
  "  -h, --help       show this help message and exit\n" ++
  "  --url URL        API reference page to fetch\n" ++
  "  --cache CACHE    raw document cache file\n" ++
  "  --out OUT        externs root directory\n" ++
  "  --refresh        re-fetch even if the cache exists\n" ++
  "  --offline        only use the cached document\n" ++
  "  --dump-sections  print segmented sections as Markdown and exit\n" ++
  "  --no-validate    skip JSON Schema validation of the output\n" ++
  "  -v, --verbose\n"

/-! ## Work -/

/-- The sections of a page as text. -/
def dump (page : String) (t : FileTree) : Effect String :=
  (Effect.ofLogged (sectionsOfText {} page) t).andThen fun found t =>
  .ok (Markdown.sections found) t

/-- Writes the declarations of a page. -/
def generate (o? : Option OutputOptions) (page : String) (t : FileTree) : Effect String :=
  (Effect.ofLogged (Assembly.ofText {} page) t).andThen fun a t =>
  match o? with
  | none => .fail .noPath t
  | some o =>
    (emit o a.declarations t).andThen fun paths t =>
    (Effect.report [a.summary, .filesWritten paths.length] t).andThen fun _ t =>
    .ok "" t

/-- Fetches the page and goes on as the settings say. -/
def work (s : Settings) (network : Request → Reply) (t : FileTree) : Work :=
  match s.fetchOptions? with
  | none => ⟨.fail .noPath t, s.verbose, []⟩
  | some o => {
      effect :=
        (fetch o network t).andThen fun page t =>
        if s.dumpSections then dump page t else generate s.outputOptions? page t
      detailed := s.verbose
      requests := (o.request? t).toList }

/-- The generator. -/
def program : Program Settings where
  name := "run.py"
  usage := usage
  help := help
  grammar := grammar
  defaults := {}
  work := work

end TypedReference.CommandLine.Generator

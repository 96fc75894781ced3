/-
# The section dump

The program that prints the sections of a page in a file. It writes no file and makes no request.
-/
import TypedReference.CommandLine.Program
import TypedReference.Generation
import TypedReference.Markdown

namespace TypedReference.CommandLine.SectionDump

open Files

/-! ## Command line -/

/-- What the section dump is to do. -/
structure Settings where
  /-- The file that holds the page. -/
  page : String := ""
  /-- How the page is written. -/
  conventions : Conventions := {}

/-- What the command line of the section dump may hold. A title tag that is left out is one that no
element has. -/
def grammar : Grammar Settings where
  choices := [
    ⟨["-h", "--help"], .help⟩,
    ⟨["--title-tag"],
      .value fun v s => { s with conventions := { s.conventions with titleTag := v.getD "" } }⟩]
  operand? := some ⟨"html", fun v s => { s with page := v }⟩

/-- How to call the section dump. -/
def usage : String := "usage: doc_ingestor.py [-h] [--title-tag TITLE_TAG] html\n"

/-- What the section dump tells about itself. -/
def help : String :=
  "\nSegment an API reference page and print its sections as Markdown\n" ++
  "\n" ++
  "positional arguments:\n" ++
  "  html                  Path to the HTML document\n" ++
  "\n" ++
  "options:\n" ++
  "  -h, --help            show this help message and exit\n" ++
  "  --title-tag TITLE_TAG\n"

/-! ## Work -/

/-- Reads the page and prints its sections. -/
def work (s : Settings) (t : FileTree) : Work where
  effect :=
    (Effect.ofExcept (textOfFile (t.readNamed s.page)) t).andThen fun page t =>
    (Effect.ofLogged (sectionsOfText s.conventions page) t).andThen fun found t =>
    .ok (Markdown.sections found) t
  detailed := false
  requests := []

/-- The section dump. -/
def program : Program Settings where
  name := "doc_ingestor.py"
  usage := usage
  help := help
  grammar := grammar
  defaults := {}
  work := fun s _ t => work s t

end TypedReference.CommandLine.SectionDump

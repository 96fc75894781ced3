/-
# Events

What the generator reports while it works. An event is a cause; its level and its text are read off
the cause, so that events can be counted without looking at texts.
-/
import TypedReference.Declaration
import TypedReference.Section
import TypedReference.Text.Quoted

namespace TypedReference

/-- How much an event matters. -/
inductive Level where
  /-- Of use when looking for a mistake. -/
  | debug
  /-- A step of the work. -/
  | info
  /-- Something on the page was guessed or passed over. -/
  | warning
  deriving DecidableEq, Repr

namespace Level

/-- The word for a level. -/
def label : Level → String
  | debug => "DEBUG"
  | info => "INFO"
  | warning => "WARNING"

end Level

/-- Something worth reporting. -/
inductive Event where
  /-- A name was given a type by the rule with this label. -/
  | resolved (name rule : String)
  /-- No rule knows a type for a name. -/
  | unknownName (name : String)
  /-- A choice of types that is not one type or none. -/
  | unresolvedAlternation (text : String)
  /-- A text that is no type expression. -/
  | unparsableType (text : String)
  /-- The classes of all sections have been registered. -/
  | classesRegistered (count : Nat)
  /-- The constants of all sections have been registered. -/
  | constantsRegistered (count : Nat)
  /-- A module without members gets no declaration. -/
  | moduleDropped (name : String)
  /-- A table whose columns mean nothing is passed over. -/
  | unknownColumns (name : String) (columns : List String)
  /-- Only the first row of a table of constructors is read. -/
  | extraConstructorRows (name : String) (count : Nat)
  /-- No declaration owns a constant. -/
  | ownerMissing (owner : List String) (path : String)
  /-- A member has the name of an earlier one and cannot become its overload. -/
  | collision (owner name : String) (kind earlier : MemberKind)
  /-- A title that names no class and no module. -/
  | unparsableTitle (text : String)
  /-- A table without a header row is passed over. -/
  | headerlessTable
  /-- A section has been read. -/
  | sectionRead (name : String) (kind : SectionKind) (tables : Nat)
  /-- All sections have been read. -/
  | sectionsFound (count : Nat)
  /-- A declaration has been written. -/
  | declarationWritten (path : String)
  /-- All declarations have been written. -/
  | declarationsWritten (count : Nat) (root : String)
  /-- The page is taken from the cache. -/
  | cacheUsed (path : String)
  /-- The page is being fetched, from no address at all if an option left it out. -/
  | fetching (url : Option String)
  /-- What the whole run has made. -/
  | summary (declarations members overloads constants dropped : Nat)
  /-- How many files the whole run has written. -/
  | filesWritten (count : Nat)
  deriving Inhabited

namespace Event

/-- How much an event matters. -/
def level : Event → Level
  | resolved .. | sectionRead .. | declarationWritten .. => .debug
  | unknownName .. | unresolvedAlternation .. | unparsableType .. | unknownColumns ..
  | extraConstructorRows .. | ownerMissing .. | collision .. | unparsableTitle ..
  | headerlessTable => .warning
  | classesRegistered .. | constantsRegistered .. | moduleDropped .. | sectionsFound ..
  | declarationsWritten .. | cacheUsed .. | fetching .. | summary .. | filesWritten .. => .info

/-- The text of an event. -/
def text : Event → String
  | resolved name rule => "resolved " ++ Text.quoted name ++ " via " ++ rule
  | unknownName name => "could not guess a type for " ++ Text.quoted name ++ "; using Any"
  | unresolvedAlternation t => "unresolved alternation " ++ Text.quoted t ++ "; using Any"
  | unparsableType t => "unparsable type " ++ Text.quoted t ++ "; using Any"
  | classesRegistered n => "registered " ++ toString n ++ " class path(s)"
  | constantsRegistered n => "registered " ++ toString n ++ " enum constant(s)"
  | moduleDropped name => "module " ++ name ++ " has no fields; dropped"
  | unknownColumns name columns =>
    name ++ ": unrecognized table columns " ++ Text.quotedList columns ++ "; skipped"
  | extraConstructorRows name n => name ++ ": " ++ toString n ++ " extra constructor row(s) ignored"
  | ownerMissing owner path =>
    "no declaration " ++ ".".intercalate owner ++ " for enum " ++ path ++ "; dropped"
  | collision owner name kind earlier =>
    owner ++ ": " ++ kind.label ++ " " ++ Text.quoted name ++ " collides with an earlier " ++
      earlier.label ++ "; dropped"
  | unparsableTitle t => "unparsable section title skipped: " ++ Text.quoted t
  | headerlessTable => "table without header row skipped"
  | sectionRead name kind n =>
    "section " ++ name ++ " (" ++ kind.word ++ "): " ++ toString n ++ " table(s)"
  | sectionsFound n => "found " ++ toString n ++ " section(s)"
  | declarationWritten path => "wrote " ++ path
  | declarationsWritten n root => "wrote " ++ toString n ++ " declaration(s) under " ++ root
  | cacheUsed path => "using cached document " ++ path
  | fetching url => "fetching " ++ url.getD "[]"
  | summary declarations members overloads constants dropped =>
    toString declarations ++ " declaration(s), " ++ toString members ++ " field(s), " ++
      toString overloads ++ " overload(s), " ++ toString constants ++
      " enum constant(s) injected, " ++ toString dropped ++ " module(s) dropped"
  | filesWritten n => toString n ++ " file(s) written"

end Event

end TypedReference

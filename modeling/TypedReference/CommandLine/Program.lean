/-
# Programs

A program reads its command line, works on files, and ends. A run shows all that can be seen of it
from outside: how it ends, the files, both outputs, and the addresses it asked for pages.
-/
import TypedReference.CommandLine.Grammar
import TypedReference.Effect
import TypedReference.Retrieval

namespace TypedReference.CommandLine

open Files

/-! ## Runs -/

/-- How a run ends. -/
inductive Ending where
  /-- With an exit code. -/
  | code (n : Nat)
  /-- With a text on what is wrong with the page or its declarations. -/
  | stopped (text : String)
  /-- With a failure that no one takes care of. -/
  | failed (cause : Failure)

namespace Ending

/-- A page that cannot be read and a declaration that breaks the schema are explained. Any other
failure is left as it is. -/
def ofFailure : Failure → Ending
  | .assembly (.document fault) => .stopped ("[ParseError] " ++ fault.message)
  | .schema v => .stopped ("[SchemaError] invalid declaration output: " ++ v.breach.message)
  | f => .failed f

end Ending

/-- All that can be seen of a run from outside. -/
structure Run where
  /-- How it ends. -/
  ending : Ending
  /-- The files afterwards. -/
  tree : FileTree
  /-- What it prints. -/
  output : String
  /-- What it prints for diagnosis. -/
  diagnostics : String
  /-- The requests that it makes, in order. -/
  requests : List Request

/-! ## Diagnostics -/

/-- The line for an event. -/
def diagnosticLine (e : Event) : String := "[" ++ e.level.label ++ "] " ++ e.text ++ "\n"

/-- The lines for events; details only if they are asked for. -/
def diagnosticText (detailed : Bool) (es : List Event) : String :=
  String.join ((es.filter fun e => detailed || e.level != .debug).map diagnosticLine)

/-! ## Programs -/

/-- What a program does with its settings: the effect gives the text to print. -/
structure Work where
  /-- The effect on the files. -/
  effect : Effect String
  /-- Details are to be reported. -/
  detailed : Bool
  /-- The requests that are made, in order. -/
  requests : List Request

/-- A program with settings of type `σ`. -/
structure Program (σ : Type) where
  /-- The name in messages. -/
  name : String
  /-- The text on how to call it. -/
  usage : String
  /-- What help shows after the usage. -/
  help : String
  /-- What its command line may hold. -/
  grammar : Grammar σ
  /-- The settings without any option. -/
  defaults : σ
  /-- The work, where a server answers requests. -/
  work : σ → (Request → Reply) → FileTree → Work

namespace Program

variable {σ : Type}

/-- What comes of the work of a program. -/
def finish (w : Work) : Run where
  ending :=
    match w.effect.outcome with
    | .ok _ => .code 0
    | .error f => .ofFailure f
  tree := w.effect.tree
  output :=
    match w.effect.outcome with
    | .ok text => text
    | .error _ => ""
  diagnostics := diagnosticText w.detailed w.effect.events
  requests := w.requests

/-- Runs a program with the words of a command line. -/
def run (p : Program σ) (args : List String) (network : Request → Reply) (t : FileTree) : Run :=
  match p.grammar.read p.defaults args with
  | .ok settings => finish (p.work settings network t)
  | .error .help => ⟨.code 0, t, p.usage ++ p.help, "", []⟩
  | .error (.fault f) =>
    ⟨.code 2, t, "", p.usage ++ p.name ++ ": error: " ++ f.message ++ "\n", []⟩

end Program

end TypedReference.CommandLine

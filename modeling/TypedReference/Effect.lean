/-
# Effects

A step that reads and writes files comes to an effect: an outcome, the files as they have become,
and what was reported on the way. A failure ends the steps that would follow, and what was written
before it stays.
-/
import TypedReference.Failure
import TypedReference.Logged

namespace TypedReference

open Files

/-- What a step on files comes to. -/
structure Effect (α : Type) where
  /-- The value, or the failure that ended the step. -/
  outcome : Except Failure α
  /-- The files afterwards. -/
  tree : FileTree
  /-- The events in the order in which they were reported. -/
  events : List Event

namespace Effect

variable {α β : Type}

/-- A value that leaves the files as they are. -/
def ok (a : α) (t : FileTree) : Effect α := ⟨.ok a, t, []⟩

/-- A failure that leaves the files as they are. -/
def fail (f : Failure) (t : FileTree) : Effect α := ⟨.error f, t, []⟩

/-- Events that leave the files as they are. -/
def report (es : List Event) (t : FileTree) : Effect Unit := ⟨.ok (), t, es⟩

/-- An outcome that leaves the files as they are. -/
def ofExcept (r : Except Failure α) (t : FileTree) : Effect α := ⟨r, t, []⟩

/-- A computation that touches no file. -/
def ofLogged (x : Logged Failure α) (t : FileTree) : Effect α := ⟨x.outcome, t, x.events⟩

/-- A change of the files, which may have failed half way. -/
def ofChanged (c : FileTree.Changed) : Effect Unit :=
  ⟨match c.fault? with
    | none => .ok ()
    | some f => .error (.files f), c.tree, []⟩

/-- Goes on with the value and the files of the first step, if it has not failed. -/
def andThen (x : Effect α) (f : α → FileTree → Effect β) : Effect β :=
  match x.outcome with
  | .ok a => let y := f a x.tree; ⟨y.outcome, y.tree, x.events ++ y.events⟩
  | .error e => ⟨.error e, x.tree, x.events⟩

end Effect

end TypedReference

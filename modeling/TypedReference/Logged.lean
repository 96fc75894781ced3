/-
# Results with a log

A computation that reports events as it goes and may stop with a fault. The events reported before a
fault are kept.
-/
import TypedReference.Event

namespace TypedReference

/-- An outcome together with everything reported on the way to it. -/
structure Logged (ε α : Type) where
  /-- The value, or the fault that ended the work. -/
  outcome : Except ε α
  /-- The events in the order in which they were reported. -/
  events : List Event

namespace Logged

variable {ε ε' α β : Type}

/-- A value without any event. -/
def ok (a : α) : Logged ε α := ⟨.ok a, []⟩

/-- A fault without any event. -/
def fail (e : ε) : Logged ε α := ⟨.error e, []⟩

/-- A single event. -/
def report (e : Event) : Logged ε Unit := ⟨.ok (), [e]⟩

/-- Several events. -/
def reportAll (es : List Event) : Logged ε Unit := ⟨.ok (), es⟩

/-- The outcome of a computation that reports nothing. -/
def ofExcept (r : Except ε α) : Logged ε α := ⟨r, []⟩

/-- Goes on with the value of the first computation, if it has one. -/
def andThen (x : Logged ε α) (f : α → Logged ε β) : Logged ε β :=
  match x.outcome with
  | .ok a => let y := f a; ⟨y.outcome, x.events ++ y.events⟩
  | .error e => ⟨.error e, x.events⟩

/-- The same events with another value. -/
def map (f : α → β) (x : Logged ε α) : Logged ε β := ⟨x.outcome.map f, x.events⟩

/-- The same computation with its fault seen as one of a wider type. -/
def widen (f : ε → ε') (x : Logged ε α) : Logged ε' α := ⟨x.outcome.mapError f, x.events⟩

/-- Runs a computation for each element in order and keeps the results; the first fault ends it. -/
def mapAll (f : α → Logged ε β) : List α → Logged ε (List β)
  | [] => ok []
  | a :: l => andThen (f a) fun b => andThen (mapAll f l) fun bs => ok (b :: bs)

end Logged

end TypedReference

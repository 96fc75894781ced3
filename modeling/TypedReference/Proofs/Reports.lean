/-
# What reading reports

Reading a section never reports a constant without an owner, nor a member that is dropped for one of
its name: these two reports come from attaching and from merging only, so that they can be counted.
-/
import TypedReference.Proofs.Assembly.Rows

namespace TypedReference

/-! ## Events that are counted -/

namespace Event

/-- No declaration owns a constant. -/
def isOwnerMissing : Event → Bool
  | ownerMissing .. => true
  | _ => false

/-- A member is dropped for an earlier one of its name. -/
def isCollision : Event → Bool
  | collision .. => true
  | _ => false

/-- Neither a constant nor a member is lost with the event. -/
def OfReading (e : Event) : Prop := e.isOwnerMissing = false ∧ e.isCollision = false

end Event

/-! ## Logs of a kind -/

namespace Logged

variable {ε α β : Type}

/-- Every event that a computation reports is of the kind `p`. -/
def Reports (p : Event → Prop) (x : Logged ε α) : Prop := ∀ e ∈ x.events, p e

namespace Reports

variable {p : Event → Prop}

theorem of_events_nil {x : Logged ε α} (h : x.events = []) : x.Reports p := by
  intro e he
  rw [h] at he
  exact absurd he List.not_mem_nil

theorem of_events_singleton {x : Logged ε α} {e : Event} (h : x.events = [e]) (he : p e) :
    x.Reports p := by
  intro e' he'
  rw [h, List.mem_singleton] at he'
  rwa [he']

theorem map {f : α → β} {x : Logged ε α} (h : x.Reports p) : (x.map f).Reports p := h

theorem andThen {x : Logged ε α} {f : α → Logged ε β} (hx : x.Reports p)
    (hf : ∀ a, (f a).Reports p) : (x.andThen f).Reports p := by
  unfold Logged.andThen
  split
  · next a _ =>
    intro e he
    rcases List.mem_append.1 he with he | he
    · exact hx e he
    · exact hf a e he
  · exact hx

theorem mapAll {f : α → Logged ε β} {l : List α} (h : ∀ a ∈ l, (f a).Reports p) :
    (mapAll f l).Reports p := by
  induction l with
  | nil => exact of_events_nil rfl
  | cons a l ih =>
      obtain ⟨ha, hl⟩ := List.forall_mem_cons.1 h
      exact ha.andThen fun _ => (ih hl).andThen fun _ => of_events_nil rfl

end Reports

end Logged

/-! ## Names and types -/

section

variable {cfg : Conventions} {classes : ClassPaths}

theorem reports_guessType (name : List Char) :
    (guessType classes name).Reports Event.OfReading := by
  unfold guessType
  split
  · exact .of_events_nil rfl
  · exact .of_events_singleton rfl ⟨rfl, rfl⟩
  · exact .of_events_singleton rfl ⟨rfl, rfl⟩

theorem reports_resolveName (name : List Char) :
    (resolveName classes name).Reports Event.OfReading := by
  unfold resolveName
  simp only
  split
  · exact reports_guessType _
  · split
    · exact .of_events_nil rfl
    · split
      · exact .of_events_nil rfl
      · exact reports_guessType _

theorem reports_resolve (e : TypeExpr) : (e.resolve classes).Reports Event.OfReading := by
  induction e using TypeExpr.induction with
  | mismatched fault =>
      rw [TypeExpr.resolve]
      exact .of_events_nil rfl
  | array depth inner ih =>
      rw [TypeExpr.resolve]
      exact ih.map
  | tuple members ih =>
      rw [TypeExpr.resolve, TypeExpr.resolveAll_eq_mapAll]
      exact (Logged.Reports.mapAll ih).map
  | nullable inner ih =>
      rw [TypeExpr.resolve]
      exact ih.map
  | name text => exact reports_resolveName text
  | alternation text | unreadable text =>
      rw [TypeExpr.resolve]
      exact .of_events_singleton rfl ⟨rfl, rfl⟩

theorem reports_readSignature (l : List Char) :
    (readSignature cfg classes l).Reports Event.OfReading := by
  unfold readSignature
  split
  · apply Logged.Reports.map
    apply Logged.Reports.mapAll
    rintro ⟨token, i⟩ -
    show (readArgument cfg classes i token).Reports Event.OfReading
    unfold readArgument
    split
    · exact .of_events_nil rfl
    · exact (reports_resolveName _).map
  · split <;> exact .of_events_nil rfl

/-! ## Rows, tables and sections -/

theorem reports_methodOfRow (isStatic : Bool) (row : List String) :
    (methodOfRow cfg classes isStatic row).Reports Event.OfReading := by
  apply (reports_readSignature _).andThen
  rintro (_ | sig)
  · exact .of_events_nil rfl
  · exact (reports_resolve _).map

theorem reports_constructorOfRows (owner : String) (rows : List (List String)) :
    (constructorOfRows cfg classes owner rows).Reports Event.OfReading := by
  cases rows with
  | nil => exact .of_events_nil rfl
  | cons row more =>
      have hextra : (Logged.reportAll (if more.isEmpty then []
          else [Event.extraConstructorRows owner more.length]) :
            Logged AssemblyFault Unit).Reports Event.OfReading := by
        split
        · exact .of_events_nil rfl
        · exact .of_events_singleton rfl ⟨rfl, rfl⟩
      apply hextra.andThen
      intro _
      apply (reports_readSignature _).andThen
      rintro (_ | sig) <;> exact .of_events_nil rfl

theorem reports_propertyOfRow (row : List String) :
    (propertyOfRow cfg classes row).Reports Event.OfReading := by
  unfold propertyOfRow
  simp only
  split
  · exact .of_events_nil rfl
  · apply Logged.Reports.map
    split
    · exact reports_resolveName _
    · exact reports_resolve _

theorem reports_membersOfTable (s : Section) (t : Table) :
    (membersOfTable cfg classes s t).Reports Event.OfReading := by
  unfold membersOfTable
  simp only
  split
  · exact (Logged.Reports.mapAll fun row _ => reports_methodOfRow _ row).map
  · exact (reports_constructorOfRows _ _).map
  · exact (Logged.Reports.mapAll fun row _ => reports_propertyOfRow row).map
  · exact .of_events_singleton rfl ⟨rfl, rfl⟩

/-- **Nothing is lost in reading.** A section that is read reports no lost constant and no lost
member. -/
theorem reports_assemble (s : Section) : (assemble cfg classes s).Reports Event.OfReading := by
  rw [assemble_eq]
  apply (Logged.Reports.mapAll fun t _ => reports_membersOfTable s t).andThen
  intro parts
  unfold Section.make
  split
  · exact .of_events_singleton rfl ⟨rfl, rfl⟩
  · exact .of_events_nil rfl

end

end TypedReference

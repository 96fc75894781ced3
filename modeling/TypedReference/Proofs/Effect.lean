/-
# Chains of steps on files

What a chain of steps comes to. After a value the second step goes on with the files of the first;
a failure ends the chain and keeps what was written before it.
-/
import TypedReference.Effect

namespace TypedReference.Effect

open Files

variable {α β : Type}

/-! ## Single steps -/

@[simp] theorem outcome_ok (a : α) (t : FileTree) : (ok a t).outcome = .ok a := rfl

@[simp] theorem tree_ok (a : α) (t : FileTree) : (ok a t).tree = t := rfl

@[simp] theorem outcome_fail (f : Failure) (t : FileTree) :
    (fail f t : Effect α).outcome = .error f := rfl

@[simp] theorem tree_fail (f : Failure) (t : FileTree) : (fail f t : Effect α).tree = t := rfl

@[simp] theorem outcome_ofLogged (x : Logged Failure α) (t : FileTree) :
    (ofLogged x t).outcome = x.outcome := rfl

@[simp] theorem tree_ofLogged (x : Logged Failure α) (t : FileTree) : (ofLogged x t).tree = t := rfl

@[simp] theorem tree_ofChanged (c : FileTree.Changed) : (ofChanged c).tree = c.tree := rfl

/-- A change of the files succeeds when it has no fault, and fails with the fault otherwise. -/
theorem outcome_ofChanged (c : FileTree.Changed) :
    (c.fault? = none ∧ (ofChanged c).outcome = .ok ()) ∨
      ∃ f, c.fault? = some f ∧ (ofChanged c).outcome = .error (.files f) := by
  cases hfault : c.fault? with
  | none =>
      refine Or.inl ⟨rfl, ?_⟩
      rw [ofChanged, hfault]
  | some f =>
      refine Or.inr ⟨f, rfl, ?_⟩
      rw [ofChanged, hfault]

/-- The fault of the operation on files that has failed, if one has. -/
def fileFault? (x : Effect α) : Option FileFault :=
  match x.outcome with
  | .error (.files f) => some f
  | _ => none

theorem fileFault?_eq_some_iff {x : Effect α} {f : FileFault} :
    x.fileFault? = some f ↔ x.outcome = .error (.files f) := by
  rw [fileFault?]
  split
  · next f' h => simp [h]
  · next h => simpa using h f

theorem fileFault?_eq_none_iff {x : Effect α} :
    x.fileFault? = none ↔ ∀ f, x.outcome ≠ .error (.files f) := by
  simp [Option.eq_none_iff_forall_ne_some, fileFault?_eq_some_iff]

/-! ## Chains -/

/-- After a value the chain goes on with the second step. -/
theorem andThen_of_ok {x : Effect α} {a : α} (h : x.outcome = .ok a) (f : α → FileTree → Effect β) :
    (x.andThen f).outcome = (f a x.tree).outcome ∧ (x.andThen f).tree = (f a x.tree).tree := by
  rw [andThen, h]
  exact ⟨rfl, rfl⟩

/-- After a failure the chain ends with it, and leaves what the first step does. -/
theorem andThen_of_error {x : Effect α} {e : Failure} (h : x.outcome = .error e)
    (f : α → FileTree → Effect β) :
    (x.andThen f).outcome = .error e ∧ (x.andThen f).tree = x.tree := by
  rw [andThen, h]
  exact ⟨rfl, rfl⟩

@[simp] theorem outcome_report_andThen (es : List Event) (t : FileTree)
    (f : Unit → FileTree → Effect β) : ((report es t).andThen f).outcome = (f () t).outcome := rfl

@[simp] theorem tree_report_andThen (es : List Event) (t : FileTree)
    (f : Unit → FileTree → Effect β) : ((report es t).andThen f).tree = (f () t).tree := rfl

/-- Ending a chain with a value taken from the first step changes no file. -/
theorem andThen_value (x : Effect α) (g : α → β) :
    (x.andThen fun a t => ok (g a) t).outcome = x.outcome.map g ∧
      (x.andThen fun a t => ok (g a) t).tree = x.tree := by
  rw [andThen]
  cases x.outcome <;> exact ⟨rfl, rfl⟩

end TypedReference.Effect

/-
# Arguments that are read

What an argument of a signature looks like: its name is never empty, its depth is never negative,
and its type is that of a name in some layers of arrays. A signature is refused only for what
stands in its text.
-/
import TypedReference.Signature
import TypedReference.Proofs.TypeExpr.Typing

namespace TypedReference

open Text

/-! ## Arguments and members that fit -/

/-- An argument with a name, a depth that can be counted, and a type of the kind `P`. -/
structure Argument.Fits (P : ApiType → Prop) (arg : Argument) : Prop where
  /-- The name is there. -/
  name_ne_empty : arg.name ≠ ""
  /-- Brackets are counted from none on. -/
  depth_nonneg : 0 ≤ arg.arrayDepth
  /-- The type is of the kind. -/
  type : P arg.type

/-- All arguments and the result or the value of a member fit. -/
def MemberKind.Fits (P : ApiType → Prop) : MemberKind → Prop
  | method args ret => (∀ arg ∈ args, arg.Fits P) ∧ P ret
  | constructor args => ∀ arg ∈ args, arg.Fits P
  | property type => P type
  | constant type => P type

/-- The types of a member that fits are of the kind. -/
theorem MemberKind.Fits.types {P : ApiType → Prop} {k : MemberKind} (h : k.Fits P) :
    ∀ t ∈ k.types, P t := by
  intro t ht
  cases k with
  | method args ret =>
      rcases List.mem_append.1 ht with ht | ht
      · obtain ⟨arg, harg, rfl⟩ := List.mem_map.1 ht
        exact (h.1 arg harg).type
      · rw [List.mem_singleton] at ht
        rw [ht]
        exact h.2
  | constructor args =>
      obtain ⟨arg, harg, rfl⟩ := List.mem_map.1 ht
      exact (h arg harg).type
  | property type | constant type =>
      rw [MemberKind.types, List.mem_singleton] at ht
      rw [ht]
      exact h

/-! ## Names of arguments -/

theorem argumentName_ne_nil (position : Int) (ident : List Char) :
    argumentName position ident ≠ [] := by
  unfold argumentName
  split
  · simp
  · split <;> simp

/-- Escaping leaves no name empty. -/
theorem Conventions.escaped_ne_empty (cfg : Conventions) {name : String} (h : name ≠ "") :
    cfg.escaped name ≠ "" := by
  unfold escaped
  split
  · intro hempty
    exact h (String.append_eq_empty_iff.1 hempty).2
  · exact h

/-! ## Reading -/

section

variable {cfg : Conventions} {classes : ClassPaths}

/-- An argument that is read comes from the brackets around its text and the type of a name. -/
theorem readArgument_eq_ok {position : Int} {token : List Char} {arg : Argument}
    (h : (readArgument cfg classes position token).outcome = .ok arg) :
    ∃ p name t, peelBrackets (bareArgument token) = .ok p ∧
      (resolveName classes name).outcome = .ok t ∧
      arg = { name := cfg.escaped (String.ofList (argumentName position p.inner))
              optional := marksOptional token
              arrayDepth := p.depth
              type := t.arrays p.depth } := by
  unfold readArgument at h
  split at h
  · cases h
  · next ident depth hp =>
    rw [Logged.outcome_map_eq_ok_iff] at h
    obtain ⟨t, ht, rfl⟩ := h
    exact ⟨_, _, t, hp, ht, rfl⟩

/-- The arguments that are read fit every hereditary kind that holds of the types of names. -/
theorem fits_of_readArgument {P : ApiType → Prop} (hP : ApiType.Hereditary P)
    (hname : ∀ x t, (resolveName classes x).outcome = .ok t → P t) {position : Int}
    {token : List Char} {arg : Argument}
    (h : (readArgument cfg classes position token).outcome = .ok arg) : arg.Fits P := by
  obtain ⟨p, name, t, -, ht, rfl⟩ := readArgument_eq_ok h
  refine ⟨?_, Int.natCast_nonneg _, hP.arrays _ (hname _ _ ht)⟩
  apply cfg.escaped_ne_empty
  intro hempty
  exact argumentName_ne_nil position p.inner (String.ofList_eq_empty_iff.1 hempty)

/-- Each argument of a signature has been read from some text. -/
theorem fits_of_readSignature {P : ApiType → Prop} (hP : ApiType.Hereditary P)
    (hname : ∀ x t, (resolveName classes x).outcome = .ok t → P t) {l : List Char}
    {sig : Signature} (h : (readSignature cfg classes l).outcome = .ok (some sig)) :
    ∀ arg ∈ sig.args, arg.Fits P := by
  unfold readSignature at h
  split at h
  · rw [Logged.outcome_map_eq_ok_iff] at h
    obtain ⟨args, hargs, hsig⟩ := h
    cases hsig
    intro arg harg
    obtain ⟨⟨token, i⟩, -, hread⟩ := Logged.exists_of_mem_mapAll hargs harg
    exact fits_of_readArgument hP hname hread
  · split at h <;> cases h

/-! ## Faults -/

/-- An argument can only be refused for what stands in its text. -/
theorem faultsIn_readArgument (h : classes.Usable) (position : Int) (token : List Char) :
    (readArgument cfg classes position token).FaultsIn AssemblyFault.InPage := by
  unfold readArgument
  split
  · exact Logged.FaultsIn.fail ⟨_, rfl⟩
  · apply Logged.FaultsIn.map
    intro e he
    exact absurd ⟨e, he⟩ (not_fails_resolveName h _)

/-- A signature can only be refused for what stands in its text. -/
theorem faultsIn_readSignature (h : classes.Usable) (l : List Char) :
    (readSignature cfg classes l).FaultsIn AssemblyFault.InPage := by
  unfold readSignature
  split
  · exact (Logged.FaultsIn.mapAll fun a _ => faultsIn_readArgument h a.2 a.1).map
  · split
    · exact Logged.FaultsIn.ok none
    · exact Logged.FaultsIn.fail ⟨_, rfl⟩

end

end TypedReference

/-
# Registries over a whole run

Whatever steps are taken in whatever order, each registry holds what was registered in it before it
was first frozen. Registering is refused from then on, reading is refused until then, and a step
that is refused or only asks changes nothing.
-/
import TypedReference.Proofs.Registration
import TypedReference.Proofs.Resolution
import TypedReference.Registries

namespace TypedReference

open Text

namespace RegistryStep

/-! ## What steps register -/

/-- The class path that a step registers, if it does. -/
def classPath? : RegistryStep → Option (List String)
  | registerClass path => some path
  | _ => none

/-- The path of a constant that a step registers, if it does. -/
def constantPath? : RegistryStep → Option String
  | registerConstant path => some path
  | _ => none

/-- The steps in front of the one that first freezes a registry. -/
def beforeFreeze (role : RegistryRole) (steps : List RegistryStep) : List RegistryStep :=
  steps.takeWhile fun s => s ≠ freeze role

/-- The class paths that are registered before the registry is first frozen, in order. -/
def classPaths (steps : List RegistryStep) : List (List String) :=
  (beforeFreeze .classPaths steps).filterMap classPath?

/-- The paths of constants that are registered before the registry is first frozen, in order and as
often as they are. -/
def constantPaths (steps : List RegistryStep) : List String :=
  (beforeFreeze .constants steps).filterMap constantPath?

section

variable {role : RegistryRole} {steps : List RegistryStep} {s : RegistryStep}

/-- As long as nothing has frozen the registry, every step counts. -/
theorem beforeFreeze_of_not_mem (h : freeze role ∉ steps) : beforeFreeze role steps = steps := by
  rw [beforeFreeze, List.takeWhile_eq_self_iff]
  intro s' hs'
  have hne : s' ≠ freeze role := by
    rintro rfl
    exact h hs'
  simpa using hne

/-- After a freeze no further step counts. -/
theorem beforeFreeze_concat_of_mem (h : freeze role ∈ steps) :
    beforeFreeze role (steps ++ [s]) = beforeFreeze role steps := by
  obtain ⟨front, back, rfl⟩ := List.append_of_mem h
  unfold beforeFreeze
  induction front with
  | nil => simp
  | cons first front ih =>
      have hback : freeze role ∈ front ++ freeze role :: back := by simp
      rw [List.cons_append, List.cons_append, List.takeWhile_cons, List.takeWhile_cons, ih hback]

/-- What one more step adds to what has been registered. -/
theorem filterMap_beforeFreeze_concat {α : Type} {f : RegistryStep → Option α}
    (hf : f (freeze role) = none) :
    (beforeFreeze role (steps ++ [s])).filterMap f =
      (beforeFreeze role steps).filterMap f ++
        if freeze role ∈ steps then [] else (f s).toList := by
  by_cases h : freeze role ∈ steps
  · rw [if_pos h, List.append_nil, beforeFreeze_concat_of_mem h]
  · rw [if_neg h]
    by_cases hs : s = freeze role
    · -- The step that freezes the registry registers nothing itself.
      have hfreeze : beforeFreeze role (steps ++ [freeze role]) = steps := by
        rw [beforeFreeze, List.takeWhile_append_of_pos]
        · simp
        · exact List.takeWhile_eq_self_iff.1 (beforeFreeze_of_not_mem h)
      rw [hs, hfreeze, beforeFreeze_of_not_mem h, hf, Option.toList_none, List.append_nil]
    · have hall : freeze role ∉ steps ++ [s] := by
        simp [h, Ne.symm hs]
      rw [beforeFreeze_of_not_mem hall, beforeFreeze_of_not_mem h, List.filterMap_append]
      cases hfs : f s <;> simp [hfs]

end

end RegistryStep

namespace Registries

open RegistryStep

/-! ## What one step leaves -/

/-- A step registers a class path or ends the registration; otherwise it leaves the class paths as
they are, and so does every step on a frozen registry. -/
theorem classes_step (r : Registries) (s : RegistryStep) :
    (r.step s).2.classes =
      ⟨r.classes.entries ++ if r.classes.frozen then [] else s.classPath?.toList,
        r.classes.frozen || decide (s = freeze .classPaths)⟩ := by
  obtain ⟨⟨entries, frozen⟩, constants⟩ := r
  cases s with
  | registerClass path =>
      cases frozen <;> simp [step, ClassPaths.insert, Registry.register, classPath?]
  | registerConstant path =>
      cases hinsert : constants.insert path <;> simp [step, hinsert, classPath?]
  | freeze role =>
      cases role <;> simp [step, classPath?, Registry.freeze]
  | askFrozen role | askSize role | read role => cases role <;> simp [step, classPath?]
  | iterate | resolve name => simp [step, classPath?]

/-- A step registers the path of a constant unless it is there, or ends the registration; otherwise
it leaves the constants as they are, and so does every step on a frozen registry. -/
theorem constants_step (r : Registries) (s : RegistryStep) (paths : List String)
    (hentries : r.constants.entries = paths.eraseDups) :
    (r.step s).2.constants =
      ⟨(paths ++ if r.constants.frozen then [] else s.constantPath?.toList).eraseDups,
        r.constants.frozen || decide (s = freeze .constants)⟩ := by
  obtain ⟨classes, ⟨entries, frozen⟩⟩ := r
  simp only at hentries
  subst hentries
  cases s with
  | registerConstant path =>
      cases frozen with
      | true => simp [step, ConstantPaths.insert, Registry.register, Except.map]
      | false =>
          rw [if_neg Bool.false_ne_true, constantPath?, Option.toList_some,
            Lists.eraseDups_concat]
          by_cases hmem : path ∈ paths <;>
            simp [step, ConstantPaths.insert, Registry.register, Except.map, hmem]
  | registerClass path =>
      cases hinsert : classes.insert path <;> simp [step, hinsert, constantPath?]
  | freeze role =>
      cases role <;> simp [step, constantPath?, Registry.freeze]
  | askFrozen role | askSize role | read role => cases role <;> simp [step, constantPath?]
  | iterate | resolve name => simp [step, constantPath?]

/-! ## What a run leaves -/

/-- After some steps each registry holds what was registered before its first freeze, each constant
once, and is frozen if it has been frozen. -/
theorem after_eq (steps : List RegistryStep) :
    after steps = {
      classes := ⟨RegistryStep.classPaths steps, decide (freeze .classPaths ∈ steps)⟩
      constants :=
        ⟨(RegistryStep.constantPaths steps).eraseDups, decide (freeze .constants ∈ steps)⟩ } := by
  induction steps using List.reverseRecOn with
  | nil => rfl
  | append_singleton steps s ih =>
      have hlast : after (steps ++ [s]) = ((after steps).step s).2 := by
        rw [after, List.foldl_append]
        rfl
      have hclasses := classes_step (after steps) s
      have hconstants := constants_step (after steps) s (RegistryStep.constantPaths steps)
        (by rw [ih])
      rw [ih] at hclasses hconstants
      rw [hlast, ih]
      refine congrArg₂ Registries.mk ?_ ?_
      · rw [hclasses, RegistryStep.classPaths, RegistryStep.classPaths,
          filterMap_beforeFreeze_concat rfl]
        simp [eq_comm]
      · rw [hconstants, RegistryStep.constantPaths, RegistryStep.constantPaths,
          filterMap_beforeFreeze_concat rfl]
        simp [eq_comm]

/-! ## What a run answers -/

section

variable {steps : List RegistryStep}

/-- While the class paths are open, every class path is taken. -/
theorem step_registerClass_open (h : freeze .classPaths ∉ steps) (path : List String) :
    ((after steps).step (.registerClass path)).1 = .ok .done := by
  simp [after_eq, step, ClassPaths.insert, Registry.register, h]

/-- While the constants are open, the path of a constant is new unless it has been registered. -/
theorem step_registerConstant_open (h : freeze .constants ∉ steps) (path : String) :
    ((after steps).step (.registerConstant path)).1 =
      .ok (.flag (decide (path ∉ RegistryStep.constantPaths steps))) := by
  by_cases hmem : path ∈ RegistryStep.constantPaths steps <;>
    simp [after_eq, step, ConstantPaths.insert, Registry.register, Except.map, h, hmem]

/-- No class path is taken after the class paths have been frozen. -/
theorem step_registerClass_frozen (h : freeze .classPaths ∈ steps) (path : List String) :
    (after steps).step (.registerClass path) = (.fail (.frozen .classPaths), after steps) := by
  simp [after_eq, step, ClassPaths.insert, Registry.register, h]

/-- No path of a constant is taken after the constants have been frozen, whether it is there or
not. -/
theorem step_registerConstant_frozen (h : freeze .constants ∈ steps) (path : String) :
    (after steps).step (.registerConstant path) = (.fail (.frozen .constants), after steps) := by
  simp [after_eq, step, ConstantPaths.insert, Registry.register, Except.map, h]

/-- An open registry cannot be read. -/
theorem step_read_open {role : RegistryRole} (h : freeze role ∉ steps) :
    (after steps).step (.read role) = (.fail (.unfrozen role), after steps) := by
  cases role <;>
    simp [after_eq, step, ClassPaths.paths, ConstantPaths.paths, Registry.read, Except.map,
      Logged.ofExcept, Logged.fail, h]

/-- What a registry answers once it is frozen, when its entries are read. -/
def entriesAnswer (steps : List RegistryStep) : RegistryRole → RegistryAnswer
  | .classPaths => .classPaths (RegistryStep.classPaths steps)
  | .constants => .constantPaths (RegistryStep.constantPaths steps).eraseDups

/-- A frozen registry is read as often as one likes. -/
theorem step_read_frozen {role : RegistryRole} (h : freeze role ∈ steps) :
    (after steps).step (.read role) = (.ok (entriesAnswer steps role), after steps) := by
  cases role <;>
    simp [after_eq, step, ClassPaths.paths, ConstantPaths.paths, Registry.read, Except.map,
      Logged.ofExcept, Logged.ok, entriesAnswer, h]

/-- Going through the constants is reading them. -/
theorem step_iterate (r : Registries) : r.step .iterate = r.step (.read .constants) := rfl

/-- Before the class paths are frozen, only an undotted name with a fixed meaning has a type. -/
theorem outcome_step_resolve_open (h : freeze .classPaths ∉ steps) (name : List Char) :
    ((after steps).step (.resolve name)).1.outcome =
      if '.' ∈ trim name then .error (.unfrozen .classPaths)
      else match knownNames.lookup (String.ofList (singular (trim name))) with
        | some t => .ok (.type t)
        | none => .error (.unfrozen .classPaths) := by
  have hopen : (after steps).classes.frozen = false := by
    rw [after_eq]
    simpa using h
  show (resolveName (after steps).classes name).outcome.map RegistryAnswer.type = _
  rw [outcome_resolveName_unfrozen hopen]
  by_cases hdot : '.' ∈ trim name
  · rw [if_pos hdot, if_pos hdot]
    rfl
  · rw [if_neg hdot, if_neg hdot]
    cases knownNames.lookup (String.ofList (singular (trim name))) <;> rfl

end

/-! ## The discipline -/

/-- What holds of the registries after some steps, and of the step that comes next. -/
structure Disciplined (steps : List RegistryStep) : Prop where
  /-- The class paths are those registered before the first freeze. -/
  classes : (after steps).classes.entries = RegistryStep.classPaths steps
  /-- The constants are those registered before the first freeze, each at its first occurrence. -/
  constants : (after steps).constants.entries = (RegistryStep.constantPaths steps).eraseDups
  /-- A registry says whether it has been frozen. -/
  askFrozen : ∀ role,
    (after steps).step (.askFrozen role) = (.ok (.flag (decide (freeze role ∈ steps))), after steps)
  /-- The class paths are counted at any time. -/
  sizeClasses : (after steps).step (.askSize .classPaths) =
    (.ok (.count (RegistryStep.classPaths steps).length), after steps)
  /-- The constants are counted at any time. -/
  sizeConstants : (after steps).step (.askSize .constants) =
    (.ok (.count (RegistryStep.constantPaths steps).eraseDups.length), after steps)
  /-- A class path is taken before the class paths are frozen, and refused afterwards. -/
  registerClass : ∀ path,
    if freeze .classPaths ∈ steps then
      (after steps).step (.registerClass path) = (.fail (.frozen .classPaths), after steps)
    else ((after steps).step (.registerClass path)).1 = .ok .done
  /-- The path of a constant is taken before the constants are frozen, where it is new at its first
  occurrence only, and refused afterwards. -/
  registerConstant : ∀ path,
    if freeze .constants ∈ steps then
      (after steps).step (.registerConstant path) = (.fail (.frozen .constants), after steps)
    else ((after steps).step (.registerConstant path)).1 =
      .ok (.flag (decide (path ∉ RegistryStep.constantPaths steps)))
  /-- Reading a registry is refused before it is frozen, and gives its entries afterwards. -/
  read : ∀ role, (after steps).step (.read role) =
    (if freeze role ∈ steps then .ok (entriesAnswer steps role) else .fail (.unfrozen role),
      after steps)
  /-- So is going through the constants. -/
  iterate : (after steps).step .iterate =
    (if freeze .constants ∈ steps then .ok (entriesAnswer steps .constants)
      else .fail (.unfrozen .constants), after steps)
  /-- Resolving a name changes nothing. -/
  resolve : ∀ name, ((after steps).step (.resolve name)).2 = after steps
  /-- Before the class paths are frozen, exactly the dotted names and those without a fixed meaning
  are refused. -/
  resolveOpen : freeze .classPaths ∉ steps → ∀ name,
    (((after steps).step (.resolve name)).1.outcome = .error (.unfrozen .classPaths) ↔
      '.' ∈ trim name ∨ knownNames.lookup (String.ofList (singular (trim name))) = none)
  /-- The others get their fixed meaning. -/
  resolveKnown : freeze .classPaths ∉ steps → ∀ name t, '.' ∉ trim name →
    knownNames.lookup (String.ofList (singular (trim name))) = some t →
    ((after steps).step (.resolve name)).1.outcome = .ok (.type t)

/-- **Phases of the registries.** Whatever steps have been taken, the registries are disciplined:
each holds what was registered before its first freeze, takes no more afterwards, and is not read
before. -/
theorem disciplined (steps : List RegistryStep) : Disciplined steps where
  classes := by rw [after_eq]
  constants := by rw [after_eq]
  askFrozen := by
    intro role
    cases role <;> simp [after_eq, step]
  sizeClasses := by simp [after_eq, step, Registry.size]
  sizeConstants := by simp [after_eq, step, Registry.size]
  registerClass := by
    intro path
    split
    · next h => exact step_registerClass_frozen h path
    · next h => exact step_registerClass_open h path
  registerConstant := by
    intro path
    split
    · next h => exact step_registerConstant_frozen h path
    · next h => exact step_registerConstant_open h path
  read := by
    intro role
    split
    · next h => exact step_read_frozen h
    · next h => exact step_read_open h
  iterate := by
    rw [step_iterate]
    split
    · next h => exact step_read_frozen h
    · next h => exact step_read_open h
  resolve := fun _ => rfl
  resolveOpen := by
    intro h name
    rw [outcome_step_resolve_open h]
    by_cases hdot : '.' ∈ trim name
    · simp [hdot]
    · cases hknown : knownNames.lookup (String.ofList (singular (trim name))) <;> simp [hdot]
  resolveKnown := by
    intro h name t hdot hknown
    rw [outcome_step_resolve_open h, if_neg hdot, hknown]

end Registries

end TypedReference

/-
# Registration

The registries of a page are what registering one path after another and then freezing gives: as
long as nothing is frozen, no registration is refused.
-/
import TypedReference.Proofs.Lists
import TypedReference.Registry

namespace TypedReference

/-! ## Class paths -/

namespace ClassPaths

/-- Registers class paths in order and ends the registration. -/
def registerAll (paths : List (List String)) : Except AssemblyFault ClassPaths :=
  (paths.foldlM insert Registry.empty).map Registry.freeze

/-- An open registry takes every path. -/
theorem foldlM_insert (paths : List (List String)) :
    paths.foldlM insert Registry.empty = .ok ⟨paths, false⟩ := by
  induction paths using List.reverseRecOn with
  | nil => rfl
  | append_singleton paths path ih =>
      rw [List.foldlM_append, ih]
      rfl

/-- Registering class paths one by one is never refused and keeps them all. -/
theorem registerAll_eq (paths : List (List String)) : registerAll paths = .ok (.ofList paths) := by
  rw [registerAll, foldlM_insert]
  rfl

end ClassPaths

/-! ## Constant paths -/

namespace ConstantPaths

/-- Registers constant paths in order, whether they are new or not, and ends the registration. -/
def registerAll (paths : List String) : Except AssemblyFault ConstantPaths :=
  (paths.foldlM (fun r path => (insert r path).map Prod.snd) Registry.empty).map Registry.freeze

/-- An open registry keeps every path at its first occurrence. -/
theorem foldlM_insert (paths : List String) :
    paths.foldlM (fun r path => (insert r path).map Prod.snd) Registry.empty =
      .ok ⟨paths.eraseDups, false⟩ := by
  induction paths using List.reverseRecOn with
  | nil => rfl
  | append_singleton paths path ih =>
      -- A path that is already there is not registered again, and it is no first occurrence.
      have hinsert : (insert ⟨paths.eraseDups, false⟩ path).map Prod.snd =
          .ok ⟨if path ∈ paths then paths.eraseDups else paths.eraseDups ++ [path], false⟩ := by
        by_cases hmem : path ∈ paths <;> simp [insert, Registry.register, Except.map, hmem]
      rw [List.foldlM_append, ih, Lists.eraseDups_concat, ← hinsert]
      show ((insert ⟨paths.eraseDups, false⟩ path).map Prod.snd >>= pure) = _
      exact bind_pure _

/-- Registering constant paths one by one is never refused and keeps each at its first
occurrence. -/
theorem registerAll_eq (paths : List String) : registerAll paths = .ok (.ofPaths paths) := by
  rw [registerAll, foldlM_insert]
  rfl

end ConstantPaths

end TypedReference

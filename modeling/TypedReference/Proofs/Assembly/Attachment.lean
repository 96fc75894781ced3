/-
# What attaching changes

Attaching the constants of a registry to a list of declarations, looked at place by place. The first
declaration with a path gets the constants that it owns behind its members, every other declaration
stays as it is, and each constant is counted as a new member or reported without an owner.
-/
import TypedReference.Proofs.Assembly.Conservation

namespace TypedReference

/-! ## Owned and missing constants -/

namespace Constant

/-- The name of a constant, if the declaration with a path owns it. -/
def nameIn? (declaration : List String) (path : String) : Option String :=
  match owner path with
  | .ok (ownerPath, name) => if ownerPath = declaration then some name else none
  | .error _ => none

/-- The report on a constant, if none of some declarations owns it. -/
def missing? (ds : List Declaration) (path : String) : Option Event :=
  match owner path with
  | .ok (ownerPath, _) =>
    if (ds.map Declaration.path).contains ownerPath then none
    else some (.ownerMissing ownerPath path)
  | .error _ => none

variable {paths : List String} (h : ∀ path ∈ paths, ∃ o, owner path = .ok o)
include h

/-- The names of the constants that a declaration owns are selected one by one. -/
theorem namesOf_eq_filterMap (declaration : List String) :
    namesOf paths declaration = paths.filterMap (nameIn? declaration) := by
  induction paths with
  | nil => rfl
  | cons path paths ih =>
      obtain ⟨hpath, hpaths⟩ := List.forall_mem_cons.1 h
      rw [namesOf_cons, ih hpaths, List.filterMap_cons, nameIn?, owner_eq hpath]
      by_cases hdeclaration : declaration = ownerPath path
      · simp [hdeclaration]
      · simp [hdeclaration, Ne.symm hdeclaration]

/-- So are the reports on constants without owners. -/
theorem map_ownerMissing_eq_filterMap (ds : List Declaration) :
    ((paths.filter fun path => !isOwned ds path).map
        fun path => Event.ownerMissing (ownerPath path) path) =
      paths.filterMap (missing? ds) := by
  induction paths with
  | nil => rfl
  | cons path paths ih =>
      obtain ⟨hpath, hpaths⟩ := List.forall_mem_cons.1 h
      have howned : (ds.map Declaration.path).contains (ownerPath path) = isOwned ds path := rfl
      rw [List.filterMap_cons, missing?, owner_eq hpath, ← ih hpaths, List.filter_cons]
      simp only [howned]
      cases isOwned ds path with
      | true => simp
      | false => simp

end Constant

/-! ## Place by place -/

/-- What the declaration at a place is given. -/
theorem Declaration.getElem?_giveEach (names : List String → List String)
    (earlier : List (List String)) (ds : List Declaration) (i : Nat) :
    (giveEach names earlier ds)[i]? = ds[i]?.map fun d => d.withConstants
      (if d.path ∈ earlier ∨ d.path ∈ (ds.take i).map path then [] else names d.path) := by
  induction ds generalizing earlier i with
  | nil => rfl
  | cons d ds ih =>
      rw [giveEach]
      cases i with
      | zero => simp
      | succ i =>
          have hmet : ∀ p, (p ∈ d.path :: earlier ∨ p ∈ (ds.take i).map path) ↔
              (p ∈ earlier ∨ p ∈ ((d :: ds).take (i + 1)).map path) := by
            intro p
            rw [List.take_succ_cons, List.map_cons, List.mem_cons, List.mem_cons, or_assoc,
              or_left_comm]
          rw [List.getElem?_cons_succ, List.getElem?_cons_succ, ih]
          simp only [hmet]

/-- Some constants have been attached to declarations: what has become of each declaration, how many
members there are more, and what has been reported. -/
structure Attached (paths : List String) (ds out : List Declaration) (count : Nat)
    (log : List Event) : Prop where
  /-- The first declaration with a path gets the constants that it owns, in order and behind its
  members, each as a static member of type `int` without a description or overloads. Every other
  declaration stays as it is. -/
  declarations : ∀ i, out[i]? = ds[i]?.map fun d =>
    if d.path ∈ (ds.take i).map Declaration.path then d
    else
      let constant (name : String) : Member :=
        { name, kind := .constant .int, doc := "", isStatic := true, overloads := [] }
      let owned := paths.filterMap (Constant.nameIn? d.path)
      { d with members := d.members ++ owned.map constant }
  /-- The count is that of the new members. -/
  members : memberTotal out = memberTotal ds + count
  /-- Each constant without an owner is reported, and nothing else is. -/
  reports : log = paths.filterMap (Constant.missing? ds)
  /-- A constant is counted or reported. -/
  balance : count + log.length = paths.length

/-- **Attaching constants.** A frozen registry of constants with dots in their paths is attached to
whatever declarations there are: each first declaration with a path gets exactly the constants that
it owns, and nothing else changes. -/
theorem attached_attachConstants (ds : List Declaration) {constants : ConstantPaths}
    (hfrozen : constants.frozen = true) (hdots : ∀ path ∈ constants.entries, '.' ∈ path.toList) :
    ∃ out count, (attachConstants ds constants).outcome = .ok (out, count) ∧
      Attached constants.entries ds out count (attachConstants ds constants).events := by
  have howners : ∀ path ∈ constants.entries, ∃ o, Constant.owner path = .ok o :=
    fun path hpath => Constant.exists_owner (hdots path hpath)
  have hread : attachConstants ds constants = attachAll constants.entries ds := by
    rw [attachConstants, ConstantPaths.paths, Registry.read, if_pos hfrozen]
    rfl
  have hrun := @attachAll_eq constants.entries ds howners
  have houtcome := congrArg Logged.outcome hrun
  rw [hread]
  refine ⟨_, _, houtcome, ?_, memberTotal_attachAll houtcome, ?_, ?_⟩
  · intro i
    rw [Declaration.getElem?_giveEach]
    congr 1
    funext d
    rw [Constant.namesOf_eq_filterMap howners]
    simp only [List.not_mem_nil, false_or]
    split
    · exact d.withConstants_nil
    · rfl
  · rw [hrun]
    exact Constant.map_ownerMissing_eq_filterMap howners ds
  · -- The constants with an owner are counted, the others reported.
    have hsplit := List.length_eq_countP_add_countP (Constant.isOwned ds) (l := constants.entries)
    rw [hrun, List.length_map, ← List.countP_eq_length_filter]
    simpa only [Bool.not_eq_true, Bool.decide_eq_false] using hsplit.symm

/-- A class that is declared twice, the first time with a member. -/
def viewTwice : List Declaration :=
  [⟨["plugin"], "View", [{ name := "size", kind := .property .int }]⟩, ⟨["plugin"], "View", []⟩]

/-- The first of two declarations gets the constants of the class, and a constant of a module that
is not there is reported. -/
theorem attached_attachConstants_viewTwice :
    let constants := ConstantPaths.ofPaths ["plugin.View.LEFT", "other.GONE", "plugin.View.TOP"]
    constants.frozen = true ∧ (∀ path ∈ constants.entries, '.' ∈ path.toList) ∧
      ∃ out, (attachConstants viewTwice constants).outcome = .ok (out, 2) ∧
        Attached constants.entries viewTwice out 2
          [.ownerMissing ["other", "Other"] "other.GONE"] ∧
        out.map Declaration.memberNames = [["size", "LEFT", "TOP"], []] := by
  intro constants
  have hdots : ∀ path ∈ constants.entries, '.' ∈ path.toList := by decide
  obtain ⟨out, count, hout, hattached⟩ := attached_attachConstants viewTwice rfl hdots
  cases hout
  exact ⟨rfl, hdots, _, rfl, hattached, rfl⟩

end TypedReference

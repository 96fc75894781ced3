/-
# Which constants a declaration gets

Attaching constants one after the other comes to one step: the first declaration with a path gets
all constants that this path owns, in their order, every other declaration stays as it is, and each
constant without an owner is reported. Merged, the constants stand behind what the page documents.
-/
import TypedReference.Proofs.Constant
import TypedReference.Proofs.Overload

namespace TypedReference

/-! ## Owners -/

namespace Constant

/-- The path of the declaration that owns a constant. -/
def ownerPath (path : String) : List String := ((owner path).toOption.map Prod.fst).getD []

/-- The name of a constant within its owner. -/
def simpleName (path : String) : String := ((owner path).toOption.map Prod.snd).getD ""

theorem owner_eq {path : String} (h : ∃ o, owner path = .ok o) :
    owner path = .ok (ownerPath path, simpleName path) := by
  obtain ⟨o, ho⟩ := h
  rw [ownerPath, simpleName, ho]
  rfl

/-- The names of those constants among some that the declaration with a path owns, in order. -/
def namesOf (paths : List String) (declaration : List String) : List String :=
  (paths.filter fun path => ownerPath path = declaration).map simpleName

theorem namesOf_cons (path : String) (paths : List String) (declaration : List String) :
    namesOf (path :: paths) declaration =
      if declaration = ownerPath path then simpleName path :: namesOf paths declaration
      else namesOf paths declaration := by
  unfold namesOf
  by_cases h : declaration = ownerPath path
  · simp [h]
  · simp [h, Ne.symm h]

/-- One of some declarations owns a constant. -/
def isOwned (ds : List Declaration) (path : String) : Bool :=
  (ds.map Declaration.path).contains (ownerPath path)

theorem isOwned_iff {ds : List Declaration} {path : String} :
    isOwned ds path = true ↔ ownerPath path ∈ ds.map Declaration.path := List.contains_iff_mem

end Constant

/-! ## Giving each owner its constants -/

namespace Declaration

@[simp] theorem withConstants_nil (d : Declaration) : d.withConstants [] = d := by
  rw [withConstants, List.map_nil, List.append_nil]

@[simp] theorem withConstants_path (d : Declaration) (names : List String) :
    (d.withConstants names).path = d.path := rfl

theorem withConstants_withConstants (d : Declaration) (names names' : List String) :
    (d.withConstants names).withConstants names' = d.withConstants (names ++ names') := by
  simp [withConstants]

/-- Each declaration with the constants that its path owns, unless an earlier declaration has the
same path. -/
def giveEach (names : List String → List String) :
    (earlier : List (List String)) → List Declaration → List Declaration
  | _, [] => []
  | earlier, d :: ds =>
    d.withConstants (if d.path ∈ earlier then [] else names d.path) ::
      giveEach names (d.path :: earlier) ds

variable {names names' : List String → List String} {earlier : List (List String)}

/-- Only the names for paths that are there and have not been met before count. -/
theorem giveEach_congr {ds : List Declaration}
    (h : ∀ d ∈ ds, d.path ∉ earlier → names d.path = names' d.path) :
    giveEach names earlier ds = giveEach names' earlier ds := by
  induction ds generalizing earlier with
  | nil => rfl
  | cons d ds ih =>
      obtain ⟨hd, hds⟩ := List.forall_mem_cons.1 h
      have htail : giveEach names (d.path :: earlier) ds =
          giveEach names' (d.path :: earlier) ds := by
        apply ih
        intro d' hd' hnew
        exact hds d' hd' fun hmem => hnew (List.mem_cons_of_mem _ hmem)
      rw [giveEach, giveEach, htail]
      by_cases hmem : d.path ∈ earlier
      · rw [if_pos hmem, if_pos hmem]
      · rw [if_neg hmem, if_neg hmem, hd hmem]

/-- Without constants nothing is given. -/
theorem giveEach_of_nil {ds : List Declaration} (h : ∀ path, names path = []) :
    giveEach names earlier ds = ds := by
  induction ds generalizing earlier with
  | nil => rfl
  | cons d ds ih => rw [giveEach, h, ite_self, withConstants_nil, ih]

/-- An earlier one of some sections is made into a declaration with the path. -/
def PathBefore {n : Nat} (made : Fin n → Option Declaration) (i : Fin n) (path : List String) :
    Prop := ∃ j < i, (made j).map Declaration.path = some path

instance {n : Nat} (made : Fin n → Option Declaration) (i : Fin n) (path : List String) :
    Decidable (PathBefore made i path) :=
  inferInstanceAs (Decidable (∃ j < i, (made j).map Declaration.path = some path))

theorem pathBefore_succ {n : Nat} {made : Fin (n + 1) → Option Declaration} {i : Fin n}
    {path : List String} : PathBefore made i.succ path ↔
      (made 0).map Declaration.path = some path ∨ PathBefore (fun j => made j.succ) i path := by
  simp [PathBefore, Fin.exists_fin_succ]

/-- What each place gets depends on the declarations in the places before it. -/
theorem giveEach_ofFn {n : Nat} (names : List String → List String) (earlier : List (List String))
    (made : Fin n → Option Declaration) :
    giveEach names earlier ((List.ofFn made).filterMap id) =
      (List.ofFn fun i => (made i).map fun d => d.withConstants
        (if d.path ∈ earlier ∨ PathBefore made i d.path then []
          else names d.path)).filterMap id := by
  induction n generalizing earlier with
  | zero => rfl
  | succ n ih =>
      have hfirst : ∀ path, ¬ PathBefore made 0 path := by
        rintro path ⟨j, hj, -⟩
        exact absurd hj (Fin.not_lt_zero j)
      rw [List.ofFn_succ, List.ofFn_succ]
      simp only [pathBefore_succ]
      cases hmade : made 0 with
      | none =>
          rw [List.filterMap_cons_none rfl, List.filterMap_cons_none rfl, ih]
          simp only [Option.map_none, reduceCtorEq, false_or]
      | some d =>
          have hmet : ∀ (path : List String) (later : Prop), (path ∈ d.path :: earlier ∨ later) ↔
              (path ∈ earlier ∨ some d.path = some path ∨ later) := by
            intro path later
            rw [List.mem_cons, Option.some.injEq, eq_comm, or_assoc, or_left_comm]
          have hnew : ∀ path, (path ∈ earlier ∨ PathBefore made 0 path) ↔ path ∈ earlier :=
            fun path => or_iff_left (hfirst path)
          rw [List.filterMap_cons_some (rfl : id (some d) = some d), giveEach, ih,
            Option.map_some, List.filterMap_cons_some (rfl : id (some _) = some _)]
          simp only [hmet, hnew, Option.map_some]

end Declaration

/-! ## One constant -/

section

variable {owner : List String} {m : Member} {ds ds' : List Declaration}

/-- A member finds no place when no declaration has the path. -/
theorem attachTo?_eq_none_iff : attachTo? owner m ds = none ↔ owner ∉ ds.map Declaration.path := by
  induction ds with
  | nil => simp [attachTo?]
  | cons d ds ih =>
      rw [attachTo?, List.map_cons, List.mem_cons]
      by_cases hpath : d.path = owner
      · simp [hpath]
      · rw [if_neg hpath, Option.map_eq_none_iff, ih, not_or]
        exact (and_iff_right (Ne.symm hpath)).symm

/-- Attaching changes no path. -/
theorem map_path_attachTo? (h : attachTo? owner m ds = some ds') :
    ds'.map Declaration.path = ds.map Declaration.path := by
  obtain ⟨before, d, after, rfl, -, -, rfl⟩ := attachTo?_eq_some h
  simp [Declaration.path]

/-- A constant that is attached first stands before those that its owner is given. -/
theorem giveEach_attachTo? {names : List String → List String} {earlier : List (List String)}
    {name : String} (hnew : owner ∉ earlier)
    (h : attachTo? owner (constantMember name) ds = some ds') :
    Declaration.giveEach names earlier ds' =
      Declaration.giveEach (fun path => if path = owner then name :: names path else names path)
        earlier ds := by
  induction ds generalizing earlier ds' with
  | nil => cases h
  | cons d ds ih =>
      rw [attachTo?] at h
      split at h
      · next hpath =>
        -- The first declaration is the owner; behind it the path has been met before.
        cases h
        have hgiven : ({ d with members := d.members ++ [constantMember name] } : Declaration) =
            d.withConstants [name] := rfl
        have htail : Declaration.giveEach names (d.path :: earlier) ds =
            Declaration.giveEach (fun path => if path = owner then name :: names path
              else names path) (d.path :: earlier) ds := by
          apply Declaration.giveEach_congr
          intro d' _ hd'
          rw [if_neg]
          rintro rfl
          exact hd' (by simp [hpath])
        rw [hgiven, Declaration.giveEach, Declaration.giveEach, Declaration.withConstants_path,
          Declaration.withConstants_withConstants, htail, hpath, if_neg hnew, if_neg hnew,
          if_pos rfl, List.singleton_append]
      · next hpath =>
        obtain ⟨out, hout, rfl⟩ := Option.map_eq_some_iff.1 h
        have hnew' : owner ∉ d.path :: earlier := by
          rw [List.mem_cons, not_or]
          exact ⟨Ne.symm hpath, hnew⟩
        rw [Declaration.giveEach, Declaration.giveEach, ih hnew' hout, if_neg hpath]

end

/-! ## All constants -/

/-- **Which constants are attached.** The first declaration with a path gets the constants that it
owns, in their order; the others are reported, each with the owner that is missing. -/
theorem attachAll_eq {paths : List String} {ds : List Declaration}
    (h : ∀ path ∈ paths, ∃ o, Constant.owner path = .ok o) :
    attachAll paths ds =
      ⟨.ok (Declaration.giveEach (Constant.namesOf paths) [] ds,
          paths.countP (Constant.isOwned ds)),
        (paths.filter fun path => !Constant.isOwned ds path).map
          fun path => .ownerMissing (Constant.ownerPath path) path⟩ := by
  -- The induction is on the constants; each finds the declarations that the ones before it left.
  induction paths generalizing ds with
  | nil =>
      have hgive : Declaration.giveEach (Constant.namesOf []) [] ds = ds :=
        Declaration.giveEach_of_nil fun _ => rfl
      rw [attachAll, hgive]
      rfl
  | cons path paths ih =>
      obtain ⟨hpath, hpaths⟩ := List.forall_mem_cons.1 h
      rw [attachAll, Constant.owner_eq hpath]
      cases hattach : attachTo? (Constant.ownerPath path)
          (constantMember (Constant.simpleName path)) ds with
      | none =>
          have hmissing := attachTo?_eq_none_iff.1 hattach
          have howned : Constant.isOwned ds path = false := by
            rw [Bool.eq_false_iff, Ne, Constant.isOwned_iff]
            exact hmissing
          have hgive : Declaration.giveEach (Constant.namesOf (path :: paths)) [] ds =
              Declaration.giveEach (Constant.namesOf paths) [] ds := by
            apply Declaration.giveEach_congr
            intro d hd _
            rw [Constant.namesOf_cons, if_neg]
            intro hd'
            exact hmissing (hd' ▸ List.mem_map_of_mem hd)
          rw [List.countP_cons_of_neg (by simp [howned]),
            List.filter_cons_of_pos (by simp [howned]), List.map_cons, hgive]
          simp only [Logged.andThen, Logged.ofExcept, Logged.report, hattach, ih hpaths]
          rfl
      | some ds' =>
          have howned : Constant.isOwned ds path = true := by
            rw [Constant.isOwned_iff]
            by_contra hmissing
            rw [attachTo?_eq_none_iff.2 hmissing] at hattach
            cases hattach
          have howners : Constant.isOwned ds' = Constant.isOwned ds := by
            funext p
            rw [Constant.isOwned, Constant.isOwned, map_path_attachTo? hattach]
          have hgive : Declaration.giveEach (Constant.namesOf paths) [] ds' =
              Declaration.giveEach (Constant.namesOf (path :: paths)) [] ds := by
            rw [giveEach_attachTo? List.not_mem_nil hattach]
            congr 1
            funext p
            rw [Constant.namesOf_cons]
          rw [List.countP_cons_of_pos howned, List.filter_cons_of_neg (by simp [howned]), ← hgive]
          simp only [Logged.andThen, Logged.ofExcept, Logged.map, hattach, ih hpaths, howners]
          rfl

/-! ## Merging what was given -/

/-- The names of constants that no member of a declaration has, each at its first occurrence. -/
def Declaration.newNames (d : Declaration) (names : List String) : List String :=
  (names.filter fun name => name ∉ d.memberNames).eraseDups

/-- The order of the constants only decides the order of those that are new. -/
theorem Declaration.perm_newNames (d : Declaration) {names names' : List String}
    (h : names.Perm names') : (d.newNames names).Perm (d.newNames names') :=
  Lists.perm_eraseDups (h.filter _)

/-- Constants go behind the members that are there, each once, and only where its name is new. -/
theorem Member.foldl_addTo_constants (kept : List Member) (names : List String) :
    (names.map constantMember).foldl addTo kept =
      kept ++ ((names.filter fun name => name ∉ kept.map Member.name).eraseDups).map
        constantMember := by
  induction names using List.reverseRecOn with
  | nil => simp
  | append_singleton names name ih =>
      have hnames : ∀ l : List String, (l.map constantMember).map Member.name = l := by
        intro l
        rw [List.map_map]
        exact List.map_id l
      have hname : (constantMember name).name = name := rfl
      rw [List.map_append, List.foldl_append, ih, List.map_singleton, List.foldl_cons,
        List.foldl_nil, addTo_of_not_method rfl, hname, List.map_append, hnames,
        List.filter_append]
      -- The name is taken by a member, or by a constant before it, or it is new.
      by_cases hkept : name ∈ kept.map Member.name
      · rw [List.filter_cons_of_neg (by simpa using hkept), List.filter_nil, List.append_nil,
          if_pos (List.mem_append_left _ hkept)]
      · rw [List.filter_cons_of_pos (by simpa using hkept), List.filter_nil,
          Lists.eraseDups_concat]
        by_cases hmem : name ∈ names.filter fun name => name ∉ kept.map Member.name
        · rw [if_pos (List.mem_append_right _ (List.mem_eraseDups.2 hmem)), if_pos hmem]
        · rw [if_neg, if_neg hmem, List.map_append, List.append_assoc]
          · rfl
          · rw [List.mem_append, List.mem_eraseDups, not_or]
            exact ⟨hkept, hmem⟩

/-- **Constants stand behind.** Merged with constants, a declaration has its merged members and
behind them the constants whose names are new. -/
theorem Declaration.mergeOverloads_withConstants (d : Declaration) (names : List String) :
    ((d.withConstants names).mergeOverloads).members =
      Member.merged d.members ++ (d.newNames names).map constantMember := by
  have hnames : ∀ name, name ∈ (Member.merged d.members).map Member.name ↔
      name ∈ d.memberNames := by
    intro name
    rw [Member.names_merged, List.mem_eraseDups, memberNames]
  rw [mergeOverloads, withConstants, Member.merged_append, Member.foldl_addTo_constants, newNames]
  simp only [hnames]

end TypedReference

/-
# Which sections own their constants

A description can name a constant of its section by the path of the section and one more segment.
The owner of that constant is found from the text of the path alone: a last segment with a capital
is taken for a class, any other one for a module. So it is the declaration of the section exactly
when the title is written as its kind wants it, and otherwise the constant goes elsewhere or
nowhere.
-/
import TypedReference.Proofs.Assembly.Attachment
import TypedReference.Proofs.Assembly.Files

namespace TypedReference

open Text

namespace Section

/-! ## The path of a constant behind that of a section -/

/-- The dotted path of a constant with one segment behind the path of a section. -/
def constantPath (s : Section) (name : String) : String := s.dottedName ++ "." ++ name

/-- The last segment is written as the kind wants it: with a capital for a class, and without one
for a module. -/
def IsCasedByKind (s : Section) : Prop :=
  (s.kind = .class ∧ startsUpper s.lastSegment.toList = true) ∨
    (s.kind = .module ∧ startsUpper s.lastSegment.toList = false)

instance (s : Section) : Decidable s.IsCasedByKind :=
  inferInstanceAs (Decidable (_ ∨ _))

/-- The path in front of the last segment, and the last segment. -/
theorem dropLast_append_lastSegment (s : Section) : s.path.dropLast ++ [s.lastSegment] = s.path :=
  List.dropLast_append_getLast s.path_ne_nil

variable {s : Section} {name : String} (hpath : ∀ segment ∈ s.path, '.' ∉ segment.toList)
  (hname : '.' ∉ name.toList)
include hpath hname

/-- Segments without dots can be read off the path of the constant. -/
theorem splitOn_constantPath :
    (s.constantPath name).toList.splitOn '.' = s.path.map String.toList ++ [name.toList] := by
  have hsegments : (['.'].intercalate (s.path.map String.toList)).splitOn '.' =
      s.path.map String.toList := by
    apply List.splitOn_intercalate
    · exact List.forall_mem_map.2 hpath
    · simpa using s.path_ne_nil
  have htext : (s.constantPath name).toList =
      ['.'].intercalate (s.path.map String.toList) ++ '.' :: name.toList := by
    rw [constantPath, String.toList_append, String.toList_append, dottedName,
      String.toList_intercalate, List.append_assoc]
    rfl
  rw [htext, List.splitOn_append_cons_self, hsegments, List.splitOn_eq_singleton hname]

/-- The owner goes by the last segment only. -/
theorem owner_constantPath : Constant.owner (s.constantPath name) =
    .ok (if startsUpper s.lastSegment.toList then s.path
      else s.path ++ [String.ofList (capitalized s.lastSegment.toList)], name) := by
  have hlast : (s.path.map String.toList).getLast? = some s.lastSegment.toList := by
    rw [← s.dropLast_append_lastSegment, List.map_append, List.map_singleton, List.getLast?_concat]
  have htexts : (s.path.map String.toList).map String.ofList = s.path := by simp
  rw [Constant.owner, splitOn_constantPath hpath hname]
  simp only [List.dropLast_concat, List.getLast?_concat, hlast, String.ofList_toList]
  split
  · rw [htexts]
  · rw [List.map_append, htexts, List.map_singleton]

end Section

/-! ## Constants of other declarations -/

/-- A constant adds nothing to the declarations that do not own it. -/
theorem Constant.namesOf_of_ownerPath_ne {before after declaration : List String} {path : String}
    (h : ownerPath path ≠ declaration) :
    namesOf (before ++ path :: after) declaration = namesOf (before ++ after) declaration := by
  simp [namesOf, h]

/-- One more constant has been attached: it makes no difference to the declarations that do not own
it, and it is counted when there is one that does. -/
structure AttachedOneMore (owner : List String) (ds out out' : List Declaration)
    (count count' : Nat) : Prop where
  /-- Only declarations with the path of the owner can be different. -/
  others : ∀ (i : Nat) (d : Declaration), ds[i]? = some d → d.path ≠ owner → out'[i]? = out[i]?
  /-- The constant is attached when there is an owner. -/
  counted : count' = count + if owner ∈ ds.map Declaration.path then 1 else 0

/-- A further constant of a registry goes to its owner. -/
theorem attachedOneMore {before after : List String} {path name : String} {owner : List String}
    (hpath : Constant.owner path = .ok (owner, name))
    (howners : ∀ p ∈ before ++ after, ∃ o, Constant.owner p = .ok o) (ds : List Declaration) :
    ∃ out out' count count',
      (attachConstants ds (Registry.ofList (before ++ after))).outcome = .ok (out, count) ∧
      (attachConstants ds (Registry.ofList (before ++ path :: after))).outcome =
        .ok (out', count') ∧
      AttachedOneMore owner ds out out' count count' := by
  have hread : ∀ paths, attachConstants ds (Registry.ofList paths) = attachAll paths ds :=
    fun _ => rfl
  have howners' : ∀ p ∈ before ++ path :: after, ∃ o, Constant.owner p = .ok o := by
    rw [List.forall_mem_append] at howners
    rw [List.forall_mem_append, List.forall_mem_cons]
    exact ⟨howners.1, ⟨_, hpath⟩, howners.2⟩
  have howner : Constant.ownerPath path = owner := by
    rw [Constant.ownerPath, hpath]
    rfl
  rw [hread, hread, attachAll_eq howners, attachAll_eq howners']
  refine ⟨_, _, _, _, rfl, rfl, ?_, ?_⟩
  · intro i d hd hne
    rw [Declaration.getElem?_giveEach, Declaration.getElem?_giveEach, hd, Option.map_some,
      Option.map_some, Constant.namesOf_of_ownerPath_ne (howner ▸ Ne.symm hne)]
  · have howned : Constant.isOwned ds path = true ↔ owner ∈ ds.map Declaration.path := by
      rw [Constant.isOwned_iff, howner]
    rw [List.countP_append, List.countP_append, List.countP_cons, ← Nat.add_assoc]
    simp only [howned]

/-! ## The declaration of a section -/

namespace Section

/-- **Agreement of the two identities.** The constant behind the path of a section is owned by the
declaration of the section exactly when the section is cased by its kind. Otherwise another path is
the owner: whatever declarations and constants there are, the constant makes no difference to a
declaration with the path of the section, and it is lost unless a declaration has that other
path. -/
theorem owner_constantPath_iff (s : Section) (name : String)
    (hpath : ∀ segment ∈ s.path, '.' ∉ segment.toList) (hname : '.' ∉ name.toList) :
    (Constant.owner (s.constantPath name) = .ok (s.declarationPath, name) ↔ s.IsCasedByKind) ∧
      (¬ s.IsCasedByKind → ∃ other,
        Constant.owner (s.constantPath name) = .ok (other, name) ∧ other ≠ s.declarationPath ∧
        ∀ (ds : List Declaration) (before after : List String),
          (∀ path ∈ before ++ after, '.' ∈ path.toList) →
          ∃ out out' count count',
            (attachConstants ds (Registry.ofList (before ++ after))).outcome = .ok (out, count) ∧
            (attachConstants ds (Registry.ofList
              (before ++ s.constantPath name :: after))).outcome = .ok (out', count') ∧
            AttachedOneMore other ds out out' count count') := by
  have howner := owner_constantPath hpath hname
  have hlonger : ∀ segment : String, s.path ++ [segment] ≠ s.path := by
    intro segment h
    have hlength := congrArg List.length h
    rw [List.length_append, List.length_singleton] at hlength
    omega
  have hagree : Constant.owner (s.constantPath name) = .ok (s.declarationPath, name) ↔
      s.IsCasedByKind := by
    rw [howner, Except.ok.injEq, Prod.mk.injEq, and_iff_left rfl, declarationPath, identity,
      IsCasedByKind]
    -- The two candidates differ in length, so each of the four cases has one answer.
    cases s.kind with
    | «class» =>
        simp only [s.dropLast_append_lastSegment]
        by_cases hupper : startsUpper s.lastSegment.toList = true
        · simp [hupper]
        · simp [hupper, hlonger]
    | module =>
        by_cases hupper : startsUpper s.lastSegment.toList = true
        · simp [hupper, Ne.symm (hlonger _)]
        · simp [hupper]
  refine ⟨hagree, ?_⟩
  intro hcase
  refine ⟨_, howner, ?_, ?_⟩
  · intro hsame
    exact hcase (hagree.1 (hsame ▸ howner))
  · intro ds before after hdots
    exact attachedOneMore howner (fun path hmem => Constant.exists_owner (hdots path hmem)) ds

/-- The declarations of a class with a lower case name and of a module of the same path. -/
def lowerCaseView : List Declaration :=
  [⟨["plugin"], "view", []⟩, ⟨["plugin", "view"], "View", []⟩]

/-- The constant behind the path of a lower case class goes to the module that is there, whatever
else is attached, and makes no difference to the class. -/
theorem owner_constantPath_iff_lowerCase :
    let view := classAt "plugin" "view" []
    (∀ segment ∈ view.path, '.' ∉ segment.toList) ∧ '.' ∉ "LEFT".toList ∧ ¬ view.IsCasedByKind ∧
      (∀ path ∈ ["plugin.View.TOP"] ++ [], '.' ∈ path.toList) ∧
      Constant.owner "plugin.view.LEFT" = .ok (["plugin", "view", "View"], "LEFT") ∧
      view.declarationPath = ["plugin", "view"] ∧
      ∃ out out' count, AttachedOneMore ["plugin", "view", "View"] lowerCaseView out out' count 1 ∧
        out'.map Declaration.memberNames = [[], ["LEFT"]] := by
  intro view
  have hpath : ∀ segment ∈ view.path, '.' ∉ segment.toList := by decide
  have hname : '.' ∉ "LEFT".toList := by decide
  have hcase : ¬ view.IsCasedByKind := by decide
  have hdots : ∀ path ∈ ["plugin.View.TOP"] ++ [], '.' ∈ path.toList := by decide
  have htext : view.constantPath "LEFT" = "plugin.view.LEFT" := by decide
  have howner : Constant.owner "plugin.view.LEFT" = .ok (["plugin", "view", "View"], "LEFT") := rfl
  have hrun : (attachConstants lowerCaseView
      (Registry.ofList ["plugin.View.TOP", "plugin.view.LEFT"])).outcome =
        .ok ([⟨["plugin"], "view", []⟩, ⟨["plugin", "view"], "View", [constantMember "LEFT"]⟩], 1) :=
    rfl
  obtain ⟨other, hother, -, hattach⟩ := (owner_constantPath_iff view "LEFT" hpath hname).2 hcase
  rw [htext] at hother hattach
  cases howner.symm.trans hother
  obtain ⟨out, out', count, count', -, hout', hmore⟩ :=
    hattach lowerCaseView ["plugin.View.TOP"] [] hdots
  cases hrun.symm.trans hout'
  exact ⟨hpath, hname, hcase, hdots, howner, rfl, out, _, count, hmore, rfl⟩

end Section

end TypedReference

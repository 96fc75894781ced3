/-
# Members that are read from rows

What a row can be made into (`Listed`). Each kind of table has one law for the members it lists,
and a section only collects them under its own identity.
-/
import TypedReference.Assembly
import TypedReference.Proofs.Signature

namespace TypedReference

open Text

/-- Constants are the members that come from descriptions. -/
def MemberKind.isConstant : MemberKind → Bool
  | constant .. => true
  | _ => false

section

variable {cfg : Conventions} {classes : ClassPaths}

/-! ## What is listed -/

variable (cfg classes) in
/-- The members that rows are made into. -/
inductive Listed : Member → Prop
  /-- A method has a signature and a result. -/
  | method {row : List String} {sig : Signature} {ret : ApiType} (isStatic : Bool) :
      (readSignature cfg classes (cell row 0).toList).outcome = .ok (some sig) →
      (typeOfText classes (cell row 1).toList).outcome = .ok ret →
      Listed { name := sig.name, kind := .method sig.args ret, doc := cell row 2, isStatic }
  /-- A constructor has a signature. -/
  | constructor {row : List String} {sig : Signature} :
      (readSignature cfg classes (cell row 0).toList).outcome = .ok (some sig) →
      Listed { name := sig.name, kind := .constructor sig.args, doc := cell row 1 }
  /-- A property has a name and the type of a name or of a text. -/
  | property {row : List String} {name : List Char} {t : ApiType} :
      name = trim (cell row 0).toList → name ≠ [] →
      ((resolveName classes name).outcome = .ok t ∨
        (typeOfText classes (condense (cell row 1).toList)).outcome = .ok t) →
      Listed { name := cfg.escaped (String.ofList name), kind := .property t, doc := cell row 2 }

/-- A listed member has one signature. -/
theorem Listed.kinds_eq {m : Member} (h : Listed cfg classes m) : m.kinds = [m.kind] := by
  cases h <;> rfl

/-- No row is made into a constant. -/
theorem Listed.isConstant_eq_false {m : Member} (h : Listed cfg classes m) :
    ∀ k ∈ m.kinds, k.isConstant = false := by
  rw [h.kinds_eq, List.forall_mem_singleton]
  cases h <;> rfl

/-- The signature of a listed member fits every hereditary kind that holds of the types of names. -/
theorem Listed.fits {P : ApiType → Prop} (hP : ApiType.Hereditary P)
    (hname : ∀ x t, (resolveName classes x).outcome = .ok t → P t) {m : Member}
    (h : Listed cfg classes m) : ∀ k ∈ m.kinds, k.Fits P := by
  rw [h.kinds_eq, List.forall_mem_singleton]
  cases h with
  | method isStatic hsig hret =>
      exact ⟨fits_of_readSignature hP hname hsig, hereditary_typeOfText hP hname hret⟩
  | constructor hsig => exact fits_of_readSignature hP hname hsig
  | property _ _ ht =>
      rcases ht with ht | ht
      · exact hname _ _ ht
      · exact hereditary_typeOfText hP hname ht

/-- Nothing is made of a row, or a method. -/
theorem listed_of_methodOfRow {isStatic : Bool} {row : List String} {m : Member}
    (h : (methodOfRow cfg classes isStatic row).outcome = .ok (some m)) :
    Listed cfg classes m := by
  rw [methodOfRow, Logged.outcome_andThen_eq_ok_iff] at h
  obtain ⟨sig?, hsig, h⟩ := h
  cases sig? with
  | none => cases h
  | some sig =>
      rw [Logged.outcome_map_eq_ok_iff] at h
      obtain ⟨ret, hret, hm⟩ := h
      cases hm
      exact Listed.method isStatic hsig hret

/-- The first row is made into a constructor. -/
theorem listed_of_constructorOfRows {owner : String} {rows : List (List String)} {m : Member}
    (h : (constructorOfRows cfg classes owner rows).outcome = .ok m) : Listed cfg classes m := by
  cases rows with
  | nil => cases h
  | cons row more =>
      rw [constructorOfRows, Logged.outcome_andThen_eq_ok_iff] at h
      obtain ⟨-, -, h⟩ := h
      rw [Logged.outcome_andThen_eq_ok_iff] at h
      obtain ⟨sig?, hsig, h⟩ := h
      cases sig? with
      | none => cases h
      | some sig =>
          cases h
          exact Listed.constructor hsig

/-- Nothing is made of a row, or a property. -/
theorem listed_of_propertyOfRow {row : List String} {m : Member}
    (h : (propertyOfRow cfg classes row).outcome = .ok (some m)) : Listed cfg classes m := by
  unfold propertyOfRow at h
  simp only at h
  split at h
  · cases h
  · next hname =>
    rw [Logged.outcome_map_eq_ok_iff] at h
    obtain ⟨t, ht, hm⟩ := h
    cases hm
    refine Listed.property rfl (by simpa using hname) ?_
    split at ht
    · exact Or.inl ht
    · exact Or.inr ht

/-- What a table lists is made of its rows. -/
theorem listed_of_membersOfTable {s : Section} {t : Table} {ms : List Member}
    (h : (membersOfTable cfg classes s t).outcome = .ok ms) : ∀ m ∈ ms, Listed cfg classes m := by
  -- Methods and properties are listed row by row in the same way.
  have hrows : ∀ {f : List String → Logged AssemblyFault (Option Member)},
      (∀ row m, (f row).outcome = .ok (some m) → Listed cfg classes m) →
      ((Logged.mapAll f t.rows).map (List.filterMap id)).outcome = .ok ms →
      ∀ m ∈ ms, Listed cfg classes m := by
    intro f hf hms m hm
    rw [Logged.outcome_map_eq_ok_iff] at hms
    obtain ⟨found, hfound, rfl⟩ := hms
    obtain ⟨m?, hm?, hsome⟩ := List.mem_filterMap.1 hm
    obtain ⟨row, -, hrow⟩ := Logged.exists_of_mem_mapAll hfound hm?
    rw [id_eq] at hsome
    exact hf row m (hsome ▸ hrow)
  unfold membersOfTable at h
  simp only at h
  split at h
  · exact hrows (fun row m => listed_of_methodOfRow) h
  · rw [Logged.outcome_map_eq_ok_iff] at h
    obtain ⟨m, hm, rfl⟩ := h
    intro m' hm'
    rw [List.mem_singleton] at hm'
    rw [hm']
    exact listed_of_constructorOfRows hm
  · exact hrows (fun row m => listed_of_propertyOfRow) h
  · cases h
    simp

/-! ## The declaration of a section -/

/-- What a section is made into once its tables have listed their members. -/
def Section.make (s : Section) (parts : List (List Member)) :
    Logged AssemblyFault (Option Declaration) :=
  if parts.flatten.isEmpty && s.kind = .module then ⟨.ok none, [.moduleDropped s.dottedName]⟩
  else .ok (some { package := s.identity.1, name := s.identity.2, members := parts.flatten })

/-- The tables of a section list nothing, and it is not kept for its own sake. -/
def Section.isDropped (s : Section) (parts : List (List Member)) : Bool :=
  parts.flatten.isEmpty && s.kind = .module

/-- The declaration of a section with the members that its tables list. -/
def Section.declaration (s : Section) (parts : List (List Member)) : Declaration :=
  { package := s.identity.1, name := s.identity.2, members := parts.flatten }

/-- The declaration of a section, if it has one. -/
def Section.declaration? (s : Section) (parts : List (List Member)) : Option Declaration :=
  if s.isDropped parts then none else some (s.declaration parts)

theorem Section.outcome_make (s : Section) (parts : List (List Member)) :
    (s.make parts).outcome = .ok (s.declaration? parts) := by
  rw [make, declaration?, isDropped]
  split <;> rfl

/-- What a section is made into depends on its kind and its path only. -/
theorem Section.make_congr {s s' : Section} (hkind : s.kind = s'.kind) (hpath : s.path = s'.path) :
    s.make = s'.make := by
  funext parts
  simp only [make, dottedName, identity, lastSegment, hkind, hpath]

/-- A class in a package of one segment. -/
def Section.classAt (package name : String) (tables : List Table) : Section :=
  ⟨.class, [package, name], tables, by simp⟩

/-- A module with a path of one segment. -/
def Section.moduleAt (name : String) (tables : List Table) : Section :=
  ⟨.module, [name], tables, by simp⟩

theorem assemble_eq (s : Section) : assemble cfg classes s =
    (Logged.mapAll (membersOfTable cfg classes s) s.tables).andThen s.make := rfl

/-- A section is made into a declaration of its own identity, with members from its rows. -/
theorem assemble_eq_ok_some {s : Section} {d : Declaration}
    (h : (assemble cfg classes s).outcome = .ok (some d)) :
    d.package = s.identity.1 ∧ d.name = s.identity.2 ∧ ∀ m ∈ d.members, Listed cfg classes m := by
  rw [assemble, Logged.outcome_andThen_eq_ok_iff] at h
  obtain ⟨parts, hparts, h⟩ := h
  simp only at h
  split at h
  · cases h
  · cases h
    refine ⟨rfl, rfl, ?_⟩
    intro m hm
    obtain ⟨ms, hms, hm⟩ := List.mem_flatten.1 hm
    obtain ⟨t, -, ht⟩ := Logged.exists_of_mem_mapAll hparts hms
    exact listed_of_membersOfTable ht m hm

/-- Only a module can be without a declaration. -/
theorem kind_eq_module_of_assemble {s : Section}
    (h : (assemble cfg classes s).outcome = .ok none) : s.kind = .module := by
  rw [assemble, Logged.outcome_andThen_eq_ok_iff] at h
  obtain ⟨parts, -, h⟩ := h
  simp only at h
  split at h
  · next hdrop =>
    rw [Bool.and_eq_true, decide_eq_true_eq] at hdrop
    exact hdrop.2
  · cases h

/-- The declaration of a class has the path of the class. -/
theorem path_eq_of_assemble {s : Section} (hs : s.kind = .class) {d : Declaration}
    (h : (assemble cfg classes s).outcome = .ok (some d)) : d.path = s.path := by
  obtain ⟨hpackage, hname, -⟩ := assemble_eq_ok_some h
  rw [Declaration.path, hpackage, hname, Section.identity, hs]
  exact List.dropLast_append_getLast s.path_ne_nil

end

end TypedReference

/-
# Registries that name alike

Two registries give every name the same type when they hold the same classes and each lookup by the
last segment comes upon the same class first. A section is then read alike against either of them.
-/
import TypedReference.Assembly
import TypedReference.Proofs.Resolution
import TypedReference.Proofs.TypeExpr.Names

namespace TypedReference

open Text

namespace ClassPaths

/-- Two registries that can be read, with the same classes, in which each lookup by the last segment
finds the same class. -/
structure Alike (classes classes' : ClassPaths) : Prop where
  /-- The first registry can be read. -/
  usable : classes.Usable
  /-- The second registry can be read. -/
  usable' : classes'.Usable
  /-- The classes are the same. -/
  mem_iff : ∀ path, path ∈ classes.entries ↔ path ∈ classes'.entries
  /-- Every lookup comes to the same class. -/
  first_eq : ∀ form, classes.firstWithForm? form = classes'.firstWithForm? form

end ClassPaths

section

variable {cfg : Conventions} {classes classes' : ClassPaths} (h : classes.Alike classes')
include h

/-! ## Names -/

/-- **Alike registries name alike.** Every name has the same type, and the same is reported. -/
theorem resolveName_alike (name : List Char) :
    resolveName classes name = resolveName classes' name := by
  have hguess : ∀ x, guessType classes x = guessType classes' x := fun x =>
    NameRule.guessType_congr h.usable h.usable' (h.first_eq (singular x))
  have hcontains : ∀ path, classes.entries.contains path = classes'.entries.contains path := by
    intro path
    rw [Bool.eq_iff_iff, List.contains_iff_mem, List.contains_iff_mem, h.mem_iff]
  simp only [resolveName, h.usable.paths, h.usable'.paths, hguess, hcontains]

/-! ## Types and signatures -/

theorem typeOfText_alike (l : List Char) : typeOfText classes l = typeOfText classes' l :=
  typeOfText_congr fun x _ => resolveName_alike h x

theorem readSignature_alike (l : List Char) :
    readSignature cfg classes l = readSignature cfg classes' l := by
  have hargument : ∀ position token, readArgument cfg classes position token =
      readArgument cfg classes' position token := by
    intro position token
    simp only [readArgument, resolveName_alike h]
  simp only [readSignature, hargument]

/-! ## Sections -/

theorem membersOfTable_alike (s : Section) (t : Table) :
    membersOfTable cfg classes s t = membersOfTable cfg classes' s t := by
  have hmethod : ∀ isStatic,
      methodOfRow cfg classes isStatic = methodOfRow cfg classes' isStatic := by
    intro isStatic
    funext row
    simp only [methodOfRow, readSignature_alike h, typeOfText_alike h]
  have hconstructor : ∀ owner rows, constructorOfRows cfg classes owner rows =
      constructorOfRows cfg classes' owner rows := by
    intro owner rows
    cases rows with
    | nil => rfl
    | cons row more => simp only [constructorOfRows, readSignature_alike h]
  have hproperty : propertyOfRow cfg classes = propertyOfRow cfg classes' := by
    funext row
    simp only [propertyOfRow, resolveName_alike h, typeOfText_alike h]
  simp only [membersOfTable, hmethod, hconstructor, hproperty]

/-- Against either registry a section is made into the same declaration. -/
theorem assemble_alike (s : Section) : assemble cfg classes s = assemble cfg classes' s := by
  have htables : membersOfTable cfg classes s = membersOfTable cfg classes' s :=
    funext fun t => membersOfTable_alike h s t
  rw [assemble, assemble, htables]

end

end TypedReference

/-
# Trees of one shape

What an operation on files does depends on where directories and files stand, but not on the bytes
of the files. So on two trees that differ at most in these bytes an operation fails alike, or leaves
two such trees.
-/
import TypedReference.Proofs.Files.Tree

namespace TypedReference.Files

/-- An entry is a directory. -/
def Entry.isDirectory : Entry → Bool
  | .directory => true
  | .file _ => false

namespace FileTree

variable {t t' t'' w w' : FileTree} {p : Path} {q : Place} {bytes bytes' : ByteArray}

/-! ## Trees of one shape -/

/-- Whether a directory stands at a place, if anything does. -/
def kind? (t : FileTree) (q : Place) : Option Bool := (t.get? q).map Entry.isDirectory

theorem kind?_eq_directory_iff : t.kind? q = some true ↔ t.get? q = some .directory := by
  rw [kind?]
  cases t.get? q with
  | none => simp
  | some e => cases e <;> simp [Entry.isDirectory]

theorem kind?_eq_none_iff : t.kind? q = none ↔ t.get? q = none := Option.map_eq_none_iff

/-- Two trees differ at most in the bytes of their files. -/
def SameShape (t w : FileTree) : Prop := ∀ q, t.kind? q = w.kind? q

namespace SameShape

theorem refl (t : FileTree) : SameShape t t := fun _ => rfl

theorem trans (h : SameShape t t') (h' : SameShape t' t'') : SameShape t t'' :=
  fun q => (h q).trans (h' q)

theorem get?_eq_directory (h : SameShape t w) :
    t.get? q = some .directory ↔ w.get? q = some .directory := by
  rw [← kind?_eq_directory_iff, ← kind?_eq_directory_iff, h q]

theorem isSome_get? (h : SameShape t w) (q : Place) : (t.get? q).isSome = (w.get? q).isSome := by
  have hq := congrArg Option.isSome (h q)
  rwa [kind?, kind?, Option.isSome_map, Option.isSome_map] at hq

/-- Ways lead through directories, whatever the files hold. -/
theorem walk (h : SameShape t w) (place : Place) (parts : List String) :
    t.walk place parts = w.walk place parts := by
  induction parts generalizing place with
  | nil => rfl
  | cons part parts ih =>
      have hkind := h place
      rw [FileTree.walk, FileTree.walk]
      rw [kind?, kind?] at hkind
      cases ht : t.get? place with
      | none =>
          rw [ht, Option.map_none, eq_comm, Option.map_eq_none_iff] at hkind
          rw [hkind]
      | some e =>
          obtain ⟨e', he', hsame⟩ : ∃ e', w.get? place = some e' ∧ e'.isDirectory = e.isDirectory := by
            rw [ht, Option.map_some, eq_comm, Option.map_eq_some_iff] at hkind
            exact hkind
          rw [he']
          cases e <;> cases e' <;> simp_all [Entry.isDirectory]

theorem place (h : SameShape t w) (p : Path) : t.place p = w.place p := by
  rw [FileTree.place, FileTree.place, placeFrom, placeFrom, h.walk]

theorem isDirectory (h : SameShape t w) (p : Path) : t.isDirectory p = w.isDirectory p := by
  rw [Bool.eq_iff_iff, isDirectory_eq_true_iff, isDirectory_eq_true_iff, h.place,
    h.get?_eq_directory]

/-- Entries of one kind leave trees of one shape. -/
theorem put (h : SameShape t w) {e e' : Entry} (he : e.isDirectory = e'.isDirectory)
    (place : Place) : SameShape (t.put place e) (w.put place e') := by
  intro q
  by_cases hq : q = place
  · by_cases hnames : place.names = []
    · rw [hq, kind?, kind?, get?, get?, if_pos hnames, if_pos hnames]
    · rw [hq, kind?, kind?, get?_put_self hnames, get?_put_self hnames, Option.map_some,
        Option.map_some, he]
  · rw [kind?, kind?, get?_put_of_ne hq, get?_put_of_ne hq]
    exact h q

end SameShape

/-! ## Operations on trees of one shape -/

/-- Where no directory stands a file is written, if there is a directory to hold it. -/
theorem write_of_free {place : Place} (hplace : t.place p = .ok place)
    (hfree : t.get? place ≠ some .directory) (bytes : ByteArray) : t.write p bytes =
      if (t.get? place.up).isSome then .ok (t.put place (.file bytes))
      else .error ⟨.missing, p.text⟩ := by
  rw [write, hplace]
  simp only

/-- Two attempts fail alike, or both succeed and leave trees of one shape. -/
def SameResult : Except FileFault FileTree → Except FileFault FileTree → Prop
  | .ok t, .ok w => SameShape t w
  | .error f, .error f' => f = f'
  | _, _ => False

theorem SameResult.eq_error {r r' : Except FileFault FileTree} {f : FileFault}
    (h : SameResult r r') (hr : r = .error f) : r' = .error f := by
  subst hr
  cases r' with
  | ok w => cases h
  | error f' => exact congrArg Except.error (show f = f' from h).symm

/-- Two changes have the same fault, if any, and leave trees of one shape. -/
structure SameChange (c c' : Changed) : Prop where
  /-- Both fail alike, or neither does. -/
  fault : c.fault? = c'.fault?
  /-- The trees differ at most in the bytes of their files. -/
  shape : SameShape c.tree c'.tree

section

variable (h : SameShape t w)
include h

theorem SameShape.makeDirectory (p : Path) :
    SameResult (t.makeDirectory p) (w.makeDirectory p) := by
  rw [FileTree.makeDirectory, FileTree.makeDirectory, h.place]
  cases w.place p with
  | error f => rfl
  | ok place =>
      simp only [h.isSome_get?]
      split
      · rfl
      · split
        · exact h.put rfl place
        · rfl

theorem SameShape.write (p : Path) (bytes bytes' : ByteArray) :
    SameResult (t.write p bytes) (w.write p bytes') := by
  cases hplace : w.place p with
  | error f =>
      rw [FileTree.write, FileTree.write, h.place, hplace]
      rfl
  | ok place =>
      have hplace' := (h.place p).trans hplace
      have hdirectory := h.get?_eq_directory (q := place)
      by_cases ht : t.get? place = some .directory
      · rw [FileTree.write, FileTree.write, hplace, hplace']
        simp only [ht, hdirectory.1 ht]
        rfl
      · rw [write_of_free hplace' ht, write_of_free hplace (mt hdirectory.2 ht), h.isSome_get?]
        have hfile : (Entry.file bytes).isDirectory = (Entry.file bytes').isDirectory := rfl
        split
        · exact h.put hfile place
        · rfl

theorem SameShape.settle (p : Path) {r r' : Except FileFault FileTree} (hr : SameResult r r') :
    SameChange (t.settle p r) (w.settle p r') := by
  cases r with
  | ok t' =>
      cases r' with
      | ok w' => exact ⟨rfl, hr⟩
      | error f' => cases hr
  | error f =>
      cases r' with
      | ok w' => cases hr
      | error f' =>
          obtain rfl : f = f' := hr
          rw [FileTree.settle, FileTree.settle, h.isDirectory]
          split
          · exact ⟨rfl, h⟩
          · exact ⟨rfl, h⟩

/-- The same directories are made in trees of one shape. -/
theorem SameShape.ensureAt (anchor : Anchor) (parts : List String) :
    SameChange (t.ensureAt anchor parts) (w.ensureAt anchor parts) := by
  induction parts with
  | nil => exact h.settle _ (h.makeDirectory _)
  | cons part outer ih =>
      have hmake := h.makeDirectory ⟨anchor, (part :: outer).reverse⟩
      rw [FileTree.ensureAt, FileTree.ensureAt]
      simp only
      cases ht : t.makeDirectory ⟨anchor, (part :: outer).reverse⟩ with
      | ok t' =>
          cases hw : w.makeDirectory ⟨anchor, (part :: outer).reverse⟩ with
          | ok w' =>
              rw [ht, hw] at hmake
              exact h.settle _ hmake
          | error f' =>
              rw [ht, hw] at hmake
              cases hmake
      | error f =>
          rw [hmake.eq_error ht]
          obtain ⟨cause, path⟩ := f
          cases cause with
          | missing =>
              simp only [ih.fault]
              split
              · exact ih
              · exact ih.shape.settle _ (ih.shape.makeDirectory _)
          | occupied | notDirectory | isDirectory | tooLong | zeroCharacter => exact h.settle _ rfl

end

end FileTree

end TypedReference.Files

/-
# Registered constants

The registry of a page holds what its descriptions mention: the longest paths of constants in the
first column of descriptions of every table, each at its first mention. Sections, tables and rows
are gone through in order, and so is the text of each description.
-/
import TypedReference.Proofs.Constant
import TypedReference.Proofs.Constant.Mentions
import TypedReference.Proofs.Registration

namespace TypedReference

/-! ## Columns -/

namespace Table

/-- The first column with a given header. -/
structure IsFirstColumn (t : Table) (header : String) (i : Nat) : Prop where
  /-- The column has the header. -/
  getElem? : t.columns[i]? = some header
  /-- No column in front of it has the header. -/
  ne : ∀ j < i, t.columns[j]? ≠ some header

theorem columnIndex?_eq_some_iff {t : Table} {name : String} {i : Nat} :
    t.columnIndex? name = some i ↔ t.IsFirstColumn (lowered name) i := by
  rw [columnIndex?, List.idxOf?_eq_some_iff]
  constructor
  · rintro ⟨hi, hheader, hfirst⟩
    refine ⟨List.getElem?_eq_some_iff.2 ⟨hi, hheader⟩, ?_⟩
    intro j hj hsame
    obtain ⟨_, hsame⟩ := List.getElem?_eq_some_iff.1 hsame
    exact hfirst j hj hsame
  · rintro ⟨hheader, hfirst⟩
    obtain ⟨hi, hheader⟩ := List.getElem?_eq_some_iff.1 hheader
    refine ⟨hi, hheader, ?_⟩
    intro j hj hsame
    exact hfirst j hj (List.getElem?_eq_some_iff.2 ⟨Nat.lt_trans hj hi, hsame⟩)

end Table

/-! ## Mentions on a page -/

/-- A stretch of a description on a page. -/
structure Sighting where
  /-- The place of the section on the page. -/
  sectionIndex : Nat
  /-- The place of the table in the section. -/
  tableIndex : Nat
  /-- The place of the row in the table. -/
  rowIndex : Nat
  /-- The stretch of the description in that row. -/
  mention : Constant.Mention
  deriving DecidableEq, Repr

namespace Sighting

/-- Where the stretch starts: the places of its section, table and row, and its own. -/
def place (x : Sighting) : List Nat :=
  [x.sectionIndex, x.tableIndex, x.rowIndex, x.mention.start]

/-- One stretch starts before another one on the page. -/
def Before (x y : Sighting) : Prop := x.place < y.place

/-- What the stretch reads. -/
def text (x : Sighting) : String := x.mention.text

/-- In the first column of descriptions, the stretch is a longest path of a constant. -/
def IsMaximalIn (x : Sighting) (sections : List Section) : Prop :=
  ∃ s t column row text, sections[x.sectionIndex]? = some s ∧ s.tables[x.tableIndex]? = some t ∧
    t.IsFirstColumn "description" column ∧ t.rows[x.rowIndex]? = some row ∧
    row[column]? = some text ∧ x.mention.IsMaximalIn text.toList

/-- The order of places, one after the other, is the order on the page. -/
theorem before_of_lex {x y : Nat × Nat × Nat × Constant.Mention}
    (h : Prod.Lex (· < ·) (Prod.Lex (· < ·) (Prod.Lex (· < ·) Constant.Mention.Before)) x y) :
    Before ⟨x.1, x.2.1, x.2.2.1, x.2.2.2⟩ ⟨y.1, y.2.1, y.2.2.1, y.2.2.2⟩ := by
  have hstart : x.2.2.2.Before y.2.2.2 → x.2.2.2.start < y.2.2.2.start :=
    fun hbefore => Nat.lt_of_le_of_lt (Nat.le_add_right _ _) hbefore
  simp only [Prod.lex_def] at h
  simp only [Before, place, List.cons_lt_cons_iff]
  rcases h with h | ⟨hi, h | ⟨hj, h | ⟨hk, h⟩⟩⟩
  · exact Or.inl h
  · exact Or.inr ⟨hi, Or.inl h⟩
  · exact Or.inr ⟨hi, Or.inr ⟨hj, Or.inl h⟩⟩
  · exact Or.inr ⟨hi, Or.inr ⟨hj, Or.inr ⟨hk, Or.inl (hstart h)⟩⟩⟩

end Sighting

namespace ConstantPaths

open Constant

/-- The mentions in one cell of a row, which may be too short to have it. -/
theorem exists_listing_row (column : Nat) (row : List String) : ∃ found : List Mention,
    Lists.IsListing Mention.Before
      (fun m => ∃ text, row[column]? = some text ∧ m.IsMaximalIn text.toList) found ∧
    found.map Mention.text = (row[column]?).toList.flatMap mentions := by
  cases hcell : row[column]? with
  | none => exact ⟨[], ⟨List.Pairwise.nil, by simp⟩, rfl⟩
  | some text =>
      obtain ⟨found, hfound, htexts⟩ := exists_listing_mentions text
      refine ⟨found, hfound.congr (by simp), ?_⟩
      rw [htexts, Option.toList_some, List.flatMap_singleton]

/-- The mentions in the first column of descriptions of a table, row by row. -/
theorem exists_listing_table (t : Table) : ∃ found : List (Nat × Mention),
    Lists.IsListing (Prod.Lex (· < ·) Mention.Before)
      (fun x => ∃ column row text, t.IsFirstColumn "description" column ∧
        t.rows[x.1]? = some row ∧ row[column]? = some text ∧ x.2.IsMaximalIn text.toList) found ∧
    found.map (fun x => x.2.text) = ofTable t := by
  have hcolumn : ∀ i, t.columnIndex? "description" = some i ↔ t.IsFirstColumn "description" i := by
    have hlowered : Table.lowered "description" = "description" := by decide
    intro i
    rw [Table.columnIndex?_eq_some_iff, hlowered]
  rw [ofTable, Table.columnValues]
  cases hindex : t.columnIndex? "description" with
  | none =>
      refine ⟨[], ⟨List.Pairwise.nil, ?_⟩, rfl⟩
      simp [← hcolumn, hindex]
  | some column =>
      obtain ⟨found, hfound, htexts⟩ :=
        Lists.exists_listing_flatMap (exists_listing_row column) t.rows
      refine ⟨found, hfound.congr ?_, ?_⟩
      · simp [← hcolumn, hindex]
      · rw [htexts]
        simp only [List.filterMap_eq_flatMap_toList, List.flatMap_assoc]

/-- The mentions on a page, section by section and table by table. -/
theorem exists_listing_sections (sections : List Section) : ∃ found : List Sighting,
    Lists.IsListing Sighting.Before (fun x => x.IsMaximalIn sections) found ∧
      found.map Sighting.text = sections.flatMap fun s => s.tables.flatMap ofTable := by
  obtain ⟨found, hfound, htexts⟩ := Lists.exists_listing_flatMap
    (fun s : Section => Lists.exists_listing_flatMap exists_listing_table s.tables) sections
  -- The places are the same, written in a row.
  have hplaces := hfound.map (S := Sighting.Before)
    (g := fun x => ⟨x.1, x.2.1, x.2.2.1, x.2.2.2⟩) fun _ _ => Sighting.before_of_lex
  refine ⟨_, hplaces.congr ?_, ?_⟩
  · intro x
    constructor
    · rintro ⟨_, ⟨s, hs, t, ht, column, row, text, hcolumn, hrow, hcell, hm⟩, rfl⟩
      exact ⟨s, t, column, row, text, hs, ht, hcolumn, hrow, hcell, hm⟩
    · rintro ⟨s, t, column, row, text, hs, ht, hcolumn, hrow, hcell, hm⟩
      exact ⟨(x.sectionIndex, x.tableIndex, x.rowIndex, x.mention),
        ⟨s, hs, t, ht, column, row, text, hcolumn, hrow, hcell, hm⟩, rfl⟩
  · rw [List.map_map, ← htexts]
    rfl

/-- **What is registered.** The registry of a page is what registering the longest paths of
constants in its descriptions gives, from the first to the last; it is frozen, holds each path at its
first mention, and every path in it has an owner. -/
theorem mentioned_ofSections (sections : List Section) : ∃ found : List Sighting,
    Lists.IsListing Sighting.Before (fun x => x.IsMaximalIn sections) found ∧
    registerAll (found.map Sighting.text) = .ok (ofSections sections) ∧
    (ofSections sections).frozen = true ∧
    (ofSections sections).paths = .ok (found.map Sighting.text).eraseDups ∧
    ∀ x ∈ found, ∃ o, owner x.text = .ok o := by
  obtain ⟨found, hfound, htexts⟩ := exists_listing_sections sections
  have hregistry : ofSections sections = .ofPaths (found.map Sighting.text) := by
    rw [htexts]
    rfl
  refine ⟨found, hfound, ?_, rfl, ?_, ?_⟩
  · rw [registerAll_eq, hregistry]
  · rw [hregistry]
    rfl
  · intro x hx
    have hmem : x.text ∈ (ofSections sections).entries := by
      rw [hregistry]
      exact List.mem_eraseDups.2 (List.mem_map_of_mem hx)
    exact exists_owner_of_mem_ofSections hmem

end ConstantPaths

end TypedReference

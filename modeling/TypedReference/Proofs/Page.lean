/-
# Sections and their tables

A page has one section for each title that can be read, in the order of the document. A table
belongs to the section of the nearest title in front of it among its siblings, unless a boundary
stands between them; so it belongs to one section at most, and to none if that title cannot be read.
-/
import TypedReference.Page
import TypedReference.Proofs.Lists
import TypedReference.Proofs.Markup.Position

namespace TypedReference.Page

open Markup Text

/-! ## Tables -/

/-- The first row below the element has a cell. -/
def HasHeader (e : Element) : Prop :=
  ∃ row, (e.below ["tr"]).head? = some row ∧ row.below ["th", "td"] ≠ []

/-- An element is a table if its first row has a cell. -/
theorem isSome_table? (e : Element) : (table? e).isSome ↔ HasHeader e := by
  unfold table? HasHeader
  cases e.below ["tr"] with
  | nil => simp
  | cons header rows => by_cases hcells : header.below ["th", "td"] = [] <;> simp [cells, hcells]

/-! ## Boundaries -/

/-- All names in the tree are in lower case. -/
def IsLowerCase (tree : List Node) : Prop :=
  ∀ e ∈ Node.elementsAll tree, loweredName e.name = e.name

instance (tree : List Node) : Decidable (IsLowerCase tree) :=
  inferInstanceAs (Decidable (∀ e ∈ Node.elementsAll tree, loweredName e.name = e.name))

/-- The name ends what belongs to a title. -/
def EndsSection (cfg : Conventions) (name : String) : Prop :=
  name = cfg.titleTag ∨ name ∈ cfg.boundaryTags.map loweredName

theorem isBoundary_iff {cfg : Conventions} {e : Element}
    (htitle : loweredName cfg.titleTag = cfg.titleTag) (he : loweredName e.name = e.name) :
    isBoundary cfg e = true ↔ EndsSection cfg e.name := by
  unfold isBoundary EndsSection
  simp only [he, htitle, Bool.or_eq_true, beq_iff_eq, List.contains_iff_mem]

/-! ## The scan of the siblings -/

theorem siblingElements_eq (nodes : List Node) :
    siblingElements nodes = nodes.filterMap Node.element? := by
  unfold siblingElements
  congr 1

/-- What stands at an index after a title counts if no boundary stands up to there. -/
def isOpenAt (cfg : Conventions) (following : List Node) (j : Nat) : Bool :=
  (siblingElements (following.take (j + 1))).all fun e => !isBoundary cfg e

/-- The table element at an index after a title, if it counts. -/
def tableAt? (cfg : Conventions) (following : List Node) (j : Nat) : Option Table :=
  if isOpenAt cfg following j then
    (following[j]?.bind Node.element?).bind fun e =>
      if loweredName e.name == "table" then table? e else none
  else none

section

variable {cfg : Conventions} {n : Node} {e : Element} {following : List Node}

theorem isOpenAt_cons_zero : isOpenAt cfg (n :: following) 0 =
    n.element?.all fun e => !isBoundary cfg e := by
  cases hn : n.element? <;> simp [isOpenAt, siblingElements_eq, hn]

theorem isOpenAt_cons_succ (j : Nat) : isOpenAt cfg (n :: following) (j + 1) =
    ((n.element?.all fun e => !isBoundary cfg e) && isOpenAt cfg following j) := by
  cases hn : n.element? <;> simp [isOpenAt, siblingElements_eq, hn]

/-- A node that ends nothing does not change what the later ones count for. -/
theorem tableAt?_cons_succ (hn : n.element?.all fun e => !isBoundary cfg e) (j : Nat) :
    tableAt? cfg (n :: following) (j + 1) = tableAt? cfg following j := by
  rw [tableAt?, tableAt?, isOpenAt_cons_succ, hn, Bool.true_and, List.getElem?_cons_succ]

/-- The tables of a title stand at the indices that count. -/
theorem filterMap_tableElements (cfg : Conventions) (following : List Node) :
    (tableElements cfg following).filterMap table? =
      (List.range following.length).filterMap (tableAt? cfg following) := by
  induction following with
  | nil => rfl
  | cons n following ih =>
      rw [List.length_cons, List.range_succ_eq_map, List.filterMap_cons, List.filterMap_map]
      cases hn : n.element? with
      | none =>
          have hzero : tableAt? cfg (n :: following) 0 = none := by simp [tableAt?, hn]
          have hsucc : tableAt? cfg (n :: following) ∘ Nat.succ = tableAt? cfg following :=
            funext fun j => tableAt?_cons_succ (by rw [hn]; rfl) j
          have hsame : tableElements cfg (n :: following) = tableElements cfg following := by
            simp [tableElements, siblingElements_eq, hn]
          rw [hzero, hsucc, hsame, ih]
      | some e =>
          by_cases hboundary : isBoundary cfg e = true
          · -- The scan stops here, and nothing from here on counts.
            have hzero : tableAt? cfg (n :: following) 0 = none := by
              simp [tableAt?, isOpenAt_cons_zero, hn, hboundary]
            have hsucc : ∀ j, (tableAt? cfg (n :: following) ∘ Nat.succ) j = none := by
              intro j
              simp [tableAt?, isOpenAt_cons_succ, hn, hboundary]
            have hnone : tableElements cfg (n :: following) = [] := by
              simp [tableElements, siblingElements_eq, hn, hboundary]
            rw [hzero, hnone, List.filterMap_eq_nil_iff.2 fun j _ => hsucc j]
            rfl
          · rw [Bool.not_eq_true] at hboundary
            have hzero : tableAt? cfg (n :: following) 0 =
                if loweredName e.name == "table" then table? e else none := by
              simp [tableAt?, isOpenAt_cons_zero, hn, hboundary]
            have hsucc : tableAt? cfg (n :: following) ∘ Nat.succ = tableAt? cfg following :=
              funext fun j => tableAt?_cons_succ (by simp [hn, hboundary]) j
            have hmore : tableElements cfg (n :: following) =
                (if loweredName e.name == "table" then [e] else []) ++
                  tableElements cfg following := by
              by_cases htable : loweredName e.name = "table" <;>
                simp [tableElements, siblingElements_eq, hn, hboundary, htable]
            rw [hzero, hsucc, hmore, List.filterMap_append, ih]
            by_cases htable : (loweredName e.name == "table") = true
            · rw [if_pos htable, if_pos htable]
              cases htab : table? e <;> simp [htab]
            · rw [if_neg htable, if_neg htable]
              rfl

/-- No boundary stands up to an index. -/
theorem isOpenAt_iff (j : Nat) : isOpenAt cfg following j = true ↔
    ∀ i ≤ j, ∀ e, following[i]?.bind Node.element? = some e → isBoundary cfg e = false := by
  rw [isOpenAt, siblingElements_eq, List.all_eq_true]
  constructor
  · intro h i hi e he
    obtain ⟨n, hn, hne⟩ := Option.bind_eq_some_iff.1 he
    have hmem : n ∈ following.take (j + 1) := by
      rw [List.mem_iff_getElem?]
      exact ⟨i, by rw [List.getElem?_take_of_lt (by omega), hn]⟩
    simpa using h e (List.mem_filterMap.2 ⟨n, hmem, hne⟩)
  · intro h e he
    obtain ⟨n, hn, hne⟩ := List.mem_filterMap.1 he
    obtain ⟨i, hi⟩ := List.mem_iff_getElem?.1 hn
    have hij : i < j + 1 := by
      by_contra hle
      rw [List.getElem?_take_eq_none (by omega)] at hi
      cases hi
    rw [List.getElem?_take_of_lt hij] at hi
    rw [h i (by omega) e (by rw [hi]; exact hne)]
    rfl

end

/-! ## Titles and what they own -/

/-- A title that can be read stands at a position. -/
def TitleAt (cfg : Conventions) (tree : List Node) (t : Position) (title : Title) : Prop :=
  ∃ e, elementAt? tree t = some e ∧ e.name = cfg.titleTag ∧
    Title.ofText? (condense e.text) = some title

/-- A table, at one position, is owned by what stands at another: it is a later sibling, and nothing
that ends a section stands in between or is the table itself. -/
structure Owns (cfg : Conventions) (tree : List Node) (t x : Position) : Prop where
  /-- Both stand under the same parent. -/
  above_eq : x.above = t.above
  /-- The table stands behind. -/
  index_lt : t.index < x.index
  /-- It is a table element, and its first row has a cell. -/
  table : ∃ e, elementAt? tree x = some e ∧ e.name = "table" ∧ HasHeader e
  /-- No sibling up to the table ends the section. -/
  open_upTo : ∀ y : Position, y.above = t.above → t.index < y.index → y.index ≤ x.index →
    ∀ e, elementAt? tree y = some e → ¬ EndsSection cfg e.name

/-- A section is that of the title at a position: it has the kind and the path of the title, and the
tables that the title owns, in order. -/
structure SectionAt (cfg : Conventions) (tree : List Node) (t : Position) (s : Section) : Prop where
  /-- What the title says. -/
  title : ∃ title, TitleAt cfg tree t title ∧ s.kind = title.kind ∧ s.path = title.path
  /-- What the title owns. -/
  tables : ∃ xs : List Position, xs.Pairwise (· < ·) ∧ (∀ x, x ∈ xs ↔ Owns cfg tree t x) ∧
    List.Forall₂ (fun x table => ∃ e, elementAt? tree x = some e ∧ table? e = some table) xs s.tables

section

variable {cfg : Conventions} {tree : List Node} {t u x : Position}

/-- A title ends what belongs to any title in front of it. -/
theorem Owns.eq_of_titles (ht : Owns cfg tree t x) (hu : Owns cfg tree u x) {e e' : Element}
    (he : elementAt? tree t = some e) (hname : e.name = cfg.titleTag)
    (he' : elementAt? tree u = some e') (hname' : e'.name = cfg.titleTag) : t = u := by
  have habove : t.above = u.above := ht.above_eq.symm.trans hu.above_eq
  have hle : ¬ t.index < u.index := fun hlt =>
    ht.open_upTo u habove.symm hlt (Nat.le_of_lt hu.index_lt) e' he' (Or.inl hname')
  have hge : ¬ u.index < t.index := fun hlt =>
    hu.open_upTo t habove hlt (Nat.le_of_lt ht.index_lt) e he (Or.inl hname)
  have hindex : t.index = u.index := by omega
  obtain ⟨above, index⟩ := t
  obtain ⟨above', index'⟩ := u
  simp only at habove hindex
  rw [habove, hindex]

/-- The nodes that follow a position under the same parent. -/
def followingAt (tree : List Node) (t : Position) : List Node :=
  (siblings tree t.above).drop (t.index + 1)

/-- What stands a number of places behind a position. -/
theorem getElem?_followingAt (i : Nat) : (followingAt tree t)[i]?.bind Node.element? =
    elementAt? tree ⟨t.above, t.index + 1 + i⟩ := by
  rw [followingAt, List.getElem?_drop]
  rfl

/-- The positions of the tables of a title. -/
def ownedPositions (cfg : Conventions) (tree : List Node) (t : Position) : List Position :=
  ((List.range (followingAt tree t).length).filter
    fun i => (tableAt? cfg (followingAt tree t) i).isSome).map
      fun i => ⟨t.above, t.index + 1 + i⟩

/-- They stand beside the tables themselves. -/
theorem forall₂_ownedPositions : List.Forall₂
    (fun x table => ∃ e, elementAt? tree x = some e ∧ table? e = some table)
    (ownedPositions cfg tree t) ((tableElements cfg (followingAt tree t)).filterMap table?) := by
  rw [filterMap_tableElements, ownedPositions, List.forall₂_map_left_iff]
  refine (Lists.forall₂_filterMap _ _).imp ?_
  intro i table htable
  unfold tableAt? at htable
  split at htable
  · obtain ⟨e, he, hmade⟩ := Option.bind_eq_some_iff.1 htable
    rw [getElem?_followingAt] at he
    split at hmade
    · exact ⟨e, he, hmade⟩
    · cases hmade
  · cases htable

/-- They are in document order. -/
theorem pairwise_ownedPositions : (ownedPositions cfg tree t).Pairwise (· < ·) := by
  have hrange := (List.pairwise_lt_range (n := (followingAt tree t).length)).filter
    fun i => (tableAt? cfg (followingAt tree t) i).isSome
  refine hrange.map _ ?_
  intro i j hij
  exact Position.mk_lt_mk (by omega)

section

variable (hcase : IsLowerCase tree)
include hcase

theorem loweredName_eq {e : Element} (he : elementAt? tree x = some e) :
    loweredName e.name = e.name := hcase e (mem_elementsAll.2 ⟨x, he⟩)

/-- The scan gets to a place behind a position if no sibling up to there ends the section. -/
theorem isOpenAt_followingAt (htitle : loweredName cfg.titleTag = cfg.titleTag) (i : Nat) :
    isOpenAt cfg (followingAt tree t) i = true ↔
      ∀ y : Position, y.above = t.above → t.index < y.index → y.index ≤ t.index + 1 + i →
        ∀ e, elementAt? tree y = some e → ¬ EndsSection cfg e.name := by
  rw [isOpenAt_iff]
  constructor
  · rintro h ⟨above, index⟩ habove hlt hle e he
    simp only at habove hlt hle
    obtain ⟨k, rfl⟩ : ∃ k, index = t.index + 1 + k := ⟨index - (t.index + 1), by omega⟩
    rw [habove] at he
    have hclosed := h k (by omega) e (by rw [getElem?_followingAt]; exact he)
    rw [← isBoundary_iff htitle (loweredName_eq hcase he), hclosed]
    exact Bool.false_ne_true
  · intro h k hk e he
    rw [getElem?_followingAt] at he
    have hends := h ⟨t.above, t.index + 1 + k⟩ rfl (by simp only; omega) (by simp only; omega) e he
    rwa [← isBoundary_iff htitle (loweredName_eq hcase he), Bool.not_eq_true] at hends

/-- The scan finds a table where one stands. -/
theorem isSome_table_followingAt (i : Nat) :
    (((followingAt tree t)[i]?.bind Node.element?).bind fun e =>
      if loweredName e.name == "table" then table? e else none).isSome ↔
    ∃ e, elementAt? tree ⟨t.above, t.index + 1 + i⟩ = some e ∧ e.name = "table" ∧ HasHeader e := by
  rw [getElem?_followingAt]
  cases hget : elementAt? tree ⟨t.above, t.index + 1 + i⟩ with
  | none => simp
  | some e =>
      rw [Option.bind_some, loweredName_eq hcase hget]
      by_cases hname : e.name = "table" <;> simp [hname, isSome_table?]

/-- The positions of the tables of a title are those that it owns. -/
theorem mem_ownedPositions (htitle : loweredName cfg.titleTag = cfg.titleTag) :
    x ∈ ownedPositions cfg tree t ↔ Owns cfg tree t x := by
  have hat : ∀ i, (tableAt? cfg (followingAt tree t) i).isSome ↔
      Owns cfg tree t ⟨t.above, t.index + 1 + i⟩ := by
    intro i
    unfold tableAt?
    constructor
    · intro h
      split at h
      · next hopen =>
        exact ⟨rfl, by simp only; omega, (isSome_table_followingAt hcase i).1 h,
          (isOpenAt_followingAt hcase htitle i).1 hopen⟩
      · cases h
    · intro h
      rw [if_pos ((isOpenAt_followingAt hcase htitle i).2 h.open_upTo)]
      exact (isSome_table_followingAt hcase i).2 h.table
  rw [ownedPositions, List.mem_map]
  constructor
  · rintro ⟨i, hi, rfl⟩
    exact (hat i).1 (List.mem_filter.1 hi).2
  · intro h
    obtain ⟨above, index⟩ := x
    obtain ⟨i, rfl⟩ : ∃ i, index = t.index + 1 + i :=
      ⟨index - (t.index + 1), by have := h.index_lt; simp only at this; omega⟩
    obtain rfl : above = t.above := h.above_eq
    have hsome := (hat i).2 h
    refine ⟨i, List.mem_filter.2 ⟨List.mem_range.2 ?_, hsome⟩, rfl⟩
    -- Beyond the last sibling nothing stands that could be owned.
    by_contra hle
    rw [tableAt?, List.getElem?_eq_none (Nat.le_of_not_lt hle)] at hsome
    simp at hsome

end

/-! ## Sections -/

/-- The section that begins at a position, if a title stands there that can be read. -/
def sectionAt? (cfg : Conventions) (tree : List Node) (t : Position) : Option Section :=
  (locatedAt? tree t).bind fun (e, following) =>
    if e.name == cfg.titleTag then (readSection cfg e following).made? else none

/-- The sections of a tree begin at its positions, in document order. -/
theorem sections_eq (cfg : Conventions) (tree : List Node) :
    sections cfg tree = (Node.positionsAll 0 tree).filterMap (sectionAt? cfg tree) := by
  have hlocated : (Node.positionsAll 0 tree).filterMap (sectionAt? cfg tree) =
      ((Node.positionsAll 0 tree).map (locatedAt? tree)).filterMap fun located? =>
        located?.bind fun (e, following) =>
          if e.name == cfg.titleTag then (readSection cfg e following).made? else none := by
    rw [List.filterMap_map]
    rfl
  rw [hlocated, map_positionsAll, List.filterMap_map, sections, readings, List.filterMap_map,
    List.filterMap_filter]
  rfl

/-- What is read from a title that can be read. -/
theorem made?_readSection (e : Element) (following : List Node) :
    (readSection cfg e following).made? = (Title.ofText? (condense e.text)).map fun title =>
      { kind := title.kind, path := title.path
        tables := (tableElements cfg following).filterMap table?
        path_ne_nil := title.path_ne_nil } := by
  unfold readSection
  simp only
  split
  · next htitle =>
    rw [htitle]
    rfl
  · next kind path path_ne_nil htitle =>
    rw [htitle, List.filterMap_map]
    rfl

/-- What begins at a position is the section of the title there. -/
theorem sectionAt?_eq_some_iff {s : Section} : sectionAt? cfg tree t = some s ↔
    ∃ title, TitleAt cfg tree t title ∧ s.kind = title.kind ∧ s.path = title.path ∧
      s.tables = (tableElements cfg (followingAt tree t)).filterMap table? := by
  unfold sectionAt? locatedAt? TitleAt
  cases helement : elementAt? tree t with
  | none => simp
  | some e =>
      rw [Option.map_some, Option.bind_some]
      by_cases hname : e.name = cfg.titleTag
      · simp only [hname, beq_self_eq_true, if_true, made?_readSection, Option.map_eq_some_iff,
          Option.some.injEq, exists_eq_left', true_and]
        constructor
        · rintro ⟨title, htitle, rfl⟩
          exact ⟨title, htitle, rfl, rfl, rfl⟩
        · rintro ⟨title, htitle, hkind, hpath, htables⟩
          refine ⟨title, htitle, ?_⟩
          obtain ⟨kind, path, tables, path_ne_nil⟩ := s
          simp only at hkind hpath htables
          subst hkind hpath htables
          rfl
      · simp [hname]

/-- A section begins where a title stands that can be read. -/
theorem isSome_sectionAt? : (sectionAt? cfg tree t).isSome ↔ ∃ title, TitleAt cfg tree t title := by
  rw [Option.isSome_iff_exists]
  constructor
  · rintro ⟨s, hs⟩
    obtain ⟨title, htitle, -⟩ := sectionAt?_eq_some_iff.1 hs
    exact ⟨title, htitle⟩
  · rintro ⟨title, htitle⟩
    let s : Section := {
      kind := title.kind, path := title.path, path_ne_nil := title.path_ne_nil
      tables := (tableElements cfg (followingAt tree t)).filterMap table? }
    exact ⟨s, sectionAt?_eq_some_iff.2 ⟨title, htitle, rfl, rfl, rfl⟩⟩

/-- What begins at a position is a section with the tables that the title there owns. -/
theorem sectionAt_of_sectionAt? (hcase : IsLowerCase tree)
    (htitle : loweredName cfg.titleTag = cfg.titleTag) {s : Section}
    (h : sectionAt? cfg tree t = some s) : SectionAt cfg tree t s := by
  obtain ⟨title, hat, hkind, hpath, htables⟩ := sectionAt?_eq_some_iff.1 h
  refine ⟨⟨title, hat, hkind, hpath⟩, ownedPositions cfg tree t, pairwise_ownedPositions,
    fun x => mem_ownedPositions hcase htitle, ?_⟩
  rw [htables]
  exact forall₂_ownedPositions

/-- How the sections of a page lie in its tree. -/
structure Segmented (cfg : Conventions) (tree : List Node) (titles : List Position)
    (sections : List Section) : Prop where
  /-- The titles stand in document order. -/
  ordered : titles.Pairwise (· < ·)
  /-- They are all the titles that can be read. -/
  mem_titles : ∀ t, t ∈ titles ↔ ∃ title, TitleAt cfg tree t title
  /-- Each has a section, and there are no others. -/
  sections : List.Forall₂ (SectionAt cfg tree) titles sections
  /-- A table is owned by one title at most, whether that can be read or not. -/
  owner_unique : ∀ t u x e e', elementAt? tree t = some e → e.name = cfg.titleTag →
    elementAt? tree u = some e' → e'.name = cfg.titleTag →
    Owns cfg tree t x → Owns cfg tree u x → t = u
  /-- What is owned by a title that cannot be read belongs to no section. -/
  unread : ∀ u x e, elementAt? tree u = some e → e.name = cfg.titleTag →
    Title.ofText? (condense e.text) = none → Owns cfg tree u x →
    ∀ t ∈ titles, ¬ Owns cfg tree t x

/-- **Tables belong to the nearest title.** If all names are in lower case, the sections of a page
are those of its readable titles, in document order, and each has the tables that its title owns:
the later siblings up to the next title or boundary whose first row has a cell. -/
theorem segmented (hcase : IsLowerCase tree) (htitle : loweredName cfg.titleTag = cfg.titleTag) :
    ∃ titles, Segmented cfg tree titles (sections cfg tree) := by
  refine ⟨(Node.positionsAll 0 tree).filter fun t => (sectionAt? cfg tree t).isSome,
    ?ordered, ?mem_titles, ?sections, ?owner_unique, ?unread⟩
  case ordered => exact (pairwise_positionsAll tree).filter _
  case mem_titles =>
    intro t
    rw [List.mem_filter, isSome_sectionAt?, mem_positionsAll]
    refine and_iff_right_of_imp ?_
    rintro ⟨title, e, he, -⟩
    rw [he]
    rfl
  case sections =>
    rw [sections_eq]
    have hat := Lists.forall₂_filterMap (sectionAt? cfg tree) (Node.positionsAll 0 tree)
    exact hat.imp fun _ _ => sectionAt_of_sectionAt? hcase htitle
  case owner_unique =>
    intro t u x e e' he hname he' hname' ht hu
    exact ht.eq_of_titles hu he hname he' hname'
  case unread =>
    intro u x e he hname hnone hu t ht hown
    obtain ⟨title, e', he', hname', hread⟩ := isSome_sectionAt?.1 (List.mem_filter.1 ht).2
    obtain rfl := hown.eq_of_titles hu he' hname' he hname
    rw [he, Option.some.injEq] at he'
    rw [he', hread] at hnone
    cases hnone

end

/-- A table with one cell. -/
def smallTable (cell : List Char) : Node :=
  .element "table" [.element "tr" [.element "th" [.text none cell]]]

/-- A title that can be read with a table and an empty one, another that cannot be read with a table
of its own, and a third in front of a boundary. -/
def mixedPage : List Node := [
  .element "div" [
    .element "h2" [.text none "plugin.Plugin Class".toList], smallTable "Methods".toList,
    .element "table" [], .element "h2" [.text none "Overview".toList],
    smallTable "Topics".toList],
  .element "h2" [.text none "plugin Module".toList], .element "h1" [],
  smallTable "Functions".toList]

theorem segmented_mixedPage :
    IsLowerCase mixedPage ∧ loweredName ({} : Conventions).titleTag = ({} : Conventions).titleTag ∧
      (∃ titles, Segmented {} mixedPage titles (sections {} mixedPage)) ∧
      (sections {} mixedPage).map (fun s => (s.path, s.tables)) =
        [(["plugin", "Plugin"], [{ columns := ["methods"], rows := [] }]), (["plugin"], [])] := by
  have hcase : IsLowerCase mixedPage := by decide +kernel
  have htitle : loweredName ({} : Conventions).titleTag = ({} : Conventions).titleTag := by
    decide +kernel
  exact ⟨hcase, htitle, segmented hcase htitle, by decide +kernel⟩

end TypedReference.Page

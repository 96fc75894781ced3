/-
# Positions in a tree

A node has a position: the way from the top to the nodes that it stands among, and its index there.
Positions are ordered as the nodes are met in the document, an element in front of what it holds.
The elements of a tree, each with the nodes that follow it, stand at the positions of the tree in
this order.
-/
import Mathlib.Data.List.Lex
import TypedReference.Markup.Node

namespace TypedReference.Markup

/-! ## Positions -/

/-- The position of a node. -/
structure Position where
  /-- The indices on the way from the top to the nodes that it stands among. -/
  above : List Nat
  /-- Its index there. -/
  index : Nat
  deriving DecidableEq

namespace Position

/-- All indices from the top down to the node. -/
def way (p : Position) : List Nat := p.above ++ [p.index]

/-- A position stands in front of another if its way does: at the first index in which they differ
it takes the smaller one, or it ends where the other goes on. -/
instance : LT Position := ⟨fun p q => p.way < q.way⟩

/-- The same position, seen from outside of the element that stands at an index. -/
def below (i : Nat) (p : Position) : Position := ⟨i :: p.above, p.index⟩

/-- The index with which the way to a position begins. -/
def first (p : Position) : Nat := p.above.headD p.index

variable {i : Nat} {p q : Position}

theorem exists_way_eq (p : Position) : ∃ rest, p.way = p.first :: rest := by
  obtain ⟨above, index⟩ := p
  cases above with
  | nil => exact ⟨[], rfl⟩
  | cons i above => exact ⟨above ++ [index], rfl⟩

/-- A position is at the top, or in the node at the index with which its way begins. -/
theorem eq_mk_or_eq_below (p : Position) : p = ⟨[], p.first⟩ ∨ ∃ q, p = below p.first q := by
  obtain ⟨above, index⟩ := p
  cases above with
  | nil => exact Or.inl rfl
  | cons i above => exact Or.inr ⟨⟨above, index⟩, rfl⟩

/-- The way decides if it begins with different indices. -/
theorem lt_of_first_lt (h : p.first < q.first) : p < q := by
  obtain ⟨pr, hp⟩ := p.exists_way_eq
  obtain ⟨qr, hq⟩ := q.exists_way_eq
  show p.way < q.way
  rw [hp, hq]
  exact List.Lex.rel h

theorem below_lt_below (h : p < q) : p.below i < q.below i := by
  show i :: p.way < i :: q.way
  exact List.Lex.cons h

/-- An element stands in front of what it holds. -/
theorem lt_below (i : Nat) (p : Position) : (⟨[], i⟩ : Position) < p.below i := by
  obtain ⟨rest, hp⟩ := p.exists_way_eq
  show [i] < i :: p.way
  rw [hp]
  exact List.Lex.cons List.Lex.nil

/-- Nodes that stand among each other are ordered by their indices. -/
theorem mk_lt_mk {above : List Nat} {i j : Nat} (h : i < j) :
    (⟨above, i⟩ : Position) < ⟨above, j⟩ := by
  show above ++ [i] < above ++ [j]
  exact List.Lex.append_left _ (List.Lex.rel h) above

end Position

/-! ## What stands at a position -/

/-- The node as an element, if it is one. -/
def Node.element? : Node → Option Element
  | .element name children => some ⟨name, children⟩
  | _ => none

/-- The nodes that the way leads to from the top. -/
def siblings (top : List Node) : List Nat → List Node
  | [] => top
  | i :: rest =>
    match top[i]? with
    | some (.element _ children) => siblings children rest
    | _ => []

/-- The element that stands at a position. -/
def elementAt? (top : List Node) (p : Position) : Option Element :=
  (siblings top p.above)[p.index]?.bind Node.element?

/-- The element that stands at a position, with the nodes that follow it under the same parent. -/
def locatedAt? (top : List Node) (p : Position) : Option (Element × List Node) :=
  (elementAt? top p).map fun e => (e, (siblings top p.above).drop (p.index + 1))

section

variable {top children : List Node} {i : Nat} {name : String} {p : Position}

theorem elementAt?_below (h : top[i]? = some (.element name children)) :
    elementAt? top (p.below i) = elementAt? children p := by
  simp only [elementAt?, Position.below, siblings, h]

theorem locatedAt?_below (h : top[i]? = some (.element name children)) :
    locatedAt? top (p.below i) = locatedAt? children p := by
  have hsame : (siblings top (p.below i).above).drop ((p.below i).index + 1) =
      (siblings children p.above).drop (p.index + 1) := by
    simp only [Position.below, siblings, h]
  rw [locatedAt?, locatedAt?, elementAt?_below h, hsame]

/-- Nothing stands at a position whose way begins with the index of no element. -/
theorem elementAt?_eq_none (h : top[p.first]?.bind Node.element? = none) :
    elementAt? top p = none := by
  obtain ⟨above, index⟩ := p
  cases above with
  | nil => exact h
  | cons i above =>
      have hempty : siblings top (i :: above) = [] := by
        rw [siblings]
        split
        · next hget => simp [Position.first, hget, Node.element?] at h
        · rfl
      rw [elementAt?, hempty]
      rfl

end

/-! ## All positions of a tree -/

mutual

/-- The positions of the elements of a node at an index, in document order. -/
def Node.positions (index : Nat) : Node → List Position
  | .element _ children => ⟨[], index⟩ :: (Node.positionsAll 0 children).map (Position.below index)
  | _ => []

/-- The positions of the elements of some sibling nodes, of which the first has a given index. -/
def Node.positionsAll (index : Nat) : List Node → List Position
  | [] => []
  | n :: rest => n.positions index ++ Node.positionsAll (index + 1) rest

end

/-- What holds of no nodes, and of some sibling nodes if it holds of those after the first and of
those in the first, holds of all nodes. -/
theorem Node.forest_induction {motive : List Node → Prop} (nil : motive [])
    (element : ∀ name children rest, motive children → motive rest →
      motive (.element name children :: rest))
    (other : ∀ n rest, n.element? = none → motive rest → motive (n :: rest)) :
    ∀ nodes, motive nodes :=
  @Node.rec_1 (fun n => ∀ rest, motive rest → motive (n :: rest)) motive
    (fun keeper content rest => other (.text keeper content) rest rfl)
    (fun content rest => other (.marked content) rest rfl)
    (fun name children hchildren rest => element name children rest hchildren)
    nil (fun _ rest hn hrest => hn rest hrest)

section

variable {n : Node} {index : Nat} {following : List Node}

theorem Node.positions_of_other (h : n.element? = none) : n.positions index = [] := by
  cases n with
  | text | marked => rfl
  | element => cases h

theorem Node.located_of_other (h : n.element? = none) : n.located following = [] := by
  cases n with
  | text | marked => rfl
  | element => cases h

end

theorem drop_eq_cons {top rest : List Node} {k : Nat} {n : Node} (h : top.drop k = n :: rest) :
    top[k]? = some n ∧ top.drop (k + 1) = rest := by
  have hk : k < top.length := by
    by_contra hle
    rw [List.drop_eq_nil_of_le (Nat.le_of_not_lt hle)] at h
    cases h
  rw [List.drop_eq_getElem_cons hk, List.cons.injEq] at h
  exact ⟨by rw [List.getElem?_eq_getElem hk, h.1], h.2⟩

/-- The positions of the nodes from an index on lead to their elements, in the same order. -/
theorem map_positionsAll_drop (nodes : List Node) :
    ∀ top k, top.drop k = nodes →
      (Node.positionsAll k nodes).map (locatedAt? top) = (Node.locatedAll nodes).map some := by
  induction nodes using Node.forest_induction with
  | nil =>
      intro top k _
      rfl
  | element name children rest hchildren hrest =>
      intro top k hdrop
      obtain ⟨hget, hlater⟩ := drop_eq_cons hdrop
      have hhere : locatedAt? top ⟨[], k⟩ = some (⟨name, children⟩, rest) := by
        simp [locatedAt?, elementAt?, siblings, hget, Node.element?, hlater]
      have hinside : ((Node.positionsAll 0 children).map (Position.below k)).map (locatedAt? top) =
          (Node.locatedAll children).map some := by
        rw [List.map_map, ← hchildren children 0 rfl]
        exact List.map_congr_left fun p _ => locatedAt?_below hget
      rw [Node.positionsAll, Node.positions, Node.locatedAll, Node.located, List.map_append,
        List.map_append, List.map_cons, List.map_cons, hhere, hinside, hrest top (k + 1) hlater]
  | other n rest hn hrest =>
      intro top k hdrop
      obtain ⟨-, hlater⟩ := drop_eq_cons hdrop
      rw [Node.positionsAll, Node.positions_of_other hn, Node.locatedAll, Node.located_of_other hn,
        List.nil_append, List.nil_append, hrest top (k + 1) hlater]

/-- The positions of a tree lead to its elements, in document order. -/
theorem map_positionsAll (top : List Node) :
    (Node.positionsAll 0 top).map (locatedAt? top) = (Node.locatedAll top).map some :=
  map_positionsAll_drop top top 0 rfl

/-- The positions of the nodes from an index on are those that lead to an element and begin with
such an index. -/
theorem mem_positionsAll_drop (nodes : List Node) :
    ∀ top k, top.drop k = nodes → ∀ p,
      p ∈ Node.positionsAll k nodes ↔ k ≤ p.first ∧ (elementAt? top p).isSome := by
  induction nodes using Node.forest_induction with
  | nil =>
      intro top k hdrop p
      have hnone : k ≤ p.first → elementAt? top p = none := by
        intro hk
        apply elementAt?_eq_none
        rw [List.getElem?_eq_none (le_trans (List.drop_eq_nil_iff.1 hdrop) hk)]
        rfl
      simpa [Node.positionsAll] using hnone
  | element name children rest hchildren hrest =>
      intro top k hdrop p
      obtain ⟨hget, hlater⟩ := drop_eq_cons hdrop
      have hhere : p ∈ (Node.element name children).positions k ↔
          p.first = k ∧ (elementAt? top p).isSome := by
        rw [Node.positions, List.mem_cons, List.mem_map]
        constructor
        · rintro (rfl | ⟨q, hq, rfl⟩)
          · simp [Position.first, elementAt?, siblings, hget, Node.element?]
          · rw [elementAt?_below hget]
            exact ⟨rfl, ((hchildren children 0 rfl q).1 hq).2⟩
        · rintro ⟨rfl, hsome⟩
          rcases p.eq_mk_or_eq_below with hp | ⟨q, hp⟩
          · exact Or.inl hp
          · rw [hp, elementAt?_below hget] at hsome
            exact Or.inr ⟨q, (hchildren children 0 rfl q).2 ⟨Nat.zero_le _, hsome⟩, hp.symm⟩
      rw [Node.positionsAll, List.mem_append, hhere, hrest top (k + 1) hlater, ← or_and_right]
      refine and_congr_left' ?_
      omega
  | other n rest hn hrest =>
      intro top k hdrop p
      obtain ⟨hget, hlater⟩ := drop_eq_cons hdrop
      have hnone : p.first = k → elementAt? top p = none := by
        rintro rfl
        exact elementAt?_eq_none (by rw [hget]; exact hn)
      rw [Node.positionsAll, Node.positions_of_other hn, List.nil_append, hrest top (k + 1) hlater]
      refine and_congr_left fun hsome => ?_
      have hne : p.first ≠ k := by
        intro hp
        rw [hnone hp] at hsome
        cases hsome
      omega

/-- The positions of a tree are those that lead to an element. -/
theorem mem_positionsAll {top : List Node} {p : Position} :
    p ∈ Node.positionsAll 0 top ↔ (elementAt? top p).isSome := by
  rw [mem_positionsAll_drop top top 0 rfl]
  exact and_iff_right (Nat.zero_le _)

/-- The positions of the nodes from an index on are in document order. -/
theorem pairwise_positionsAll_drop (nodes : List Node) :
    ∀ (top : List Node) k, top.drop k = nodes → (Node.positionsAll k nodes).Pairwise (· < ·) := by
  induction nodes using Node.forest_induction with
  | nil =>
      intro top k _
      exact List.Pairwise.nil
  | element name children rest hchildren hrest =>
      intro top k hdrop
      obtain ⟨hget, hlater⟩ := drop_eq_cons hdrop
      have hinside : ((Node.positionsAll 0 children).map (Position.below k)).Pairwise (· < ·) :=
        (hchildren children 0 rfl).map _ fun _ _ => Position.below_lt_below
      have hhere : ((Node.element name children).positions k).Pairwise (· < ·) := by
        rw [Node.positions, List.pairwise_cons]
        refine ⟨?_, hinside⟩
        intro q hq
        obtain ⟨p, -, rfl⟩ := List.mem_map.1 hq
        exact Position.lt_below k p
      rw [Node.positionsAll, List.pairwise_append]
      refine ⟨hhere, hrest top (k + 1) hlater, ?_⟩
      intro p hp q hq
      have hfirst : p.first = k := by
        rw [Node.positions, List.mem_cons, List.mem_map] at hp
        rcases hp with rfl | ⟨p', -, rfl⟩ <;> rfl
      have hlaterFirst := ((mem_positionsAll_drop rest top (k + 1) hlater q).1 hq).1
      exact Position.lt_of_first_lt (by omega)
  | other n rest hn hrest =>
      intro top k hdrop
      rw [Node.positionsAll, Node.positions_of_other hn, List.nil_append]
      exact hrest top (k + 1) (drop_eq_cons hdrop).2

/-- The positions of a tree are in document order. -/
theorem pairwise_positionsAll (top : List Node) :
    (Node.positionsAll 0 top).Pairwise (· < ·) :=
  pairwise_positionsAll_drop top top 0 rfl

/-! ## All elements of a tree -/

theorem elementsAll_eq_map_locatedAll (nodes : List Node) :
    Node.elementsAll nodes = (Node.locatedAll nodes).map Prod.fst := by
  induction nodes using Node.forest_induction with
  | nil => rfl
  | element name children rest hchildren hrest =>
      rw [Node.elementsAll, Node.elements, Node.locatedAll, Node.located, hchildren, hrest,
        List.map_append, List.map_cons]
  | other n rest hn hrest =>
      have hnone : n.elements = [] := by
        cases n with
        | text | marked => rfl
        | element => cases hn
      rw [Node.elementsAll, hnone, Node.locatedAll, Node.located_of_other hn, hrest]
      rfl

/-- The elements of a tree are those that stand at its positions. -/
theorem mem_elementsAll {top : List Node} {e : Element} :
    e ∈ Node.elementsAll top ↔ ∃ p, elementAt? top p = some e := by
  have hmap := map_positionsAll top
  rw [elementsAll_eq_map_locatedAll, List.mem_map]
  constructor
  · rintro ⟨⟨e, following⟩, hmem, rfl⟩
    have hsome := List.mem_map_of_mem (f := some) hmem
    rw [← hmap] at hsome
    obtain ⟨p, -, hp⟩ := List.mem_map.1 hsome
    obtain ⟨e', he', heq⟩ := Option.map_eq_some_iff.1 hp
    cases heq
    exact ⟨p, he'⟩
  · rintro ⟨p, hp⟩
    have hlocated : locatedAt? top p = some (e, (siblings top p.above).drop (p.index + 1)) := by
      rw [locatedAt?, hp]
      rfl
    have hmem := List.mem_map_of_mem (f := locatedAt? top) (mem_positionsAll.2 (by rw [hp]; rfl))
    rw [hmap, hlocated] at hmem
    obtain ⟨x, hx, heq⟩ := List.mem_map.1 hmem
    cases heq
    exact ⟨_, hx, rfl⟩

end TypedReference.Markup

/-
# Overloads

Members that share a name become one member. The first one stays; later methods become overloads of
a first method, and every other later member is dropped with a report.
-/
import TypedReference.Event

namespace TypedReference

namespace Member

/-- Two methods of one name are overloads of each other. -/
def overloads? (first later : Member) : Bool := first.kind.isMethod && later.kind.isMethod

/-- The member with the signatures of a later one of the same name, when both are methods. -/
def absorb (first later : Member) : Member :=
  if first.overloads? later then
    { first with overloads := first.overloads ++ later.kind :: later.overloads }
  else first

/-- Adds a member: the first one of its name absorbs it, and without one it goes to the end. -/
def addTo (members : List Member) (m : Member) : List Member :=
  match members with
  | [] => [m]
  | first :: rest =>
    if first.name = m.name then first.absorb m :: rest else first :: addTo rest m

/-- The members that are kept so far, and how many have been taken away. -/
structure Merging where
  /-- One member of each name, in the order of first occurrence. -/
  kept : List Member
  /-- How many members had the name of one that was there. -/
  away : Nat

/-- Adds one more member, which is taken away unless its name is new. -/
def Merging.add (s : Merging) (m : Member) : Merging where
  kept := addTo s.kept m
  away := if m.name ∈ s.kept.map name then s.away + 1 else s.away

/-- Merges members one after the other. -/
def merging (members : List Member) : Merging := members.foldl Merging.add ⟨[], 0⟩

/-- The members with one of each name, in the order of first occurrence. -/
def merged (members : List Member) : List Member := (merging members).kept

/-- A report for each member that is dropped because of one in `seen` or before it. -/
def collisions (owner : String) (seen : List Member) : List Member → List Event
  | [] => []
  | m :: rest =>
    match seen.find? (fun first => first.name == m.name) with
    | none => collisions owner (seen ++ [m]) rest
    | some first =>
      if first.overloads? m then collisions owner seen rest
      else .collision owner m.name m.kind first.kind :: collisions owner seen rest

end Member

namespace Declaration

/-- The declaration with one member of each name. -/
def mergeOverloads (d : Declaration) : Declaration := { d with members := Member.merged d.members }

/-- How many members the merging takes away, as it counts them. -/
def mergedAway (d : Declaration) : Nat := (Member.merging d.members).away

/-- How many members the merging takes away from several declarations. -/
def mergedAwayFrom (ds : List Declaration) : Nat := ds.foldr (fun d count => d.mergedAway + count) 0

/-- What the merging reports. -/
def mergeEvents (d : Declaration) : List Event := Member.collisions d.dottedPath [] d.members

end Declaration

end TypedReference

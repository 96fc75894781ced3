/-
# Type expressions

Texts such as `[(str, str)]` or `Region or None`. `TypeExpr.read` takes a text apart without looking
at any name, so it always has a result; `TypeExpr.resolve` then gives the names their types, from
left to right, and reports what could not be made out.
-/
import TypedReference.NameRule
import TypedReference.Text.Split

namespace TypedReference

open Text

/-! ## Brackets around a text -/

/-- A text with the brackets around it counted and taken off. -/
structure Peeled where
  /-- What stands inside the brackets. -/
  inner : List Char
  /-- How many brackets there were. -/
  depth : Nat
  deriving DecidableEq, Repr

/-- Takes the brackets off a text. There must be as many closing ones at the end as there are
opening ones in front; blanks around them do not matter. -/
def peelBrackets (l : List Char) : Except DocumentFault Peeled :=
  let text := trim l
  let opened := (text.takeWhile (· == '[')).length
  let closed := (text.reverse.takeWhile (· == ']')).length
  if opened ≠ closed then .error (.mismatchedBrackets (String.ofList text) opened closed)
  else if opened = 0 then .ok ⟨text, 0⟩
  else .ok ⟨trim ((text.take (text.length - closed)).drop opened), opened⟩

/-! ## What stands inside the brackets -/

/-- The form of a text that stands in no brackets, with the texts that are types again. -/
inductive Outline where
  /-- Types side by side in parentheses. -/
  | tuple (members : List (List Char))
  /-- A type or none. -/
  | nullable (inner : List Char)
  /-- Another choice of types. -/
  | alternation
  /-- A dotted name. -/
  | name
  /-- Nothing of the kind. -/
  | unreadable
  deriving DecidableEq, Repr

/-- With `depth` parentheses open, the last of them is closed by the last character. -/
def closesAtEnd (depth : Nat) : List Char → Bool
  | [] => false
  | c :: r =>
    if c == '(' then closesAtEnd (depth + 1) r
    else if c == ')' then if depth = 1 then r.isEmpty else closesAtEnd (depth - 1) r
    else closesAtEnd depth r

/-- What stands between an opening parenthesis at the start and the one that closes it at the
end. -/
def parenthesized? : List Char → Option (List Char)
  | [] => none
  | c :: r => if c == '(' && closesAtEnd 1 r then some r.dropLast else none

/-- What follows the word "or" between spaces, in any case, at the start of a text. -/
def afterOr? : List Char → Option (List Char)
  | ' ' :: o :: r :: ' ' :: rest =>
    if (o == 'o' || o == 'O') && (r == 'r' || r == 'R') && !rest.isEmpty then some rest else none
  | _ => none

/-- The texts before and after the first "or" that has text before it. -/
def splitOr? : List Char → Option (List Char × List Char)
  | [] => none
  | c :: r =>
    match afterOr? r with
    | some rest => some ([c], rest)
    | none => (splitOr? r).map fun (before, rest) => (c :: before, rest)

/-- The word for no value, in any case. -/
def isNone (l : List Char) : Bool := lower l == "none".toList

/-- The choice between two texts: one of them is the word for no value, or it is another choice. -/
def outlineChoice (first : List (List Char)) (last : List Char) : Outline :=
  match first with
  | [only] =>
    if isNone only then .nullable last else if isNone last then .nullable only else .alternation
  | _ => .alternation

/-- The form of a text. -/
def outline (l : List Char) : Outline :=
  match parenthesized? l with
  | some body => .tuple (topLevelParts [','] body)
  | none =>
    match splitOr? l with
    | some (before, rest) => outlineChoice (topLevelParts [','] before) (trim rest)
    | none => if isDottedName l then .name else .unreadable

/-! ## What a form says about a text -/

/-- A choice has no other form than that of a type or none or of another choice. -/
theorem outlineChoice_cases (first : List (List Char)) (last : List Char) :
    (∃ inner, outlineChoice first last = .nullable inner) ∨
      outlineChoice first last = .alternation := by
  unfold outlineChoice
  split
  · split
    · exact Or.inl ⟨_, rfl⟩
    · split
      · exact Or.inl ⟨_, rfl⟩
      · exact Or.inr rfl
  · exact Or.inr rfl

/-- A text with the form of a tuple stands in parentheses. -/
theorem outline_eq_tuple {l : List Char} {members : List (List Char)}
    (h : outline l = .tuple members) :
    ∃ body, parenthesized? l = some body ∧ members = topLevelParts [','] body := by
  unfold outline at h
  split at h
  · next body hbody =>
    cases h
    exact ⟨body, hbody, rfl⟩
  · split at h
    · next before rest _ =>
      rcases outlineChoice_cases (topLevelParts [','] before) (trim rest) with ⟨_, hc⟩ | hc
      all_goals
        rw [hc] at h
        cases h
    · split at h <;> cases h

/-- A text with the form of a type or none is split into the word for no value, on one side, and
the type on the other. -/
theorem outline_eq_nullable {l inner : List Char} (h : outline l = .nullable inner) :
    ∃ before rest only, splitOr? l = some (before, rest) ∧ topLevelParts [','] before = [only] ∧
      (isNone only = true ∧ inner = trim rest ∨ isNone (trim rest) = true ∧ inner = only) := by
  unfold outline at h
  split at h
  · cases h
  · split at h
    · next before rest hsplit =>
      unfold outlineChoice at h
      split at h
      · next only honly =>
        refine ⟨before, rest, only, hsplit, honly, ?_⟩
        split at h
        · next hnone =>
          cases h
          exact Or.inl ⟨hnone, rfl⟩
        · split at h
          · next hnone =>
            cases h
            exact Or.inr ⟨hnone, rfl⟩
          · cases h
      · cases h
    · split at h <;> cases h

/-- A text with the form of a name is one. -/
theorem outline_eq_name {l : List Char} (h : outline l = .name) : isDottedName l = true := by
  unfold outline at h
  split at h
  · cases h
  · split at h
    · next before rest _ =>
      rcases outlineChoice_cases (topLevelParts [','] before) (trim rest) with ⟨_, hc⟩ | hc
      all_goals
        rw [hc] at h
        cases h
    · split at h
      · next hname => exact hname
      · cases h

/-! ## The texts inside are shorter -/

theorem length_inner_le_of_peelBrackets {l : List Char} {p : Peeled}
    (h : peelBrackets l = .ok p) : p.inner.length ≤ l.length := by
  have hl := length_trim_le l
  simp only [peelBrackets] at h
  split at h
  · cases h
  · split at h
    · cases h
      exact hl
    · cases h
      refine Nat.le_trans (length_trim_le _) ?_
      simp only [List.length_drop, List.length_take]
      omega

theorem length_of_parenthesized? {l body : List Char} (h : parenthesized? l = some body) :
    body.length < l.length := by
  cases l with
  | nil => simp [parenthesized?] at h
  | cons c r =>
    simp only [parenthesized?] at h
    split at h
    · cases h
      simp only [List.length_dropLast, List.length_cons]
      omega
    · cases h

theorem length_of_afterOr? {l rest : List Char} (h : afterOr? l = some rest) :
    rest.length < l.length := by
  unfold afterOr? at h
  split at h
  · split at h
    · cases h
      simp only [List.length_cons]
      omega
    · cases h
  · cases h

theorem length_of_splitOr? {l before rest : List Char} (h : splitOr? l = some (before, rest)) :
    before.length < l.length ∧ rest.length < l.length := by
  induction l generalizing before with
  | nil => simp [splitOr?] at h
  | cons c r ih =>
    simp only [splitOr?] at h
    split at h
    · next rest' hr =>
      have := length_of_afterOr? hr
      cases h
      simp only [List.length_cons, List.length_nil]
      omega
    · obtain ⟨⟨before', rest'⟩, hr, heq⟩ := Option.map_eq_some_iff.1 h
      simp only [Prod.mk.injEq] at heq
      obtain ⟨rfl, rfl⟩ := heq
      have := ih hr
      simp only [List.length_cons]
      omega

theorem length_lt_of_outline_eq_tuple {l m : List Char} {members : List (List Char)}
    (h : outline l = .tuple members) (hm : m ∈ members) : m.length < l.length := by
  obtain ⟨body, hbody, rfl⟩ := outline_eq_tuple h
  exact Nat.lt_of_le_of_lt (length_le_of_mem_topLevelParts hm) (length_of_parenthesized? hbody)

theorem length_lt_of_outline_eq_nullable {l inner : List Char}
    (h : outline l = .nullable inner) : inner.length < l.length := by
  obtain ⟨before, rest, only, hsplit, honly, hinner⟩ := outline_eq_nullable h
  obtain ⟨hbefore, hrest⟩ := length_of_splitOr? hsplit
  rcases hinner with ⟨-, rfl⟩ | ⟨-, rfl⟩
  · exact Nat.lt_of_le_of_lt (length_trim_le rest) hrest
  · have hpart : inner ∈ topLevelParts [','] before := by simp [honly]
    exact Nat.lt_of_le_of_lt (length_le_of_mem_topLevelParts hpart) hbefore

/-- Members of a tuple are shorter than the text that they are read from. -/
theorem length_condense_lt_of_tuple {l m : List Char} {members : List (List Char)} {p : Peeled}
    (hp : peelBrackets (condense l) = .ok p) (ho : outline p.inner = .tuple members)
    (hm : m ∈ members) : (condense m).length < (condense l).length := by
  have hinner := length_inner_le_of_peelBrackets hp
  have hmember := length_lt_of_outline_eq_tuple ho hm
  have hcondense := length_condense_le m
  omega

/-- A type that may be missing is shorter than the text that it is read from. -/
theorem length_condense_lt_of_nullable {l inner : List Char} {p : Peeled}
    (hp : peelBrackets (condense l) = .ok p) (ho : outline p.inner = .nullable inner) :
    (condense inner).length < (condense l).length := by
  have hinner := length_inner_le_of_peelBrackets hp
  have hchoice := length_lt_of_outline_eq_nullable ho
  have hcondense := length_condense_le inner
  omega

/-! ## Expressions -/

/-- A text taken apart into the types it names. -/
inductive TypeExpr where
  /-- Brackets that do not pair up. -/
  | mismatched (fault : DocumentFault)
  /-- A type in some brackets. -/
  | array (depth : Nat) (inner : TypeExpr)
  /-- Types side by side. -/
  | tuple (members : List TypeExpr)
  /-- A type or none. -/
  | nullable (inner : TypeExpr)
  /-- A choice that is not a type or none. -/
  | alternation (text : List Char)
  /-- A dotted name. -/
  | name (text : List Char)
  /-- A text that is no type. -/
  | unreadable (text : List Char)
  deriving Inhabited

namespace TypeExpr

/-- Reads a text. Each text inside is shorter than the one around it, runs of blanks counted as one
space, so the reading comes to an end. -/
def read (l : List Char) : TypeExpr :=
  match _hp : peelBrackets (condense l) with
  | .error fault => mismatched fault
  | .ok p =>
    array p.depth <|
      match _ho : outline p.inner with
      | .tuple members => tuple (members.attach.map fun ⟨m, _⟩ => read m)
      | .nullable inner => nullable (read inner)
      | .alternation => alternation p.inner
      | .name => name p.inner
      | .unreadable => unreadable p.inner
termination_by (condense l).length
decreasing_by
  · next hm => exact length_condense_lt_of_tuple _hp _ho hm
  · exact length_condense_lt_of_nullable _hp _ho

mutual

/-- Gives an expression its type. The first part that has none ends the work. -/
def resolve (classes : ClassPaths) : TypeExpr → Logged AssemblyFault ApiType
  | mismatched fault => .fail (.document fault)
  | array depth inner => (resolve classes inner).map (.arrays depth)
  | tuple members => (resolveAll classes members).map .tuple
  | nullable inner => (resolve classes inner).map .nullable
  | alternation text => ⟨.ok .any, [.unresolvedAlternation (String.ofList text)]⟩
  | name text => resolveName classes text
  | unreadable text => ⟨.ok .any, [.unparsableType (String.ofList text)]⟩

/-- Gives each of several expressions its type. -/
def resolveAll (classes : ClassPaths) : List TypeExpr → Logged AssemblyFault (List ApiType)
  | [] => .ok []
  | e :: es =>
    (resolve classes e).andThen fun t => (resolveAll classes es).map fun ts => t :: ts

end

end TypeExpr

/-- The type that a text names. -/
def typeOfText (classes : ClassPaths) (l : List Char) : Logged AssemblyFault ApiType :=
  (TypeExpr.read l).resolve classes

end TypedReference

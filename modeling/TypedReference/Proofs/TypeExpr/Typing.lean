/-
# Types of texts

`TypeExpr.read_of_peel` says how a text is read as a whole, layer after layer. From it follow the
ways in which the type of a text comes from the types of the texts inside, and the induction over
readings by which a property of the types of names passes to the types of all texts.
-/
import TypedReference.Proofs.Resolution
import TypedReference.Proofs.TypeExpr.Layers

namespace TypedReference

open Text

/-- The page itself is at fault. -/
def AssemblyFault.InPage (e : AssemblyFault) : Prop := ∃ cause, e = .document cause

/-- Where only the page can be at fault, each failure is for what stands in it. -/
theorem Logged.FaultsIn.fails_iff_document {α : Type} {x : Logged AssemblyFault α}
    (h : x.FaultsIn AssemblyFault.InPage) :
    x.Fails ↔ ∃ cause, x.outcome = .error (.document cause) := by
  constructor
  · rintro ⟨e, he⟩
    obtain ⟨cause, rfl⟩ := h e he
    exact ⟨cause, he⟩
  · rintro ⟨cause, hcause⟩
    exact ⟨_, hcause⟩

namespace TypeExpr

/-! ## Reading -/

/-- The reading of a text in no brackets that has the given form. -/
def ofOutline (text : List Char) : Outline → TypeExpr
  | .tuple members => tuple (members.map read)
  | .nullable inner => nullable (read inner)
  | .alternation => alternation text
  | .name => name text
  | .unreadable => unreadable text

/-- A text whose brackets pair up is read by the form of what stands inside them. -/
theorem read_of_peel {l : List Char} {p : Peeled} (h : peelBrackets (condense l) = .ok p) :
    read l = array p.depth (ofOutline p.inner (outline p.inner)) := by
  rw [read]
  split
  · next heq =>
    rw [h] at heq
    cases heq
  · next q heq =>
    rw [h] at heq
    cases heq
    congr 1
    -- Members are read along with proofs that they are members; without them it is a plain map.
    split
    · next members ho =>
      rw [ho, ofOutline, List.map_attach_eq_pmap, List.pmap_eq_map]
    all_goals
      next ho => rw [ho, ofOutline]

/-- A text whose brackets do not pair up is read as nothing else. -/
theorem read_of_mismatch {l : List Char} {fault : DocumentFault}
    (h : peelBrackets (condense l) = .error fault) : read l = mismatched fault := by
  rw [read]
  split
  · next heq =>
    rw [h] at heq
    cases heq
    rfl
  · next heq =>
    rw [h] at heq
    cases heq

/-- Only the words of a text count for its reading, not the blanks between them. -/
theorem read_condense (l : List Char) : read (condense l) = read l := by
  cases h : peelBrackets (condense l) with
  | error fault =>
      have h' : peelBrackets (condense (condense l)) = .error fault := by rwa [condense_condense]
      rw [read_of_mismatch h, read_of_mismatch h']
  | ok p =>
      have h' : peelBrackets (condense (condense l)) = .ok p := by rwa [condense_condense]
      rw [read_of_peel h, read_of_peel h']

/-! ## Induction over readings -/

/-- What holds of every reading if it passes from the members of a tuple to the tuple, and so for
the other ways of putting readings together. -/
theorem induction {motive : TypeExpr → Prop} (mismatched : ∀ fault, motive (mismatched fault))
    (array : ∀ depth inner, motive inner → motive (array depth inner))
    (tuple : ∀ members, (∀ e ∈ members, motive e) → motive (tuple members))
    (nullable : ∀ inner, motive inner → motive (nullable inner))
    (alternation : ∀ text, motive (alternation text)) (name : ∀ text, motive (name text))
    (unreadable : ∀ text, motive (unreadable text)) (e : TypeExpr) : motive e := by
  refine @TypeExpr.rec motive (fun es => ∀ e ∈ es, motive e) mismatched array tuple nullable
    alternation name unreadable ?_ ?_ e
  · simp
  · intro head tail hhead htail e he
    rcases List.mem_cons.1 he with rfl | he
    · exact hhead
    · exact htail e he

variable {classes : ClassPaths}

/-- Several expressions are resolved one after the other. -/
theorem resolveAll_eq_mapAll (classes : ClassPaths) (es : List TypeExpr) :
    resolveAll classes es = Logged.mapAll (resolve classes) es := by
  induction es with
  | nil => rfl
  | cons e es ih =>
      rw [resolveAll, Logged.mapAll, ih]
      congr 1
      funext t
      exact Logged.map_eq_andThen _ _

/-- A hereditary property of the types of names is one of the types of all readings. -/
theorem hereditary_resolve {P : ApiType → Prop} (hP : ApiType.Hereditary P)
    (hname : ∀ x t, (resolveName classes x).outcome = .ok t → P t) (e : TypeExpr) :
    ∀ t, (e.resolve classes).outcome = .ok t → P t := by
  induction e using TypeExpr.induction with
  | mismatched fault =>
      intro t ht
      rw [resolve] at ht
      cases ht
  | array depth inner ih =>
      intro t ht
      rw [resolve, Logged.outcome_map_eq_ok_iff] at ht
      obtain ⟨u, hu, rfl⟩ := ht
      exact hP.arrays depth (ih u hu)
  | tuple members ih =>
      intro t ht
      rw [resolve, resolveAll_eq_mapAll, Logged.outcome_map_eq_ok_iff] at ht
      obtain ⟨ts, hts, rfl⟩ := ht
      apply hP.tuple
      intro u hu
      obtain ⟨e, he, heu⟩ := Logged.exists_of_mem_mapAll hts hu
      exact ih e he u heu
  | nullable inner ih =>
      intro t ht
      rw [resolve, Logged.outcome_map_eq_ok_iff] at ht
      obtain ⟨u, hu, rfl⟩ := ht
      exact hP.nullable u (ih u hu)
  | name text =>
      intro t ht
      exact hname text t ht
  | alternation text | unreadable text =>
      intro t ht
      rw [resolve] at ht
      cases ht
      exact hP.any

/-- A text can only be refused for what stands in it. -/
theorem faultsIn_resolve (h : classes.Usable) (e : TypeExpr) :
    (e.resolve classes).FaultsIn AssemblyFault.InPage := by
  induction e using TypeExpr.induction with
  | mismatched fault =>
      rw [resolve]
      exact Logged.FaultsIn.fail ⟨fault, rfl⟩
  | array depth inner ih =>
      rw [resolve]
      exact ih.map
  | tuple members ih =>
      rw [resolve, resolveAll_eq_mapAll]
      exact (Logged.FaultsIn.mapAll ih).map
  | nullable inner ih =>
      rw [resolve]
      exact ih.map
  | name text =>
      intro e he
      exact absurd ⟨e, he⟩ (not_fails_resolveName h text)
  | alternation text | unreadable text =>
      intro e he
      rw [resolve] at he
      cases he

end TypeExpr

/-! ## Types of texts -/

section

variable {classes : ClassPaths}

/-- Only the words of a text count for its type. -/
theorem typeOfText_condense (classes : ClassPaths) (l : List Char) :
    typeOfText classes (condense l) = typeOfText classes l := by
  rw [typeOfText, TypeExpr.read_condense, typeOfText]

/-- A hereditary property of the types of names is one of the types of all texts. -/
theorem hereditary_typeOfText {P : ApiType → Prop} (hP : ApiType.Hereditary P)
    (hname : ∀ x t, (resolveName classes x).outcome = .ok t → P t) {l : List Char} {t : ApiType}
    (ht : (typeOfText classes l).outcome = .ok t) : P t :=
  TypeExpr.hereditary_resolve hP hname _ t ht

/-- A text can only be refused for what stands in it. -/
theorem faultsIn_typeOfText (h : classes.Usable) (l : List Char) :
    (typeOfText classes l).FaultsIn AssemblyFault.InPage :=
  TypeExpr.faultsIn_resolve h _

/-- A condensed text without brackets at its ends has the type that its form gives it. -/
theorem outcome_typeOfText_bare {l : List Char} (hl : condense l = l)
    (hhead : ∀ c ∈ l.head?, c ≠ '[') (hlast : ∀ c ∈ l.getLast?, c ≠ ']') :
    (typeOfText classes l).outcome =
      ((TypeExpr.ofOutline l (outline l)).resolve classes).outcome := by
  have htrim : trim l = l := by
    rw [← hl]
    exact trim_condense l
  have hpeel : peelBrackets (condense l) = .ok ⟨l, 0⟩ := by
    rw [hl, peelBrackets_bare htrim hhead hlast]
  rw [typeOfText, TypeExpr.read_of_peel hpeel, TypeExpr.resolve, Logged.outcome_map]
  cases ((TypeExpr.ofOutline l (outline l)).resolve classes).outcome <;> rfl

/-- A condensed text with more brackets at one end than at the other has no type. -/
theorem outcome_typeOfText_mismatch {l : List Char} (hl : condense l = l)
    (hne : openedBrackets l ≠ closedBrackets l) :
    (typeOfText classes l).outcome = .error (.document
      (.mismatchedBrackets (String.ofList l) (openedBrackets l) (closedBrackets l))) := by
  have htrim : trim l = l := by
    rw [← hl]
    exact trim_condense l
  have hpeel : peelBrackets (condense l) = .error
      (.mismatchedBrackets (String.ofList l) (openedBrackets l) (closedBrackets l)) := by
    rw [hl, peelBrackets_eq htrim, if_neg hne]
  rw [typeOfText, TypeExpr.read_of_mismatch hpeel]
  rfl

/-- Condensing goes into brackets around a trimmed text. -/
theorem condense_enclosed {l : List Char} (ht : trim l = l) :
    condense ('[' :: l ++ [']']) = '[' :: condense l ++ [']'] := by
  have hstart : trimStart ('[' :: l ++ [']']) = '[' :: l ++ [']'] :=
    trimStart_eq_self_iff.2 (by simp; decide)
  have hinner : trimStart l = l := trimStart_eq_self_iff.2 (trim_eq_self_iff.1 ht).1
  rw [condense, hstart, condense, hinner, List.cons_append, collapse, if_neg (by decide)]
  -- An empty text has no last character, in front of which the collapsing could be split.
  by_cases hl : l = []
  · subst hl
    decide
  · rw [collapse_append _ _ hl (trim_eq_self_iff.1 ht).2]
    rfl

/-- A text in brackets is an array of what the text is without them. -/
theorem outcome_typeOfText_enclosed {l : List Char} (ht : trim l = l) {t : ApiType}
    (h : (typeOfText classes l).outcome = .ok t) :
    (typeOfText classes ('[' :: l ++ [']'])).outcome = .ok (.array t) := by
  cases hp : peelBrackets (condense l) with
  | error fault =>
      rw [typeOfText, TypeExpr.read_of_mismatch hp, TypeExpr.resolve] at h
      cases h
  | ok p =>
      have hp' : peelBrackets (condense ('[' :: l ++ [']'])) = .ok ⟨p.inner, p.depth + 1⟩ := by
        rw [condense_enclosed ht]
        exact peelBrackets_enclosed (trim_condense l) hp
      rw [typeOfText, TypeExpr.read_of_peel hp, TypeExpr.resolve,
        Logged.outcome_map_eq_ok_iff] at h
      obtain ⟨u, hu, rfl⟩ := h
      rw [typeOfText, TypeExpr.read_of_peel hp', TypeExpr.resolve, Logged.outcome_map_eq_ok_iff]
      exact ⟨u, hu, rfl⟩

end

end TypedReference

/-
# Outcomes of logged computations

When a chain of computations has a value, and when it ends with a fault. Each way of putting
computations together has one law for values and one for faults; a run over a list has its value
element by element, and it fails exactly when one of its steps does.
-/
import Mathlib.Data.List.Forall2
import TypedReference.Logged

namespace TypedReference.Logged

variable {ε ε' α β γ δ : Type}

/-! ## Lists side by side -/

/-- What stands on the right has a partner on the left. -/
theorem exists_of_mem_right {R : α → β → Prop} {l : List α} {bs : List β}
    (h : List.Forall₂ R l bs) {b : β} (hb : b ∈ bs) : ∃ a ∈ l, R a b := by
  induction h with
  | nil => exact absurd hb List.not_mem_nil
  | cons hstep _ ih =>
      rcases List.mem_cons.1 hb with rfl | hb
      · exact ⟨_, List.mem_cons_self, hstep⟩
      · obtain ⟨a, ha, hab⟩ := ih hb
        exact ⟨a, List.mem_cons_of_mem _ ha, hab⟩

/-- What stands on the left has a partner on the right. -/
theorem exists_of_mem_left {R : α → β → Prop} {l : List α} {bs : List β}
    (h : List.Forall₂ R l bs) {a : α} (ha : a ∈ l) : ∃ b ∈ bs, R a b :=
  exists_of_mem_right h.flip ha

/-- What stands on the right has a property if what stands on the left has another one, when
partners have the two together. -/
theorem forall_mem_right_iff {R : α → β → Prop} {p : α → Prop} {q : β → Prop} {l : List α}
    {bs : List β} (h : List.Forall₂ R l bs) (hpq : ∀ a b, R a b → (q b ↔ p a)) :
    (∀ b ∈ bs, q b) ↔ ∀ a ∈ l, p a := by
  constructor
  · intro hq a ha
    obtain ⟨b, hb, hab⟩ := exists_of_mem_left h ha
    exact (hpq a b hab).1 (hq b hb)
  · intro hp b hb
    obtain ⟨a, ha, hab⟩ := exists_of_mem_right h hb
    exact (hpq a b hab).2 (hp a ha)

/-! ## Values and faults -/

/-- The computation ends with a fault. -/
def Fails (x : Logged ε α) : Prop := ∃ e, x.outcome = .error e

/-- Every fault with which the computation can end is of the kind `p`. -/
def FaultsIn (p : ε → Prop) (x : Logged ε α) : Prop := ∀ e, x.outcome = .error e → p e

/-- A computation fails when it has no value. -/
theorem fails_iff {x : Logged ε α} : x.Fails ↔ ∀ a, x.outcome ≠ .ok a := by
  rw [Fails]
  cases h : x.outcome with
  | ok a => simp
  | error e => simp

theorem not_fails_iff {x : Logged ε α} : ¬ x.Fails ↔ ∃ a, x.outcome = .ok a := by
  rw [fails_iff]
  push Not
  rfl

/-- Changing the value is going on with the changed value. -/
theorem map_eq_andThen (f : α → β) (x : Logged ε α) : x.map f = x.andThen fun a => ok (f a) := by
  obtain ⟨outcome, events⟩ := x
  cases outcome <;> simp [map, andThen, ok, Except.map]

theorem map_map (g : β → γ) (f : α → β) (x : Logged ε α) : (x.map f).map g = x.map (g ∘ f) := by
  obtain ⟨outcome, events⟩ := x
  cases outcome <;> rfl

/-- Changing the value of a chain is changing that of its second part. -/
theorem map_andThen (g : β → γ) (x : Logged ε α) (f : α → Logged ε β) :
    (x.andThen f).map g = x.andThen fun a => (f a).map g := by
  obtain ⟨outcome, events⟩ := x
  cases outcome <;> rfl

/-- Going on with a changed value is changing it on the way. -/
theorem andThen_map (h : α → β) (x : Logged ε α) (f : β → Logged ε γ) :
    (x.map h).andThen f = x.andThen fun a => f (h a) := by
  obtain ⟨outcome, events⟩ := x
  cases outcome <;> rfl

/-- Changing the values of a run over a list is a run with changed values. -/
theorem map_mapAll (g : β → γ) (f : α → Logged ε β) (l : List α) :
    (mapAll f l).map (List.map g) = mapAll (fun a => (f a).map g) l := by
  induction l with
  | nil => rfl
  | cons a l ih =>
      rw [mapAll, mapAll, map_andThen, andThen_map, ← ih]
      congr 1
      funext b
      rw [map_andThen, andThen_map]
      rfl

/-- Two runs are the same if their steps are, one by one. -/
theorem mapAll_congr {f : α → Logged ε γ} {g : β → Logged ε γ} {l : List α} {l' : List β}
    (h : List.Forall₂ (fun a b => f a = g b) l l') : mapAll f l = mapAll g l' := by
  induction h with
  | nil => rfl
  | cons hstep _ ih => rw [mapAll, mapAll, hstep, ih]

/-- Chains can be put together in any way. -/
theorem andThen_assoc (x : Logged ε α) (f : α → Logged ε β) (g : β → Logged ε γ) :
    (x.andThen f).andThen g = x.andThen fun a => (f a).andThen g := by
  obtain ⟨outcome, events⟩ := x
  cases outcome with
  | error e => rfl
  | ok a =>
      unfold andThen
      dsimp only
      cases (f a).outcome with
      | error e => rfl
      | ok b => simp only [List.append_assoc]

/-- A value without any event only goes on. -/
theorem ok_andThen (a : α) (f : α → Logged ε β) : (ok a).andThen f = f a := rfl

/-- A run over two lists is a run over the first one and then over the second one. -/
theorem mapAll_append (f : α → Logged ε β) (l l' : List α) :
    mapAll f (l ++ l') = (mapAll f l).andThen fun bs => (mapAll f l').map (bs ++ ·) := by
  induction l with
  | nil =>
      have hmap : (mapAll f l').map ([] ++ ·) = mapAll f l' := by
        obtain ⟨outcome, events⟩ := mapAll f l'
        cases outcome <;> rfl
      rw [List.nil_append, mapAll, ok_andThen, hmap]
  | cons a l ih =>
      rw [List.cons_append, mapAll, mapAll, ih, andThen_assoc]
      congr 1
      funext b
      rw [andThen_assoc, andThen_assoc]
      congr 1
      funext bs
      rw [ok_andThen, ← map_eq_andThen, map_map]
      rfl

/-- The values of a run, put together in one list. -/
def collectAll (f : α → Logged ε (List β)) (l : List α) : Logged ε (List β) :=
  (mapAll f l).map List.flatten

theorem collectAll_cons (f : α → Logged ε (List β)) (a : α) (l : List α) :
    collectAll f (a :: l) = (f a).andThen fun bs => (collectAll f l).map (bs ++ ·) := by
  rw [collectAll, mapAll, map_andThen]
  congr 1
  funext bs
  rw [map_andThen, collectAll, map_map, map_eq_andThen]
  rfl

/-! ## Values -/

@[simp] theorem outcome_ok (a : α) : (ok a : Logged ε α).outcome = .ok a := rfl

@[simp] theorem outcome_fail (e : ε) : (fail e : Logged ε α).outcome = .error e := rfl

@[simp] theorem outcome_report (e : Event) : (report e : Logged ε Unit).outcome = .ok () := rfl

@[simp] theorem outcome_reportAll (es : List Event) :
    (reportAll es : Logged ε Unit).outcome = .ok () := rfl

@[simp] theorem outcome_ofExcept (r : Except ε α) : (ofExcept r).outcome = r := rfl

@[simp] theorem outcome_map (f : α → β) (x : Logged ε α) :
    (x.map f).outcome = x.outcome.map f := rfl

/-- After a value the chain goes on with the next computation. -/
theorem outcome_andThen_of_ok {x : Logged ε α} {a : α} (h : x.outcome = .ok a)
    (f : α → Logged ε β) : (x.andThen f).outcome = (f a).outcome := by
  rw [andThen, h]

/-- After a fault the chain ends with it. -/
theorem outcome_andThen_of_error {x : Logged ε α} {e : ε} (h : x.outcome = .error e)
    (f : α → Logged ε β) : (x.andThen f).outcome = .error e := by
  rw [andThen, h]

/-- A chain has a value when both of its parts have one. -/
theorem outcome_andThen_eq_ok_iff {x : Logged ε α} {f : α → Logged ε β} {b : β} :
    (x.andThen f).outcome = .ok b ↔ ∃ a, x.outcome = .ok a ∧ (f a).outcome = .ok b := by
  cases h : x.outcome with
  | ok a => simp [outcome_andThen_of_ok h]
  | error e => simp [outcome_andThen_of_error h]

theorem outcome_map_eq_ok_iff {x : Logged ε α} {f : α → β} {b : β} :
    (x.map f).outcome = .ok b ↔ ∃ a, x.outcome = .ok a ∧ f a = b := by
  rw [outcome_map]
  cases x.outcome <;> simp [Except.map]

/-- Two computations that only differ in what is taken from their values end with the same fault, or
with values that only differ so. -/
theorem outcomes_of_map_eq {f : α → γ} {g : β → γ} {x : Logged ε α} {y : Logged ε β}
    (h : x.map f = y.map g) :
    (∃ e, x.outcome = .error e ∧ y.outcome = .error e) ∨
      ∃ a b, x.outcome = .ok a ∧ y.outcome = .ok b ∧ f a = g b := by
  have houtcome := congrArg outcome h
  rw [outcome_map, outcome_map] at houtcome
  cases hx : x.outcome with
  | error e =>
      cases hy : y.outcome with
      | error e' =>
          rw [hx, hy] at houtcome
          cases houtcome
          exact Or.inl ⟨e, rfl, rfl⟩
      | ok b => rw [hx, hy] at houtcome; cases houtcome
  | ok a =>
      cases hy : y.outcome with
      | error e' => rw [hx, hy] at houtcome; cases houtcome
      | ok b =>
          rw [hx, hy] at houtcome
          exact Or.inr ⟨a, b, rfl, rfl, Except.ok.inj houtcome⟩

/-- A run over a list has the values of its steps, in order. -/
theorem outcome_mapAll_eq_ok_iff {f : α → Logged ε β} {l : List α} {bs : List β} :
    (mapAll f l).outcome = .ok bs ↔ List.Forall₂ (fun a b => (f a).outcome = .ok b) l bs := by
  induction l generalizing bs with
  | nil =>
      rw [mapAll, outcome_ok, Except.ok.injEq, List.forall₂_nil_left_iff]
      exact eq_comm
  | cons a l ih =>
      rw [mapAll, outcome_andThen_eq_ok_iff, List.forall₂_cons_left_iff]
      simp only [outcome_andThen_eq_ok_iff, ih, outcome_ok, Except.ok.injEq]
      constructor
      · rintro ⟨b, hb, bs', hbs', rfl⟩
        exact ⟨b, bs', hb, hbs', rfl⟩
      · rintro ⟨b, bs', hb, hbs', rfl⟩
        exact ⟨b, hb, bs', hbs', rfl⟩

/-- Every value of a run is the value of one of its steps. -/
theorem exists_of_mem_mapAll {f : α → Logged ε β} {l : List α} {bs : List β}
    (h : (mapAll f l).outcome = .ok bs) {b : β} (hb : b ∈ bs) :
    ∃ a ∈ l, (f a).outcome = .ok b :=
  exists_of_mem_right (outcome_mapAll_eq_ok_iff.1 h) hb

/-- Every step of a run that has a value has its value among those of the run. -/
theorem exists_mem_of_mapAll {f : α → Logged ε β} {l : List α} {bs : List β}
    (h : (mapAll f l).outcome = .ok bs) {a : α} (ha : a ∈ l) :
    ∃ b ∈ bs, (f a).outcome = .ok b :=
  exists_of_mem_left (outcome_mapAll_eq_ok_iff.1 h) ha

/-- The values of a run, by the places of its steps. -/
theorem exists_ofFn_of_mapAll {f : α → Logged ε β} {l : List α} {bs : List β}
    (h : (mapAll f l).outcome = .ok bs) :
    ∃ g : Fin l.length → β, List.ofFn g = bs ∧ ∀ i, (f (l.get i)).outcome = .ok (g i) := by
  obtain ⟨hlength, hsteps⟩ := List.forall₂_iff_get.1 (outcome_mapAll_eq_ok_iff.1 h)
  refine ⟨fun i => bs.get (i.cast hlength), ?_, fun i => hsteps i i.isLt _⟩
  apply List.ext_getElem
  · rw [List.length_ofFn, hlength]
  · intro i _ _
    rw [List.getElem_ofFn]
    rfl

/-! ## Faults -/

@[simp] theorem not_fails_ok (a : α) : ¬ (ok a : Logged ε α).Fails := by
  simp [Fails]

@[simp] theorem fails_fail (e : ε) : (fail e : Logged ε α).Fails := ⟨e, rfl⟩

@[simp] theorem fails_map {f : α → β} {x : Logged ε α} : (x.map f).Fails ↔ x.Fails := by
  rw [Fails, Fails, outcome_map]
  cases x.outcome <;> simp [Except.map]

/-- A chain fails when its first part does, or its second part after the value of the first. -/
theorem fails_andThen {x : Logged ε α} {f : α → Logged ε β} :
    (x.andThen f).Fails ↔ x.Fails ∨ ∃ a, x.outcome = .ok a ∧ (f a).Fails := by
  cases h : x.outcome with
  | ok a => simp [Fails, outcome_andThen_of_ok h, h]
  | error e => simp [Fails, outcome_andThen_of_error h, h]

/-- A run over a list fails when one of its steps does. -/
theorem fails_mapAll {f : α → Logged ε β} {l : List α} :
    (mapAll f l).Fails ↔ ∃ a ∈ l, (f a).Fails := by
  induction l with
  | nil => simp [mapAll]
  | cons a l ih =>
      rw [mapAll, fails_andThen]
      simp only [fails_andThen, ih, not_fails_ok, and_false, exists_false, or_false,
        List.exists_mem_cons_iff]
      constructor
      · rintro (h | ⟨_, _, h⟩)
        · exact Or.inl h
        · exact Or.inr h
      · rintro (h | h)
        · exact Or.inl h
        · -- A later step is only reached when the first one has a value.
          by_cases ha : (f a).Fails
          · exact Or.inl ha
          · obtain ⟨b, hb⟩ := not_fails_iff.1 ha
            exact Or.inr ⟨b, hb, h⟩

namespace FaultsIn

variable {p : ε → Prop}

theorem ok (a : α) : (Logged.ok a : Logged ε α).FaultsIn p := by
  intro e h
  cases h

theorem fail {e : ε} (h : p e) : (Logged.fail e : Logged ε α).FaultsIn p := by
  intro e' h'
  cases h'
  exact h

theorem map {f : α → β} {x : Logged ε α} (h : x.FaultsIn p) : (x.map f).FaultsIn p := by
  intro e he
  apply h e
  rw [outcome_map] at he
  cases hx : x.outcome with
  | ok a => rw [hx] at he; cases he
  | error e' => rw [hx] at he; cases he; rfl

theorem andThen {x : Logged ε α} {f : α → Logged ε β} (hx : x.FaultsIn p)
    (hf : ∀ a, x.outcome = .ok a → (f a).FaultsIn p) : (x.andThen f).FaultsIn p := by
  intro e he
  cases h : x.outcome with
  | ok a =>
      rw [outcome_andThen_of_ok h] at he
      exact hf a h e he
  | error e' =>
      rw [outcome_andThen_of_error h] at he
      cases he
      exact hx _ h

theorem mapAll {f : α → Logged ε β} {l : List α} (h : ∀ a ∈ l, (f a).FaultsIn p) :
    (mapAll f l).FaultsIn p := by
  induction l with
  | nil => exact ok []
  | cons a l ih =>
      apply (h a (by simp)).andThen
      intro b _
      apply (ih fun c hc => h c (by simp [hc])).andThen
      intro bs _
      exact ok (b :: bs)

end FaultsIn

/-! ## Two computations -/

/-- Two computations end with the same fault, or with the given values. -/
def EndTogether (x : Logged ε α) (y : Logged ε β) (a : α) (b : β) : Prop :=
  (∃ e, x.outcome = .error e ∧ y.outcome = .error e) ∨ x.outcome = .ok a ∧ y.outcome = .ok b

namespace EndTogether

theorem map {x : Logged ε α} {y : Logged ε β} {a : α} {b : β} {f : α → γ} {g : β → δ}
    (h : EndTogether x y a b) : EndTogether (x.map f) (y.map g) (f a) (g b) := by
  rcases h with ⟨e, hx, hy⟩ | ⟨hx, hy⟩
  · exact Or.inl ⟨e, by rw [outcome_map, hx]; rfl, by rw [outcome_map, hy]; rfl⟩
  · exact Or.inr ⟨by rw [outcome_map, hx]; rfl, by rw [outcome_map, hy]; rfl⟩

/-- The first step that ends with a fault is the same in both runs. -/
theorem mapAll {f : α → Logged ε β} {g : α → Logged ε γ} {b : α → β} {c : α → γ} {l : List α}
    (h : ∀ a ∈ l, EndTogether (f a) (g a) (b a) (c a)) :
    EndTogether (Logged.mapAll f l) (Logged.mapAll g l) (l.map b) (l.map c) := by
  induction l with
  | nil => exact Or.inr ⟨rfl, rfl⟩
  | cons a l ih =>
      rw [List.forall_mem_cons] at h
      unfold Logged.mapAll
      rcases h.1 with ⟨e, hf, hg⟩ | ⟨hf, hg⟩
      · exact Or.inl ⟨e, outcome_andThen_of_error hf _, outcome_andThen_of_error hg _⟩
      · rcases ih h.2 with ⟨e, hfs, hgs⟩ | ⟨hfs, hgs⟩
        · refine Or.inl ⟨e, ?_, ?_⟩
          · rw [outcome_andThen_of_ok hf, outcome_andThen_of_error hfs]
          · rw [outcome_andThen_of_ok hg, outcome_andThen_of_error hgs]
        · refine Or.inr ⟨?_, ?_⟩
          · rw [outcome_andThen_of_ok hf, outcome_andThen_of_ok hfs]
            rfl
          · rw [outcome_andThen_of_ok hg, outcome_andThen_of_ok hgs]
            rfl

end EndTogether

/-! ## Computations that report alike -/

/-- Two computations have the same outcome and report the same events among those that count. -/
structure Alike (counts : Event → Bool) (x y : Logged ε α) : Prop where
  /-- The values or the faults are the same. -/
  outcome : x.outcome = y.outcome
  /-- The events that count are the same. -/
  events : x.events.filter counts = y.events.filter counts

namespace Alike

variable {counts : Event → Bool}

theorem refl (x : Logged ε α) : Alike counts x x := ⟨rfl, rfl⟩

theorem map (f : α → β) {x y : Logged ε α} (h : Alike counts x y) :
    Alike counts (x.map f) (y.map f) :=
  ⟨by rw [outcome_map, outcome_map, h.outcome], h.events⟩

theorem andThen {x y : Logged ε α} {f g : α → Logged ε β} (h : Alike counts x y)
    (hfg : ∀ a, Alike counts (f a) (g a)) : Alike counts (x.andThen f) (y.andThen g) := by
  obtain ⟨outcome, events⟩ := x
  obtain ⟨outcome', events'⟩ := y
  obtain ⟨rfl, hevents⟩ := h
  cases outcome with
  | error e => exact ⟨rfl, hevents⟩
  | ok a =>
      refine ⟨(hfg a).outcome, ?_⟩
      show (events ++ (f a).events).filter counts = (events' ++ (g a).events).filter counts
      rw [List.filter_append, List.filter_append, (hfg a).events]
      exact congrArg (· ++ (g a).events.filter counts) hevents

/-- Two runs are alike if their steps are, one by one. -/
theorem mapAll {f : α → Logged ε γ} {g : β → Logged ε γ} {l : List α} {l' : List β}
    (h : List.Forall₂ (fun a b => Alike counts (f a) (g b)) l l') :
    Alike counts (Logged.mapAll f l) (Logged.mapAll g l') := by
  induction h with
  | nil => exact refl _
  | cons hstep _ ih => exact hstep.andThen fun b => ih.andThen fun bs => refl _

end Alike

end TypedReference.Logged

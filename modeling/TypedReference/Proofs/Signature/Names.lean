/-
# Names of signatures

A signature has the last segment of its call as its name. All segments are made of word characters,
but only the first one has to start like a name: behind a dot a segment may start with a digit, and
behind the last dot nothing may follow. So a signature can be accepted without a name that can be
used, and its call says when.
-/
import TypedReference.Proofs.Signature.Acceptance

namespace TypedReference

open Text

namespace Call

/-- Behind the last dot of the name stands no name: nothing, or what no name starts with. -/
def Misnamed (call : Call) : Prop :=
  ∃ front last, call.name = front ++ '.' :: last ∧ '.' ∉ last ∧
    ∀ c ∈ last.head?, startsName c = false

/-- The name ends in a dot. -/
def EndsInDot (call : Call) : Prop := call.name.getLast? = some '.'

instance : DecidablePred EndsInDot := fun call =>
  inferInstanceAs (Decidable (call.name.getLast? = some '.'))

variable {call : Call} {l : List Char}

/-- What stands behind the last dot decides. -/
theorem misnamed_iff : call.Misnamed ↔
    '.' ∈ call.name ∧ ∀ c ∈ (call.name.rtakeWhile (· != '.')).head?, startsName c = false := by
  constructor
  · rintro ⟨front, last, hname, hlast, hbad⟩
    rw [hname, rtakeWhile_behind hlast]
    exact ⟨by simp, hbad⟩
  · rintro ⟨hdot, hbad⟩
    obtain ⟨front, last, hname, hlast⟩ := exists_last_of_mem hdot
    rw [hname, rtakeWhile_behind hlast] at hbad
    exact ⟨front, last, hname, hlast, hbad⟩

/-- The name of a call starts like a name. -/
theorem Opens.head_name (h : call.Opens l) : ∃ c ∈ call.name.head?, startsName c = true := by
  obtain ⟨c, hc, hstarts⟩ := h.starts
  refine ⟨c, ?_, hstarts⟩
  have hword : isWordOrDot c = true := by simp [isWordOrDot, isWord_of_startsName hstarts]
  cases l with
  | nil => cases hc
  | cons d r =>
      cases hc
      rw [h.name, List.takeWhile_cons_of_pos hword, List.head?_cons]
      rfl

/-- The last segment of a call holds word characters only. -/
theorem Opens.isWord_last (h : call.Opens l) :
    ∀ c ∈ call.name.rtakeWhile (· != '.'), isWord c = true := by
  intro c hc
  have hname : c ∈ call.name := (List.rtakeWhile_suffix _ _).mem hc
  rw [h.name] at hname
  have hdot : (c != '.') = true := List.mem_rtakeWhile_imp (p := (· != '.')) hc
  have hword := List.mem_takeWhile_imp hname
  simpa [isWordOrDot, bne_iff_ne.1 hdot] using hword

/-- The last segment of a call is a name unless the call is misnamed. -/
theorem Opens.isName_last_iff (h : call.Opens l) :
    isName (call.name.rtakeWhile (· != '.')) = true ↔ ¬ call.Misnamed := by
  rw [isName_iff_of_words h.isWord_last, misnamed_iff]
  by_cases hdot : '.' ∈ call.name
  · simp [hdot]
  · -- The only segment starts as every call does.
    rw [rtakeWhile_of_not_mem hdot]
    exact iff_of_true h.head_name fun hbad => hdot hbad.1

/-- The last segment of a call is empty when its name ends in a dot. -/
theorem Opens.last_eq_nil_iff (h : call.Opens l) :
    call.name.rtakeWhile (· != '.') = [] ↔ call.EndsInDot := by
  have hne : call.name ≠ [] := by
    obtain ⟨c, hc, -⟩ := h.head_name
    rintro hnil
    rw [hnil] at hc
    cases hc
  rw [List.rtakeWhile_eq_nil_iff, EndsInDot, List.getLast?_eq_some_getLast hne]
  simp [hne]

end Call

/-! ## Signatures without a name -/

/-- The call of a text has a name that ends in a dot. -/
def Nameless (l : List Char) : Prop := ∃ (call : Call) (i : Nat), call.FirstAt l i ∧ call.EndsInDot

theorem nameless_iff {l : List Char} : Nameless l ↔ ∃ call ∈ Call.find? l, call.EndsInDot := by
  constructor
  · rintro ⟨call, i, hcall, hdot⟩
    exact ⟨call, Call.find?_eq_some_iff.2 ⟨i, hcall⟩, hdot⟩
  · rintro ⟨call, hcall, hdot⟩
    obtain ⟨i, hi⟩ := Call.find?_eq_some_iff.1 hcall
    exact ⟨call, i, hi, hdot⟩

instance : DecidablePred Nameless := fun _ => decidable_of_iff _ nameless_iff.symm

section

variable {cfg : Conventions} {classes : ClassPaths} {l : List Char}

/-- A text with a signature has a call, and the name is the last segment of it. -/
theorem exists_call_of_readSignature {sig : Signature}
    (h : (readSignature cfg classes l).outcome = .ok (some sig)) :
    ∃ call, Call.find? l = some call ∧
      sig.name = String.ofList (call.name.rtakeWhile (· != '.')) := by
  cases hcall : Call.find? l with
  | none =>
      rw [outcome_readSignature_of_no_call hcall] at h
      split at h <;> cases h
  | some call =>
      rw [readSignature_of_find? hcall, Logged.outcome_map_eq_ok_iff] at h
      obtain ⟨args, -, hsig⟩ := h
      cases hsig
      exact ⟨call, rfl, rfl⟩

/-- A signature has no name when its text is nameless. -/
theorem Signature.name_eq_empty_iff {sig : Signature}
    (h : (readSignature cfg classes l).outcome = .ok (some sig)) :
    sig.name = "" ↔ Nameless l := by
  obtain ⟨call, hcall, hname⟩ := exists_call_of_readSignature h
  obtain ⟨i, hi⟩ := Call.find?_eq_some_iff.1 hcall
  rw [hname, String.ofList_eq_empty_iff, hi.opens.last_eq_nil_iff, nameless_iff, hcall]
  simp

/-- A text that says that there are no methods has no call. -/
theorem not_nameless_of_none (h : (readSignature cfg classes l).outcome = .ok none) :
    ¬ Nameless l := by
  rw [nameless_iff]
  rintro ⟨call, hcall, -⟩
  rw [readSignature_of_find? hcall, Logged.outcome_map_eq_ok_iff] at h
  obtain ⟨args, -, hnone⟩ := h
  cases hnone

end

end TypedReference

/-
# Which signatures are accepted

A text with a call in it is refused exactly when some text between two commas has more brackets at
one end than at the other; else its name is the end of the dotted name, and each text between
commas gives one argument. A text without a call is refused unless it says that there are no
methods.
-/
import TypedReference.Proofs.Signature
import TypedReference.Proofs.Signature.Call

namespace TypedReference

open Text

/-! ## Arguments that are refused -/

/-- A run that reaches what follows a text goes on with a part of it. -/
theorem exists_takeWhile_append (p : Char → Bool) (l b : List Char) :
    ∃ b', (l ++ b).takeWhile p = l.takeWhile p ++ b' ∧ b'.Sublist b := by
  rw [List.takeWhile_append]
  split
  · next h =>
    rw [(List.takeWhile_prefix p).eq_of_length h]
    exact ⟨_, rfl, List.takeWhile_sublist p⟩
  · exact ⟨[], (List.append_nil _).symm, List.nil_sublist b⟩

/-- Blanks around an argument are not read. -/
theorem bareArgument_trim (token : List Char) : bareArgument (trim token) = bareArgument token := by
  obtain ⟨a, b, htoken, ha, hb⟩ := exists_around_trim token
  have hsign : ∀ c ∈ a.filter (fun c => c != '<' && c != '>'), (c != '=') = true := by
    intro c hc
    rw [bne_iff_ne]
    exact ne_of_isBlank (ha c (List.mem_of_mem_filter hc)) (by decide)
  obtain ⟨b', htake, hb'⟩ := exists_takeWhile_append (· != '=')
    ((trim token).filter fun c => c != '<' && c != '>') (b.filter fun c => c != '<' && c != '>')
  conv_rhs => rw [htoken]
  rw [bareArgument, bareArgument, List.filter_append, List.filter_append, List.append_assoc,
    List.takeWhile_append_of_pos hsign, htake, ← List.append_assoc, trim_around]
  · intro c hc
    exact ha c (List.mem_of_mem_filter hc)
  · intro c hc
    exact hb c (List.mem_of_mem_filter (hb'.mem hc))

/-- A text between commas that has, without its optional mark and its default value, more brackets
at one end than at the other. -/
def Lopsided (piece : List Char) : Prop :=
  openedBrackets (bareArgument piece) ≠ closedBrackets (bareArgument piece)

instance : DecidablePred Lopsided := fun piece =>
  inferInstanceAs
    (Decidable (openedBrackets (bareArgument piece) ≠ closedBrackets (bareArgument piece)))

theorem lopsided_trim {piece : List Char} : Lopsided (trim piece) ↔ Lopsided piece := by
  rw [Lopsided, bareArgument_trim, Lopsided]

theorem not_lopsided_of_blank {piece : List Char} (h : ∀ c ∈ piece, isBlank c = true) :
    ¬ Lopsided piece := by
  rw [← lopsided_trim, trim_eq_nil_iff.2 h]
  exact not_not.2 rfl

/-- Blanks alone, which are no argument, are not lopsided either. -/
theorem Call.exists_lopsided_iff {call : Call} :
    (∃ piece ∈ call.pieces, Lopsided piece) ↔
      ∃ piece ∈ call.inner.splitOn ',', Lopsided piece := by
  rw [pieces]
  split
  · next h =>
    rw [List.all_eq_true] at h
    rw [List.splitOn_eq_singleton (comma_not_mem_of_blank h)]
    simp [not_lopsided_of_blank h]
  · rfl

section

variable {cfg : Conventions} {classes : ClassPaths}

/-- Only the brackets decide whether an argument is refused. -/
theorem fails_readArgument_iff (h : classes.Usable) {position : Int} {token : List Char} :
    (readArgument cfg classes position token).Fails ↔ Lopsided token := by
  have htrim : trim (bareArgument token) = bareArgument token := trim_trim _
  unfold readArgument Lopsided
  rw [peelBrackets_eq htrim]
  by_cases heq : openedBrackets (bareArgument token) = closedBrackets (bareArgument token)
  · simp only [heq, if_true, ne_eq, not_true_eq_false, iff_false]
    rw [Logged.fails_map]
    exact not_fails_resolveName h _
  · simp [heq]

/-! ## Signatures -/

/-- The signature of a text is that of its call. -/
theorem readSignature_of_find? {l : List Char} {call : Call} (h : Call.find? l = some call) :
    readSignature cfg classes l =
      (Logged.mapAll (fun (piece, i) => readArgument cfg classes i (trim piece))
        (call.pieces.zipIdx 1)).map fun args =>
          some ⟨String.ofList (call.name.rtakeWhile (· != '.')), args⟩ := by
  have hsteps : Logged.mapAll (fun (token, i) => readArgument cfg classes i token)
      (call.tokens.zipIdx 1) =
        Logged.mapAll (fun (piece, i) => readArgument cfg classes i (trim piece))
          (call.pieces.zipIdx 1) := by
    rw [call.tokens_eq, List.zipIdx_map]
    apply Logged.mapAll_congr
    rw [List.forall₂_map_left_iff, List.forall₂_same]
    exact fun _ _ => rfl
  rw [readSignature, h]
  simp only [hsteps, call.lastName_eq]

/-- Without a call only the text that says that there are no methods is accepted. -/
theorem outcome_readSignature_of_no_call {l : List Char} (h : Call.find? l = none) :
    (readSignature cfg classes l).outcome =
      if lower (withoutBlanks l) = lower (withoutBlanks cfg.noMethodsText.toList) then .ok none
      else .error (.document (.unparsableSignature (String.ofList l))) := by
  rw [readSignature, h]
  simp only [saysNoMethods, beq_iff_eq]
  split <;> rfl

/-- A text with a call is refused for its arguments only. -/
theorem fails_readSignature_iff (h : classes.Usable) {l : List Char} {call : Call}
    (hcall : Call.find? l = some call) :
    (readSignature cfg classes l).Fails ↔ ∃ piece ∈ call.inner.splitOn ',', Lopsided piece := by
  rw [readSignature_of_find? hcall, Logged.fails_map, Logged.fails_mapAll,
    ← call.exists_lopsided_iff]
  simp only [fails_readArgument_iff h, lopsided_trim]
  constructor
  · rintro ⟨⟨piece, i⟩, hmem, hlopsided⟩
    exact ⟨piece, List.fst_mem_of_mem_zipIdx hmem, hlopsided⟩
  · rintro ⟨piece, hpiece, hlopsided⟩
    obtain ⟨i, hi, rfl⟩ := List.getElem_of_mem hpiece
    refine ⟨(call.pieces[i], 1 + i), ?_, hlopsided⟩
    rw [List.mk_add_mem_zipIdx_iff_getElem?]
    exact List.getElem?_eq_getElem hi

/-- **Acceptance.** Against a registry that can be read, a text with a call is refused exactly for a
lopsided piece of what stands in its parentheses; else it has the end of the dotted name and one
argument for each piece, in order. A text without a call is refused unless it says that there are
no methods. -/
theorem outcome_readSignature (h : classes.Usable) (cfg : Conventions) (l : List Char) :
    (∀ (call : Call) (i : Nat), call.FirstAt l i →
      ((∃ cause, (readSignature cfg classes l).outcome = .error (.document cause)) ↔
        ∃ piece ∈ call.inner.splitOn ',', Lopsided piece) ∧
      ((∀ piece ∈ call.inner.splitOn ',', ¬ Lopsided piece) →
        ∃ args, (readSignature cfg classes l).outcome =
            .ok (some ⟨String.ofList (call.name.rtakeWhile (· != '.')), args⟩) ∧
          List.Forall₂ (fun (piece : List Char × Nat) arg =>
            (readArgument cfg classes piece.2 (trim piece.1)).outcome = .ok arg)
            (call.pieces.zipIdx 1) args)) ∧
    ((∀ (i : Nat) (call : Call), ¬ call.Opens (l.drop i)) →
      (readSignature cfg classes l).outcome =
        if lower (withoutBlanks l) = lower (withoutBlanks cfg.noMethodsText.toList) then .ok none
        else .error (.document (.unparsableSignature (String.ofList l)))) := by
  refine ⟨?_, fun hnone => outcome_readSignature_of_no_call (Call.find?_eq_none_iff.2 hnone)⟩
  intro call i hfirst
  have hcall : Call.find? l = some call := Call.find?_eq_some_iff.2 ⟨i, hfirst⟩
  have hrefused : (readSignature cfg classes l).Fails ↔
      ∃ piece ∈ call.inner.splitOn ',', Lopsided piece := fails_readSignature_iff h hcall
  constructor
  · rw [← hrefused]
    constructor
    · rintro ⟨cause, hcause⟩
      exact ⟨_, hcause⟩
    · rintro ⟨e, he⟩
      obtain ⟨cause, rfl⟩ := faultsIn_readSignature h l e he
      exact ⟨cause, he⟩
  · intro heven
    have hread : ¬ (readSignature cfg classes l).Fails := by
      rw [hrefused]
      rintro ⟨piece, hpiece, hlopsided⟩
      exact heven piece hpiece hlopsided
    rw [readSignature_of_find? hcall] at hread ⊢
    rw [Logged.fails_map] at hread
    obtain ⟨args, hargs⟩ := Logged.not_fails_iff.1 hread
    refine ⟨args, ?_, Logged.outcome_mapAll_eq_ok_iff.1 hargs⟩
    rw [Logged.outcome_map_eq_ok_iff]
    exact ⟨args, hargs, rfl⟩

end

/-- A call in running text, a closing bracket that nothing opens, the sentence for no methods in
another form, and a name alone. -/
theorem outcome_readSignature_findAll :
    ClassPaths.Usable (Registry.ofList [["sublime", "View"]]) ∧
      (∃ i, Call.FirstAt ⟨"x.find_all".toList, "pattern, <[flags]=0>".toList⟩
        "See 2x.find_all (pattern, <[flags]=0>) (old".toList i) ∧
      (∃ args, (readSignature {} (Registry.ofList [["sublime", "View"]])
        "See 2x.find_all (pattern, <[flags]=0>) (old".toList).outcome =
          .ok (some ⟨"find_all", args⟩) ∧ args.length = 2) ∧
      (∃ cause, (readSignature {} (Registry.ofList [["sublime", "View"]])
        "f(a], <[b]>)".toList).outcome = .error (.document cause)) ∧
      (readSignature {} (Registry.ofList [["sublime", "View"]])
        "No\tMethods ".toList).outcome = .ok none ∧
      (readSignature {} (Registry.ofList [["sublime", "View"]])
        "find_all".toList).outcome = .error (.document (.unparsableSignature "find_all")) := by
  have husable : ClassPaths.Usable (Registry.ofList [["sublime", "View"]]) :=
    ⟨rfl, by decide⟩
  have hprose : ∃ i, Call.FirstAt ⟨"x.find_all".toList, "pattern, <[flags]=0>".toList⟩
      "See 2x.find_all (pattern, <[flags]=0>) (old".toList i :=
    Call.find?_eq_some_iff.1 rfl
  have hlopsided : ∃ i, Call.FirstAt ⟨"f".toList, "a], <[b]>".toList⟩ "f(a], <[b]>)".toList i :=
    Call.find?_eq_some_iff.1 rfl
  refine ⟨husable, hprose, ?_, ?_, ?_, ?_⟩
  · obtain ⟨i, hi⟩ := hprose
    obtain ⟨args, hargs, hread⟩ := ((outcome_readSignature husable {} _).1 _ _ hi).2 (by decide)
    exact ⟨args, hargs, hread.length_eq.symm⟩
  · obtain ⟨i, hi⟩ := hlopsided
    exact ((outcome_readSignature husable {} _).1 _ _ hi).1.2 (by decide)
  · rw [(outcome_readSignature husable {} _).2 (Call.find?_eq_none_iff.1 rfl)]
    rfl
  · rw [(outcome_readSignature husable {} _).2 (Call.find?_eq_none_iff.1 rfl)]
    rfl

end TypedReference

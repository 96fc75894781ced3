/-
# Names of arguments

Any text at all can stand between two commas of a signature. It is refused for its brackets alone,
and what is read of any other text has a name that can be declared: the characters that belong to
no word become underscores, the underscores at the ends go, the position helps out when nothing is
left or a digit comes first, and a reserved word is escaped. What one of these steps has settled the
next one keeps.
-/
import TypedReference.Proofs.Datum
import TypedReference.Proofs.Signature.Acceptance
import TypedReference.Proofs.TypeExpr.Brackets

namespace TypedReference

open Text

/-! ## Safe names -/

/-- A name of word characters with neither an underscore at an end nor a digit in front. -/
structure SafeName (name : List Char) : Prop where
  /-- There is a name. -/
  ne_nil : name ≠ []
  /-- It holds word characters only. -/
  words : ∀ c ∈ name, isWord c = true
  /-- It starts with neither an underscore nor a digit. -/
  head : ∀ c ∈ name.head?, c ≠ '_' ∧ isDigit c = false
  /-- It does not end in an underscore. -/
  last : ∀ c ∈ name.getLast?, c ≠ '_'

/-- Writing underscores for what belongs to no word leaves word characters only. -/
theorem isWord_underscored (gap : Bool) (l : List Char) :
    ∀ c ∈ underscored gap l, isWord c = true := by
  have hline : isWord '_' = true := by decide
  fun_induction underscored gap l with
  | case1 => simpa using hline
  | case2 => simp
  | case3 c r hc ih => simpa [hline, hc] using ih
  | case4 gap c r hc hgap ih => simpa [hc] using ih
  | case5 gap c r hc ih => exact ih

/-- Taking underscores off the end is dropping them from the right. -/
theorem trimUnderscores_eq (l : List Char) :
    trimUnderscores l = (l.dropWhile (· == '_')).rdropWhile (· == '_') := rfl

/-- A text is what is left of it, between underscores. -/
theorem exists_around_trimUnderscores (l : List Char) :
    ∃ a b, l = a ++ trimUnderscores l ++ b ∧ (∀ c ∈ a, c = '_') ∧ ∀ c ∈ b, c = '_' := by
  refine ⟨l.takeWhile (· == '_'), (l.dropWhile (· == '_')).rtakeWhile (· == '_'), ?_, ?_, ?_⟩
  · rw [trimUnderscores_eq, List.append_assoc, List.rdropWhile_append_rtakeWhile,
      List.takeWhile_append_dropWhile]
  · exact fun c hc => eq_of_beq (List.mem_takeWhile_imp (p := (· == '_')) hc)
  · exact fun c hc => eq_of_beq (List.mem_rtakeWhile_imp (p := (· == '_')) hc)

theorem mem_of_mem_trimUnderscores {l : List Char} {c : Char} (h : c ∈ trimUnderscores l) :
    c ∈ l := by
  obtain ⟨a, b, hl, -, -⟩ := exists_around_trimUnderscores l
  rw [hl]
  exact List.mem_append_left b (List.mem_append_right a h)

/-- The first character that is left is no underscore. -/
theorem head?_trimUnderscores (l : List Char) : ∀ c ∈ (trimUnderscores l).head?, c ≠ '_' := by
  intro c hc
  obtain ⟨r, hr⟩ := List.head?_eq_some_iff.1 hc
  obtain ⟨b, hb⟩ := List.rdropWhile_prefix (· == '_') (l.dropWhile (· == '_'))
  have hhead := List.head?_dropWhile_not (· == '_') l
  rw [← hb, ← trimUnderscores_eq, hr] at hhead
  simpa using hhead

/-- Neither is the last one. -/
theorem getLast?_trimUnderscores (l : List Char) :
    ∀ c ∈ (trimUnderscores l).getLast?, c ≠ '_' := by
  intro c hc
  have hne : trimUnderscores l ≠ [] := by
    rintro hnil
    rw [hnil] at hc
    cases hc
  rw [List.getLast?_eq_some_getLast hne, Option.mem_def, Option.some.injEq] at hc
  rw [← hc, ne_eq, ← beq_iff_eq]
  exact List.rdropWhile_last_not (· == '_') (l.dropWhile (· == '_')) hne

/-- A digit is a word character and no underscore. -/
theorem word_of_digit {c : Char} (h : c.isDigit = true) : isWord c = true ∧ c ≠ '_' := by
  have halnum : c.isAlphanum = true := by
    show (c.isAlpha || c.isDigit) = true
    rw [h, Bool.or_true]
  have hascii : c.toNat < 0x80 := by
    have := toNat_bounds_of_isAlphanum halnum
    omega
  refine ⟨by simp [isWord, hascii, halnum], ?_⟩
  rintro rfl
  exact absurd h (by decide)

/-- A position makes a safe name. -/
theorem safeName_position {position : Int} (h : 1 ≤ position) :
    SafeName ("arg".toList ++ (toString position).toList) := by
  obtain ⟨k, rfl⟩ := Int.eq_ofNat_of_zero_le (by omega : 0 ≤ position)
  have hdigits : (toString (k : Int)).toList = Nat.toDigits 10 k := Datum.toList_ofNat k
  have hword : ∀ c ∈ Nat.toDigits 10 k, isWord c = true ∧ c ≠ '_' := fun c hc =>
    word_of_digit (Datum.isDigit_toDigits c hc)
  rw [hdigits]
  refine ⟨by simp, ?_, ?_, ?_⟩
  · intro c hc
    rcases List.mem_append.1 hc with hc | hc
    · exact List.all_eq_true.1 (by decide : "arg".toList.all isWord = true) c hc
    · exact (hword c hc).1
  · rintro c ⟨⟩
    decide
  · intro c hc
    rw [List.getLast?_append_of_ne_nil _ Nat.toDigits_ne_nil] at hc
    exact (hword c (List.mem_of_mem_getLast? hc)).2

/-- **Sanitizing.** Whatever the text is, the name made of it is safe. -/
theorem safeName_argumentName {position : Int} (h : 1 ≤ position) (ident : List Char) :
    SafeName (argumentName position ident) := by
  unfold argumentName
  split
  · exact safeName_position h
  · next c r hname =>
    split
    · exact safeName_position h
    · next hdigit =>
      rw [← hname]
      refine ⟨by simp [hname], ?_, ?_, getLast?_trimUnderscores _⟩
      · exact fun d hd => isWord_underscored false ident d (mem_of_mem_trimUnderscores hd)
      · intro d hd
        refine ⟨head?_trimUnderscores _ d hd, ?_⟩
        rw [hname] at hd
        cases hd
        exact Bool.eq_false_iff.2 hdigit

/-! ## What a name is made of -/

/-- The word characters of a text but the underscores. -/
def letters (l : List Char) : List Char := l.filter fun c => isWord c && c != '_'

theorem letters_cons (c : Char) (r : List Char) : letters (c :: r) =
    if isWord c && c != '_' then c :: letters r else letters r :=
  List.filter_cons

theorem letters_append (a b : List Char) : letters (a ++ b) = letters a ++ letters b :=
  List.filter_append ..

theorem letters_eq_nil {l : List Char} (h : ∀ c ∈ l, c = '_') : letters l = [] := by
  rw [letters, List.filter_eq_nil_iff]
  intro c hc
  simp [h c hc]

/-- Only what belongs to no word is replaced. -/
theorem letters_underscored (gap : Bool) (l : List Char) :
    letters (underscored gap l) = letters l := by
  have hline : ∀ r, letters ('_' :: r) = letters r := fun r => by simp [letters_cons]
  fun_induction underscored gap l with
  | case1 => exact hline []
  | case2 => rfl
  | case3 c r hc ih => rw [hline, letters_cons, letters_cons, ih]
  | case4 gap c r hc hgap ih => rw [letters_cons, letters_cons, ih]
  | case5 gap c r hc ih =>
      rw [ih, letters_cons, if_neg]
      simp [hc]

/-- Only underscores are taken off the ends. -/
theorem letters_trimUnderscores (l : List Char) : letters (trimUnderscores l) = letters l := by
  obtain ⟨a, b, hl, ha, hb⟩ := exists_around_trimUnderscores l
  conv_rhs => rw [hl, letters_append, letters_append, letters_eq_nil ha, letters_eq_nil hb]
  rw [List.nil_append, List.append_nil]

/-- The name made of a text has the letters of the text in their order. Where it has none or a digit
is the first of them, the name is made of the position. -/
theorem letters_argumentName (position : Int) (ident : List Char) :
    ((∃ c ∈ (letters ident).head?, isDigit c = false) →
      letters (argumentName position ident) = letters ident) ∧
    ((∀ c ∈ (letters ident).head?, isDigit c = true) →
      argumentName position ident = "arg".toList ++ (toString position).toList) := by
  have hletters : letters (trimUnderscores (underscored false ident)) = letters ident := by
    rw [letters_trimUnderscores, letters_underscored]
  unfold argumentName
  split
  · next hname =>
    rw [hname] at hletters
    rw [← hletters]
    simp [letters]
  · next c r hname =>
    have hword : isWord c = true :=
      isWord_underscored false ident c (mem_of_mem_trimUnderscores (hname ▸ List.mem_cons_self))
    have hline : c ≠ '_' := head?_trimUnderscores (underscored false ident) c (by rw [hname]; rfl)
    have hhead : (letters ident).head? = some c := by
      rw [← hletters, hname, letters_cons, if_pos (by simp [hword, hline]), List.head?_cons]
    rw [hname] at hletters
    split
    · next hdigit => simp [hhead, hdigit]
    · next hdigit => simp [hhead, hdigit, hletters]

/-! ## Escaping -/

/-- The escape does not make one reserved word of another. -/
def Conventions.EscapeFree (cfg : Conventions) : Prop :=
  ∀ word ∈ cfg.reserved, cfg.escape ++ word ∉ cfg.reserved

instance : DecidablePred Conventions.EscapeFree := fun cfg =>
  inferInstanceAs (Decidable (∀ word ∈ cfg.reserved, cfg.escape ++ word ∉ cfg.reserved))

/-- Then no name is reserved once it has been escaped. -/
theorem Conventions.EscapeFree.escaped_not_mem {cfg : Conventions} (h : cfg.EscapeFree)
    (name : String) : cfg.escaped name ∉ cfg.reserved := by
  unfold escaped
  split
  · next hreserved => exact h name (List.contains_iff_mem.1 hreserved)
  · next hfree => exact fun hreserved => hfree (List.contains_iff_mem.2 hreserved)

/-! ## What is read -/

/-- What an argument at a position is that is made of a text which stood in so many brackets. -/
structure Argument.MadeOf (cfg : Conventions) (classes : ClassPaths) (position : Int)
    (depth : Nat) (ident : List Char) (arg : Argument) : Prop where
  /-- The name is there. -/
  name_ne_empty : arg.name ≠ ""
  /-- It can be declared. -/
  not_reserved : arg.name ∉ cfg.reserved
  /-- It is the name made of the text, escaped where that is reserved. -/
  name_eq : arg.name = cfg.escaped (String.ofList (argumentName position ident))
  /-- Before it was escaped the name was safe. -/
  safe : SafeName (argumentName position ident)
  /-- It has the letters of the text. -/
  letters_eq : (∃ c ∈ (letters ident).head?, isDigit c = false) →
    letters (argumentName position ident) = letters ident
  /-- Where there are none or a digit is the first, it is made of the position. -/
  position_eq : (∀ c ∈ (letters ident).head?, isDigit c = true) →
    argumentName position ident = "arg".toList ++ (toString position).toList
  /-- The brackets have been counted. -/
  depth_eq : arg.arrayDepth = depth
  /-- Each pair of them is a layer of arrays around the type of the text, if that is a dotted name,
  or of the name made of it. -/
  type_eq : ∃ t, (resolveName classes
    (if isDottedName ident then ident else argumentName position ident)).outcome = .ok t ∧
      arg.type = t.arrays depth

section

variable {cfg : Conventions} {classes : ClassPaths}

/-- Against a registry that can be read, an argument is refused only for what stands in it. -/
theorem refused_readArgument_iff (h : classes.Usable) {position : Int} {token : List Char} :
    (∃ cause, (readArgument cfg classes position token).outcome = .error (.document cause)) ↔
      Lopsided token := by
  rw [← (faultsIn_readArgument h position token).fails_iff_document]
  exact fails_readArgument_iff h

/-- A text whose brackets can be taken off is read as an argument made of what is left. -/
theorem exists_madeOf (h : classes.Usable) (hfree : cfg.EscapeFree) {position : Int}
    (hposition : 1 ≤ position) {token : List Char} {p : Peeled}
    (hp : peelBrackets (bareArgument token) = .ok p) :
    ∃ arg, (readArgument cfg classes position token).outcome = .ok arg ∧
      arg.MadeOf cfg classes position p.depth p.inner := by
  have hsafe := safeName_argumentName hposition p.inner
  obtain ⟨hletters, hmade⟩ := letters_argumentName position p.inner
  obtain ⟨t, ht, -⟩ := outcome_resolveName h
    (if isDottedName p.inner then p.inner else argumentName position p.inner)
  refine ⟨{ name := cfg.escaped (String.ofList (argumentName position p.inner))
            optional := marksOptional token
            arrayDepth := p.depth
            type := t.arrays p.depth }, ?_, ?_⟩
  · rw [readArgument, hp]
    exact Logged.outcome_map_eq_ok_iff.2 ⟨t, ht, rfl⟩
  · refine ⟨?_, hfree.escaped_not_mem _, rfl, hsafe, hletters, hmade, rfl, t, ht, rfl⟩
    apply cfg.escaped_ne_empty
    rw [ne_eq, String.ofList_eq_empty_iff]
    exact hsafe.ne_nil

/-- **Arguments are safe.** Against a registry that can be read, and with an escape that helps, a
text at a position of a signature is refused exactly when it is lopsided. Any other one stands in
as many pairs of brackets as it starts with, with none left at the ends of what is in them, and an
argument is made of this: its name is there and not reserved, and was safe before it was escaped,
with the letters of the text if that can be; its depth is the number of pairs, and its type has as
many layers of arrays. -/
theorem outcome_readArgument (h : classes.Usable) (hfree : cfg.EscapeFree) {position : Int}
    (hposition : 1 ≤ position) (token : List Char) :
    ((∃ cause, (readArgument cfg classes position token).outcome = .error (.document cause)) ↔
      Lopsided token) ∧
    (¬ Lopsided token → ∃ inner arg,
      bareArgument token = inBrackets (openedBrackets (bareArgument token)) inner ∧
      openedBrackets inner = 0 ∧ closedBrackets inner = 0 ∧
      (readArgument cfg classes position token).outcome = .ok arg ∧
      arg.MadeOf cfg classes position (openedBrackets (bareArgument token)) (trim inner)) := by
  refine ⟨refused_readArgument_iff h, ?_⟩
  intro heven
  obtain ⟨inner, hbare, hopened, hclosed⟩ := exists_inBrackets (not_not.1 heven)
  have htrim : trim (bareArgument token) = bareArgument token := trim_trim _
  rw [hbare] at htrim
  have hp := peelBrackets_innermost htrim hopened hclosed
  rw [← hbare] at hp
  obtain ⟨arg, hok, hmade⟩ := exists_madeOf h hfree hposition hp
  exact ⟨inner, arg, hbare, hopened, hclosed, hok, hmade⟩

end

/-- A reserved word in brackets, signs of which nothing is left, and brackets that do not fit. -/
theorem outcome_readArgument_signs :
    ClassPaths.Usable (Registry.ofList [["sublime", "View"]]) ∧
      ({} : Conventions).EscapeFree ∧ (1 : Int) ≤ 3 ∧
      (∃ arg, (readArgument {} (Registry.ofList [["sublime", "View"]]) 3
          "<[class]=[]>".toList).outcome = .ok arg ∧
        arg.name = "_class" ∧ arg.arrayDepth = 1) ∧
      (∃ arg, (readArgument {} (Registry.ofList [["sublime", "View"]]) 3
          "...".toList).outcome = .ok arg ∧ arg.name = "arg3" ∧ arg.arrayDepth = 0) ∧
      ∃ cause, (readArgument {} (Registry.ofList [["sublime", "View"]]) 3
        "[[2d]".toList).outcome = .error (.document cause) := by
  have husable : ClassPaths.Usable (Registry.ofList [["sublime", "View"]]) := ⟨rfl, by decide⟩
  have hfree : ({} : Conventions).EscapeFree := by decide +kernel
  have hposition : (1 : Int) ≤ 3 := by decide
  have hread := outcome_readArgument husable hfree hposition
  refine ⟨husable, hfree, hposition, ?_, ?_, (hread "[[2d]".toList).1.2 (by decide)⟩
  · obtain ⟨inner, arg, hbare, -, -, hok, hmade⟩ := (hread "<[class]=[]>".toList).2 (by decide)
    have hinner : inBrackets 1 "class".toList = inBrackets 1 inner := hbare
    obtain rfl : "class".toList = inner := inBrackets_inj.1 hinner
    exact ⟨arg, hok, hmade.name_eq, hmade.depth_eq⟩
  · obtain ⟨inner, arg, hbare, -, -, hok, hmade⟩ := (hread "...".toList).2 (by decide)
    have hinner : inBrackets 0 "...".toList = inBrackets 0 inner := hbare
    obtain rfl : "...".toList = inner := inBrackets_inj.1 hinner
    exact ⟨arg, hok, hmade.name_eq, hmade.depth_eq⟩

end TypedReference

/-
# Data in files

The form of a datum in a file can be read in one way only, whatever the layout: each datum shows by
its first character what it is, a text ends at the first quote that is not escaped, a whole number
at the first character that is no digit, and a list or object at its closing sign.
-/
import TypedReference.Datum
import TypedReference.Proofs.Text.Split

namespace TypedReference.Datum

open Text

/-! ## Texts -/

/-- The characters that do not stand for themselves. -/
def escapedChars : List Char := '"' :: '\\' :: (List.range 0x20).map Char.ofNat

theorem escapedChar_of_not_mem {c : Char} (h : c ∉ escapedChars) : escapedChar c = [c] := by
  have hcontrol : ¬ c.toNat < 0x20 := by
    intro hlt
    apply h
    apply List.mem_cons_of_mem
    apply List.mem_cons_of_mem
    rw [List.mem_map]
    exact ⟨c.toNat, List.mem_range.2 hlt, Char.ofNat_toNat c⟩
  have hne : ∀ d ∈ escapedChars, (c == d) = false := by
    intro d hd
    rw [beq_eq_false_iff_ne]
    rintro rfl
    exact h hd
  simp only [escapedChar, hne '"' (by decide), hne '\\' (by decide), hne '\n' (by decide),
    hne '\r' (by decide), hne '\t' (by decide), hne '\x08' (by decide), hne '\x0c' (by decide),
    hcontrol, if_false, Bool.false_eq_true]

/-- Of the escapes none starts with another one. -/
theorem escapedChars_prefixFree :
    ∀ c ∈ escapedChars, ∀ d ∈ escapedChars, escapedChar c <+: escapedChar d → c = d := by
  have hpairs : (escapedChars.all fun c => escapedChars.all fun d =>
      !(escapedChar c).isPrefixOf (escapedChar d) || c == d) = true := by decide +kernel
  intro c hc d hd hprefix
  have hpair := List.all_eq_true.1 (List.all_eq_true.1 hpairs c hc) d hd
  rw [List.isPrefixOf_iff_prefix.2 hprefix] at hpair
  exact beq_iff_eq.1 hpair

theorem head?_escapedChar : ∀ c ∈ escapedChars, (escapedChar c).head? = some '\\' := by
  have hheads : (escapedChars.all fun c => (escapedChar c).head? == some '\\') = true := by
    decide +kernel
  exact fun c hc => beq_iff_eq.1 (List.all_eq_true.1 hheads c hc)

/-- No character is written with a quote in front. -/
theorem escapedChar_append_ne (c : Char) (s t : List Char) : escapedChar c ++ s ≠ '"' :: t := by
  intro h
  have hhead := congrArg List.head? h
  rw [List.head?_append] at hhead
  by_cases hc : c ∈ escapedChars
  · rw [head?_escapedChar c hc] at hhead
    cases hhead
  · rw [escapedChar_of_not_mem hc] at hhead
    cases hhead
    exact hc (by decide)

/-- A written character can be told from what follows. -/
theorem escapedChar_append_inj {c d : Char} {s t : List Char}
    (h : escapedChar c ++ s = escapedChar d ++ t) : c = d ∧ s = t := by
  have hsame : c = d := by
    by_cases hc : c ∈ escapedChars
    · by_cases hd : d ∈ escapedChars
      · have hs : escapedChar c <+: escapedChar d ++ t := ⟨s, h⟩
        rcases List.prefix_or_prefix_of_prefix hs (List.prefix_append _ t) with hcd | hdc
        · exact escapedChars_prefixFree c hc d hd hcd
        · exact (escapedChars_prefixFree d hd c hc hdc).symm
      · have hhead := congrArg List.head? h
        rw [List.head?_append, head?_escapedChar c hc, escapedChar_of_not_mem hd] at hhead
        cases hhead
        exact absurd (by decide) hd
    · by_cases hd : d ∈ escapedChars
      · have hhead := congrArg List.head? h
        rw [List.head?_append, List.head?_append, head?_escapedChar d hd,
          escapedChar_of_not_mem hc] at hhead
        cases hhead
        exact absurd (by decide) hc
      · rw [escapedChar_of_not_mem hc, escapedChar_of_not_mem hd] at h
        exact (List.cons.inj h).1
  subst hsame
  exact ⟨rfl, List.append_cancel_left h⟩

/-- Written characters end at the first quote. -/
theorem chars_append_inj {l l' s t : List Char}
    (h : l.flatMap escapedChar ++ '"' :: s = l'.flatMap escapedChar ++ '"' :: t) :
    l = l' ∧ s = t := by
  induction l generalizing l' with
  | nil =>
      cases l' with
      | nil => exact ⟨rfl, (List.cons.inj h).2⟩
      | cons c l' =>
          rw [List.flatMap_cons, List.append_assoc] at h
          exact absurd h.symm (escapedChar_append_ne c _ _)
  | cons c l ih =>
      cases l' with
      | nil =>
          rw [List.flatMap_cons, List.append_assoc] at h
          exact absurd h (escapedChar_append_ne c _ _)
      | cons d l' =>
          rw [List.flatMap_cons, List.flatMap_cons, List.append_assoc, List.append_assoc] at h
          obtain ⟨rfl, hrest⟩ := escapedChar_append_inj h
          obtain ⟨rfl, hst⟩ := ih hrest
          exact ⟨rfl, hst⟩

theorem toList_writtenText (s : String) :
    (writtenText s).toList = '"' :: (s.toList.flatMap escapedChar ++ ['"']) := by
  simp [writtenText]

/-- A written text ends at its second quote. -/
theorem writtenText_append_inj {a b : String} {s t : List Char}
    (h : (writtenText a).toList ++ s = (writtenText b).toList ++ t) : a = b ∧ s = t := by
  rw [toList_writtenText, toList_writtenText] at h
  simp only [List.cons_append, List.append_assoc, List.cons.injEq, true_and, List.nil_append] at h
  obtain ⟨hlists, hrest⟩ := chars_append_inj h
  exact ⟨String.toList_injective hlists, hrest⟩

/-! ## Whole numbers -/

/-- No digit stands at the start of a text. -/
def Stops (s : List Char) : Prop := ∀ c ∈ s.head?, c.isDigit = false

/-- Digits are told from what follows if no digit does. -/
theorem digits_append_inj {a b s t : List Char} (ha : ∀ c ∈ a, c.isDigit = true)
    (hb : ∀ c ∈ b, c.isDigit = true) (hs : Stops s) (ht : Stops t) (h : a ++ s = b ++ t) :
    a = b ∧ s = t := by
  have hend : ∀ {x r : List Char}, (∀ c ∈ x, c.isDigit = true) → Stops r →
      (x ++ r).takeWhile Char.isDigit = x := by
    intro x r hx hr
    rw [List.takeWhile_append_of_pos hx]
    cases r with
    | nil => simp
    | cons c r =>
        have hc : c.isDigit = false := hr c rfl
        rw [List.takeWhile_cons, hc]
        simp
  have hab : a = b := by
    rw [← hend ha hs, h, hend hb ht]
  subst hab
  exact ⟨rfl, List.append_cancel_left h⟩

theorem isDigit_toDigits {k : Nat} : ∀ c ∈ Nat.toDigits 10 k, c.isDigit = true :=
  fun _ hc => Nat.isDigit_of_mem_toDigits (by decide) (by decide) hc

theorem toList_ofNat (k : Nat) : (toString (Int.ofNat k)).toList = Nat.toDigits 10 k :=
  Nat.toList_repr

theorem toList_negSucc (k : Nat) :
    (toString (Int.negSucc k)).toList = '-' :: Nat.toDigits 10 (k + 1) := by
  show ("-" ++ Nat.repr (k + 1)).toList = _
  rw [String.toList_append, Nat.toList_repr]
  rfl

/-- Digits are those of one number only, and told from what follows if no digit does. -/
theorem toDigits_append_inj {i j : Nat} {s t : List Char} (hs : Stops s) (ht : Stops t)
    (h : Nat.toDigits 10 i ++ s = Nat.toDigits 10 j ++ t) : i = j ∧ s = t := by
  obtain ⟨hij, hst⟩ := digits_append_inj isDigit_toDigits isDigit_toDigits hs ht h
  refine ⟨?_, hst⟩
  rw [← Nat.ofDigitChars_toDigits (n := i) (by decide) (Nat.le_refl 10), hij,
    Nat.ofDigitChars_toDigits (by decide) (Nat.le_refl 10)]

/-- No number without a sign starts with one. -/
theorem toDigits_append_ne {i : Nat} {s t : List Char} : Nat.toDigits 10 i ++ s ≠ '-' :: t := by
  intro h
  cases hi : Nat.toDigits 10 i with
  | nil => exact absurd hi Nat.toDigits_ne_nil
  | cons c r =>
      have hc : c.isDigit = true := isDigit_toDigits c (by rw [hi]; exact List.mem_cons_self)
      rw [hi] at h
      cases (List.cons.inj h).1
      exact absurd hc (by decide)

/-- A written number is told from what follows if no digit does. -/
theorem int_append_inj {m n : Int} {s t : List Char} (hs : Stops s) (ht : Stops t)
    (h : (toString m).toList ++ s = (toString n).toList ++ t) : m = n ∧ s = t := by
  cases m with
  | ofNat i =>
      cases n with
      | ofNat j =>
          rw [toList_ofNat, toList_ofNat] at h
          obtain ⟨hij, hst⟩ := toDigits_append_inj hs ht h
          exact ⟨congrArg Int.ofNat hij, hst⟩
      | negSucc j =>
          rw [toList_ofNat, toList_negSucc] at h
          exact absurd h toDigits_append_ne
  | negSucc i =>
      cases n with
      | ofNat j =>
          rw [toList_ofNat, toList_negSucc] at h
          exact absurd h.symm toDigits_append_ne
      | negSucc j =>
          rw [toList_negSucc, toList_negSucc, List.cons_append, List.cons_append] at h
          obtain ⟨hij, hst⟩ := toDigits_append_inj hs ht (List.cons.inj h).2
          exact ⟨congrArg Int.negSucc (Nat.succ.inj hij), hst⟩

/-! ## Lists and objects -/

section

variable {α : Type} {write : α → List Char}

/-- Two items that are written alike, whatever follows, are the same, and so is what follows. -/
def ReadOff (write : α → List Char) (a b : α) : Prop :=
  ∀ s t : List Char, Stops s → Stops t → write a ++ s = write b ++ t → a = b ∧ s = t

/-- No digit stands behind an item: there is a comma, or the end of all items. -/
theorem stops_items {gap closing : List Char} {c : Char} (hdigit : c.isDigit = false)
    (items : List α) (s : List Char) :
    Stops (items.flatMap (fun a => ',' :: gap ++ write a) ++ c :: closing ++ s) := by
  intro d hd
  cases items with
  | nil =>
      cases hd
      exact hdigit
  | cons a items =>
      cases hd
      decide

/-- Items behind commas end where the closing signs stand. -/
theorem items_append_inj {gap closing : List Char} {c : Char} (hcomma : c ≠ ',')
    (hdigit : c.isDigit = false) {as bs : List α}
    (hread : ∀ a ∈ as, ∀ b ∈ bs, ReadOff write a b) {s t : List Char}
    (h : as.flatMap (fun a => ',' :: gap ++ write a) ++ c :: closing ++ s =
      bs.flatMap (fun b => ',' :: gap ++ write b) ++ c :: closing ++ t) : as = bs ∧ s = t := by
  induction as generalizing bs with
  | nil =>
      cases bs with
      | nil => exact ⟨rfl, List.append_cancel_left h⟩
      | cons b bs => exact absurd (List.cons.inj h).1 hcomma
  | cons a as ih =>
      cases bs with
      | nil => exact absurd (List.cons.inj h).1.symm hcomma
      | cons b bs =>
          have hitem : write a ++
                (as.flatMap (fun x => ',' :: gap ++ write x) ++ c :: closing ++ s) =
              write b ++ (bs.flatMap (fun x => ',' :: gap ++ write x) ++ c :: closing ++ t) := by
            simpa [List.flatMap_cons] using h
          obtain ⟨rfl, hothers⟩ := hread a List.mem_cons_self b List.mem_cons_self _ _
            (stops_items hdigit as s) (stops_items hdigit bs t) hitem
          obtain ⟨rfl, hst⟩ := ih (fun a' ha' b' hb' =>
            hread a' (List.mem_cons_of_mem _ ha') b' (List.mem_cons_of_mem _ hb')) hothers
          exact ⟨rfl, hst⟩

end

namespace Layout

/-- Between two items there is a comma, whatever comes behind it. -/
theorem exists_between (l : Layout) (level : Nat) :
    ∃ gap, (l.between level).toList = ',' :: gap := by
  unfold between
  split
  · exact ⟨_, rfl⟩
  · rw [String.toList_append]
    exact ⟨_, rfl⟩

/-- Before the first item there is nothing, or a new line. -/
theorem start_cases (l : Layout) (level : Nat) :
    (l.start level).toList = [] ∨ ∃ r, (l.start level).toList = '\n' :: r := by
  unfold start
  split
  · exact Or.inl rfl
  · rw [String.toList_append]
    exact Or.inr ⟨_, rfl⟩

/-- What stands behind the last item is told from a comma and from a digit, if the closing sign
is. -/
theorem exists_end (l : Layout) (level : Nat) {c : Char} (hcomma : c ≠ ',')
    (hdigit : c.isDigit = false) :
    ∃ e rest, (l.start level).toList ++ [c] = e :: rest ∧ e ≠ ',' ∧ e.isDigit = false := by
  rcases l.start_cases level with hnone | ⟨r, hline⟩
  · rw [hnone]
    exact ⟨c, [], rfl, hcomma, hdigit⟩
  · rw [hline]
    exact ⟨'\n', r ++ [c], rfl, by decide, by decide⟩

/-- Items in enclosing signs, the first one apart from the others. -/
theorem toList_enclose {α : Type} (write : α → String) (l : Layout) (level : Nat)
    (opening closing : String) {gap : List Char}
    (hgap : (l.between (level + 1)).toList = ',' :: gap) (a : α) (as : List α) :
    (l.enclose level opening closing ((a :: as).map write)).toList =
      opening.toList ++ ((l.start (level + 1)).toList ++ ((write a).toList ++
        (as.flatMap (fun b => ',' :: gap ++ (write b).toList) ++
          ((l.start level).toList ++ closing.toList)))) := by
  have hjoin : ((l.between (level + 1)).intercalate ((a :: as).map write)).toList =
      (write a).toList ++ as.flatMap fun b => ',' :: gap ++ (write b).toList := by
    rw [String.toList_intercalate, hgap, List.map_cons, List.map_cons, List.map_map]
    show joinWith (',' :: gap) ((write a).toList :: as.map (String.toList ∘ write)) = _
    rw [joinWith_cons, List.flatMap_map]
    rfl
  rw [enclose, List.map_cons, List.isEmpty_cons, if_neg (by decide), ← List.map_cons]
  simp only [String.toList_append, hjoin, List.append_assoc]

/-- Where an item is written no closing sign can be read. -/
theorem start_append_ne (l : Layout) (level : Nat) {c : Char} (hline : c ≠ '\n') {item : List Char}
    (hitem : ∃ d r, item = d :: r ∧ d ≠ c) (s t : List Char) :
    (l.start level).toList ++ (item ++ s) ≠ c :: t := by
  intro h
  obtain ⟨d, r, rfl, hdc⟩ := hitem
  rcases l.start_cases level with hnone | ⟨r', hsome⟩
  · rw [hnone] at h
    exact hdc (List.cons.inj h).1
  · rw [hsome] at h
    exact hline (List.cons.inj h).1.symm

/-- Items in enclosing signs are told from what follows, and so is that there are none. -/
theorem enclose_append_inj {α : Type} {write : α → String} {l : Layout} {level : Nat}
    {opening closing : String} {c : Char} (hclosing : closing.toList = [c]) (hcomma : c ≠ ',')
    (hline : c ≠ '\n') (hdigit : c.isDigit = false) {as bs : List α}
    (hread : ∀ a ∈ as, ∀ b ∈ bs, ReadOff (fun x => (write x).toList) a b)
    (hfirst : ∀ a, a ∈ as ∨ a ∈ bs → ∃ d r, (write a).toList = d :: r ∧ d ≠ c) {s t : List Char}
    (h : (l.enclose level opening closing (as.map write)).toList ++ s =
      (l.enclose level opening closing (bs.map write)).toList ++ t) : as = bs ∧ s = t := by
  obtain ⟨gap, hgap⟩ := l.exists_between (level + 1)
  obtain ⟨e, rest, hend, hecomma, hedigit⟩ := l.exists_end level hcomma hdigit
  have hempty : (l.enclose level opening closing []).toList = opening.toList ++ [c] := by
    rw [enclose, List.isEmpty_nil, if_pos rfl, String.toList_append, hclosing]
  have hitems : ∀ x xs, (l.enclose level opening closing ((x :: xs).map write)).toList = _ :=
    toList_enclose write l level opening closing hgap
  -- The sign behind the opening one says whether there are items.
  have hne : ∀ x, x ∈ as ∨ x ∈ bs → ∀ r u,
      (l.start (level + 1)).toList ++ ((write x).toList ++ r) ≠ c :: u :=
    fun x hx => l.start_append_ne (level + 1) hline (hfirst x hx)
  cases as with
  | nil =>
      cases bs with
      | nil => exact ⟨rfl, List.append_cancel_left h⟩
      | cons b bs =>
          rw [List.map_nil, hempty, hitems] at h
          simp only [List.append_assoc, List.append_cancel_left_eq, List.singleton_append] at h
          exact absurd h.symm (hne b (Or.inr List.mem_cons_self) _ _)
  | cons a as =>
      cases bs with
      | nil =>
          rw [List.map_nil, hempty, hitems] at h
          simp only [List.append_assoc, List.append_cancel_left_eq, List.singleton_append] at h
          exact absurd h (hne a (Or.inl List.mem_cons_self) _ _)
      | cons b bs =>
          rw [hitems, hitems, hclosing, hend] at h
          simp only [List.append_assoc, List.append_cancel_left_eq] at h
          rw [← List.append_assoc (as.flatMap _), ← List.append_assoc (bs.flatMap _)] at h
          obtain ⟨rfl, hothers⟩ := hread a List.mem_cons_self b List.mem_cons_self _ _
            (stops_items hedigit as s) (stops_items hedigit bs t) h
          obtain ⟨rfl, hst⟩ := items_append_inj hecomma hedigit (fun a' ha' b' hb' =>
            hread a' (List.mem_cons_of_mem _ ha') b' (List.mem_cons_of_mem _ hb')) hothers
          exact ⟨rfl, hst⟩

end Layout

/-! ## Data -/

/-- What a datum is, apart from what it holds. -/
inductive Shape where
  /-- No value. -/
  | null
  /-- A truth value. -/
  | bool
  /-- A whole number. -/
  | int
  /-- A text. -/
  | text
  /-- Values in order. -/
  | list
  /-- Values under names. -/
  | object
  deriving DecidableEq

/-- The shape of what is written with a given first character. -/
def Shape.ofHead? (c : Char) : Option Shape :=
  if c = 'n' then some null
  else if c = 't' ∨ c = 'f' then some bool
  else if c = '-' ∨ c.isDigit then some int
  else if c = '"' then some text
  else if c = '[' then some list
  else if c = '\x7b' then some object
  else none

/-- The shape of a datum; numbers that are not whole have none. -/
def shape? : Datum → Option Shape
  | null => some .null
  | bool _ => some .bool
  | int _ => some .int
  | float _ => none
  | text _ => some .text
  | list _ => some .list
  | object _ => some .object

/-- All numbers in a datum are whole. -/
inductive Whole : Datum → Prop
  | null : Whole null
  | bool {b : Bool} : Whole (bool b)
  | int {n : Int} : Whole (int n)
  | text {s : String} : Whole (text s)
  | list {items : List Datum} : (∀ d ∈ items, Whole d) → Whole (list items)
  | object {fields : List (String × Datum)} : (∀ f ∈ fields, Whole f.2) → Whole (object fields)

attribute [simp] Whole.bool Whole.int Whole.text

@[simp] theorem whole_list {items : List Datum} :
    (list items).Whole ↔ ∀ d ∈ items, d.Whole := by
  constructor
  · intro h
    cases h with
    | list hitems => exact hitems
  · exact .list

@[simp] theorem whole_object {fields : List (String × Datum)} :
    (object fields).Whole ↔ ∀ f ∈ fields, f.2.Whole := by
  constructor
  · intro h
    cases h with
    | object hfields => exact hfields
  · exact .object

theorem writtenItems_eq_map (l : Layout) (level : Nat) (items : List Datum) :
    writtenItems l level items = items.map (writtenAt l level) := by
  induction items with
  | nil => rfl
  | cons d ds ih => rw [writtenItems, ih, List.map_cons]

/-- The form of a field in a file. -/
def writtenField (l : Layout) (level : Nat) (f : String × Datum) : String :=
  writtenText f.1 ++ ": " ++ writtenAt l level f.2

theorem writtenFields_eq_map (l : Layout) (level : Nat) (fields : List (String × Datum)) :
    writtenFields l level fields = fields.map (writtenField l level) := by
  induction fields with
  | nil => rfl
  | cons f fs ih => rw [writtenFields, ih, List.map_cons, writtenField]

theorem toList_writtenField (l : Layout) (level : Nat) (f : String × Datum) :
    (writtenField l level f).toList =
      (writtenText f.1).toList ++ (": ".toList ++ (writtenAt l level f.2).toList) := by
  rw [writtenField, String.toList_append, String.toList_append, List.append_assoc]

/-- A field starts with the quote of its name. -/
theorem exists_head_writtenField (l : Layout) (level : Nat) (f : String × Datum) :
    ∃ r, (writtenField l level f).toList = '"' :: r := by
  rw [toList_writtenField, toList_writtenText, List.cons_append]
  exact ⟨_, rfl⟩

/-- If its value is told from what follows, so is a field. -/
theorem readOff_writtenField {l : Layout} {level : Nat} {f f' : String × Datum}
    (h : ReadOff (fun d => (writtenAt l level d).toList) f.2 f'.2) :
    ReadOff (fun x => (writtenField l level x).toList) f f' := by
  intro s t hs ht heq
  dsimp only at heq
  rw [toList_writtenField, toList_writtenField] at heq
  simp only [List.append_assoc] at heq
  obtain ⟨hname, hvalue⟩ := writtenText_append_inj heq
  obtain ⟨hdatum, hst⟩ := h s t hs ht (List.append_cancel_left hvalue)
  exact ⟨Prod.ext hname hdatum, hst⟩

/-- The word for a truth value is told from what follows. -/
theorem bool_append_inj {x y : Bool} {s t : List Char} {l : Layout} {level : Nat}
    (h : (writtenAt l level (.bool x)).toList ++ s = (writtenAt l level (.bool y)).toList ++ t) :
    x = y ∧ s = t := by
  rw [writtenAt, writtenAt] at h
  cases x with
  | true =>
      cases y with
      | true => exact ⟨rfl, List.append_cancel_left h⟩
      | false => exact absurd (List.cons.inj h).1 (by decide)
  | false =>
      cases y with
      | true => exact absurd (List.cons.inj h).1 (by decide)
      | false => exact ⟨rfl, List.append_cancel_left h⟩

theorem exists_enclose (l : Layout) (level : Nat) (opening closing : String)
    {c : Char} (hopening : opening.toList = [c]) (items : List String) :
    ∃ r, (l.enclose level opening closing items).toList = c :: r := by
  unfold Layout.enclose
  split
  · rw [String.toList_append, hopening]
    exact ⟨_, rfl⟩
  · simp only [String.toList_append, hopening, List.append_assoc]
    exact ⟨_, rfl⟩

/-- The first character that is written tells the shape. -/
theorem exists_head_writtenAt (l : Layout) (level : Nat) {d : Datum} (h : d.Whole) :
    ∃ c r, (writtenAt l level d).toList = c :: r ∧ Shape.ofHead? c = d.shape? := by
  cases h with
  | null => exact ⟨'n', "ull".toList, by rw [writtenAt]; rfl, rfl⟩
  | @bool b =>
      cases b with
      | true => exact ⟨'t', "rue".toList, by rw [writtenAt]; rfl, rfl⟩
      | false => exact ⟨'f', "alse".toList, by rw [writtenAt]; rfl, rfl⟩
  | @int n =>
      cases n with
      | negSucc k => exact ⟨'-', (Nat.repr (k + 1)).toList, by
          rw [writtenAt, toList_negSucc, Nat.toList_repr], rfl⟩
      | ofNat k =>
          obtain ⟨c, r, hk⟩ := List.exists_cons_of_ne_nil (Nat.toDigits_ne_nil (n := k) (b := 10))
          have hc : c.isDigit = true := isDigit_toDigits c (by rw [hk]; exact List.mem_cons_self)
          refine ⟨c, r, by rw [writtenAt, toList_ofNat, hk], ?_⟩
          have hne : ∀ d : Char, d.isDigit = false → c ≠ d := by
            rintro d hd rfl
            rw [hc] at hd
            cases hd
          rw [Shape.ofHead?, if_neg (hne 'n' (by decide)), if_neg, if_pos (Or.inr hc), shape?]
          simp [hne 't' (by decide), hne 'f' (by decide)]
  | @text s =>
      exact ⟨'"', _, toList_writtenText s, rfl⟩
  | list _ =>
      obtain ⟨r, hr⟩ := exists_enclose l level "[" "]" rfl _
      exact ⟨'[', r, hr, rfl⟩
  | object _ =>
      obtain ⟨r, hr⟩ := exists_enclose l level "\x7b" "\x7d" rfl _
      exact ⟨'\x7b', r, hr, rfl⟩

/-- Data that are written alike, whatever follows, have the same shape. -/
theorem shape?_eq_of_writtenAt (l : Layout) {a b : Datum} (ha : a.Whole) (hb : b.Whole)
    {level : Nat} {s t : List Char}
    (h : (writtenAt l level a).toList ++ s = (writtenAt l level b).toList ++ t) :
    a.shape? = b.shape? := by
  obtain ⟨c, r, hc, hac⟩ := exists_head_writtenAt l level ha
  obtain ⟨d, r', hd, hbd⟩ := exists_head_writtenAt l level hb
  rw [hc, hd] at h
  rw [← hac, ← hbd, (List.cons.inj h).1]

/-- No datum starts with a closing sign. -/
theorem exists_head_ne (l : Layout) (level : Nat) {d : Datum} (h : d.Whole) {c : Char}
    (hc : Shape.ofHead? c = none) : ∃ e r, (writtenAt l level d).toList = e :: r ∧ e ≠ c := by
  obtain ⟨e, r, he, hshape⟩ := exists_head_writtenAt l level h
  refine ⟨e, r, he, ?_⟩
  rintro rfl
  rw [hc] at hshape
  cases h <;> cases hshape

/-- **Written data are read in one way.** Data with whole numbers only are told from what follows,
if no digit does, at every level of every layout. -/
theorem writtenAt_append_inj (l : Layout) {a b : Datum} (ha : a.Whole) (hb : b.Whole) {level : Nat}
    {s t : List Char} (hs : Stops s) (ht : Stops t)
    (h : (writtenAt l level a).toList ++ s = (writtenAt l level b).toList ++ t) :
    a = b ∧ s = t := by
  induction ha generalizing b level s t with
  | null =>
      have hab := shape?_eq_of_writtenAt l .null hb h
      cases hb with
      | null => exact ⟨rfl, List.append_cancel_left h⟩
      | _ => cases hab
  | @bool x =>
      have hab := shape?_eq_of_writtenAt l .bool hb h
      cases hb with
      | @bool y =>
          obtain ⟨rfl, hst⟩ := bool_append_inj h
          exact ⟨rfl, hst⟩
      | _ => cases hab
  | @int m =>
      have hab := shape?_eq_of_writtenAt l .int hb h
      cases hb with
      | @int n =>
          rw [writtenAt, writtenAt] at h
          obtain ⟨rfl, hst⟩ := int_append_inj hs ht h
          exact ⟨rfl, hst⟩
      | _ => cases hab
  | @text x =>
      have hab := shape?_eq_of_writtenAt l .text hb h
      cases hb with
      | @text y =>
          rw [writtenAt, writtenAt] at h
          obtain ⟨rfl, hst⟩ := writtenText_append_inj h
          exact ⟨rfl, hst⟩
      | _ => cases hab
  | @list items hitems ih =>
      have hab := shape?_eq_of_writtenAt l (.list hitems) hb h
      cases hb with
      | @list items' hitems' =>
          have hread : ∀ d ∈ items, ∀ d' ∈ items',
              ReadOff (fun x => (writtenAt l (level + 1) x).toList) d d' :=
            fun d hd d' hd' s t hs ht h => ih d hd (hitems' d' hd') hs ht h
          have hfirst : ∀ d, d ∈ items ∨ d ∈ items' →
              ∃ e r, (writtenAt l (level + 1) d).toList = e :: r ∧ e ≠ ']' :=
            fun d hd => exists_head_ne l _ (hd.elim (hitems d) (hitems' d)) rfl
          rw [writtenAt, writtenAt, writtenItems_eq_map, writtenItems_eq_map] at h
          obtain ⟨rfl, hst⟩ := Layout.enclose_append_inj rfl (by decide) (by decide) (by decide)
            hread hfirst h
          exact ⟨rfl, hst⟩
      | _ => cases hab
  | @object fields hfields ih =>
      have hab := shape?_eq_of_writtenAt l (.object hfields) hb h
      cases hb with
      | @object fields' hfields' =>
          have hread : ∀ f ∈ fields, ∀ f' ∈ fields',
              ReadOff (fun x => (writtenField l (level + 1) x).toList) f f' :=
            fun f hf f' hf' => readOff_writtenField fun s t hs ht h =>
              ih f hf (hfields' f' hf') hs ht h
          have hfirst : ∀ f, f ∈ fields ∨ f ∈ fields' →
              ∃ e r, (writtenField l (level + 1) f).toList = e :: r ∧ e ≠ '\x7d' := by
            intro f _
            obtain ⟨r, hr⟩ := exists_head_writtenField l (level + 1) f
            exact ⟨'"', r, hr, by decide⟩
          rw [writtenAt, writtenAt, writtenFields_eq_map, writtenFields_eq_map] at h
          obtain ⟨rfl, hst⟩ := Layout.enclose_append_inj rfl (by decide) (by decide) (by decide)
            hread hfirst h
          exact ⟨rfl, hst⟩
      | _ => cases hab

/-- Different data are written differently. -/
theorem written_inj (l : Layout) {a b : Datum} (ha : a.Whole) (hb : b.Whole)
    (h : written l a = written l b) : a = b := by
  have hnil : Stops [] := by
    intro c hc
    cases hc
  exact (writtenAt_append_inj l ha hb hnil hnil (congrArg (fun x => x.toList ++ []) h)).1

end TypedReference.Datum

/-
# Tokens of a page

A page is read into text and tags. Reading never repairs anything: it stops only at a marked section
of an unknown kind and at a number with too many digits, and whatever cannot be read as a tag is
text. Comments, declarations and processing instructions leave no token.
-/
import TypedReference.Markup.Reference
import TypedReference.Text.Blank
import TypedReference.Text.Case
import TypedReference.Text.Quoted

namespace TypedReference.Markup

open Text

/-- A piece of a page. -/
inductive Token where
  /-- Running text. -/
  | text (content : List Char)
  /-- Text of a marked section, in which nothing is a tag or reference. -/
  | marked (content : List Char)
  /-- A tag that opens an element. -/
  | opening (name : String)
  /-- A tag that closes an element. -/
  | closing (name : String)
  /-- A tag that opens an element and closes it at once. -/
  | single (name : String)
  deriving DecidableEq, Repr

/-- Why a page is rejected. -/
inductive MarkupFault where
  /-- A marked section is of an unknown kind. -/
  | unknownSection (word : String)
  /-- A marked section does not say its kind. -/
  | namelessSection (context : String)
  /-- A decimal reference has more digits than a number may have. -/
  | overlongNumber (digits : Nat)
  deriving DecidableEq, Repr

namespace MarkupFault

/-- The text for a page that is rejected for its marked sections. -/
def rejection (reason : String) : String :=
  "The markup you provided was rejected by the parser. Trying a different parser or a different " ++
    "encoding may help.\n\nOriginal exception(s) from parser:\n AssertionError: " ++ reason

/-- The text shown for a fault. -/
def message : MarkupFault → String
  | unknownSection word =>
    rejection ("unknown status keyword " ++ quoted word ++ " in marked section")
  | namelessSection context => rejection ("expected name token at " ++ quoted context)
  | overlongNumber digits =>
    "Exceeds the limit (" ++ toString maxDecimalDigits ++
      " digits) for integer string conversion: value has " ++ toString digits ++
      " digits; use sys.set_int_max_str_digits() to increase the limit"

end MarkupFault

/-! ## Finding the end of a construct -/

/-- An element of the sign that ends a construct. -/
inductive Mark where
  /-- A character. -/
  | char (c : Char)
  /-- A letter, given in lower case, in either case. -/
  | letter (c : Char)
  /-- A letter, given in lower case, or anything that folding case makes the same as it. -/
  | folded (c : Char)
  /-- Any number of blanks. -/
  | blanks

/-- The characters outside of ASCII that folding case makes the same as a letter. -/
def lookalikes (c : Char) : List Char :=
  match c with
  | 's' => ['ſ']
  | 'i' => ['ı', 'İ']
  | 'k' => ['\u212A']
  | _ => []

/-- What follows a sign at the start of a text. -/
def after? : List Mark → List Char → Option (List Char)
  | [], l => some l
  | .blanks :: marks, l => after? marks (l.dropWhile isBlank)
  | .char c :: marks, d :: r => if c == d then after? marks r else none
  | .letter c :: marks, d :: r => if c == d.toLower then after? marks r else none
  | .folded c :: marks, d :: r =>
    if c == d.toLower || (lookalikes c).contains d then after? marks r else none
  | _ :: _, [] => none

theorem length_le_of_after? {marks : List Mark} {l rest : List Char}
    (h : after? marks l = some rest) : rest.length ≤ l.length := by
  induction marks generalizing l with
  | nil => simp [after?] at h; simp [h]
  | cons mark marks ih =>
    cases mark with
    | blanks => exact Nat.le_trans (ih h) (l.dropWhile_sublist isBlank).length_le
    | char c =>
      cases l with
      | nil => simp [after?] at h
      | cons d r =>
        simp only [after?] at h
        split at h
        · exact Nat.le_succ_of_le (ih h)
        · cases h
    | letter c | folded c =>
      cases l with
      | nil => simp [after?] at h
      | cons d r =>
        simp only [after?] at h
        split at h
        · exact Nat.le_succ_of_le (ih h)
        · cases h

/-- The text before the first occurrence of a sign and the text after it. -/
def breakAt? (marks : List Mark) : List Char → Option (List Char × List Char)
  | [] => none
  | c :: r =>
    match after? marks (c :: r) with
    | some rest => some ([], rest)
    | none => (breakAt? marks r).map fun (before, rest) => (c :: before, rest)

theorem length_le_of_breakAt? {marks : List Mark} {l before rest : List Char}
    (h : breakAt? marks l = some (before, rest)) : rest.length ≤ l.length := by
  induction l generalizing before with
  | nil => simp [breakAt?] at h
  | cons c r ih =>
    simp only [breakAt?] at h
    split at h
    · next rest' ha =>
      simp only [Option.some.injEq, Prod.mk.injEq] at h
      obtain ⟨-, rfl⟩ := h
      exact length_le_of_after? ha
    · obtain ⟨⟨before', rest'⟩, hr, heq⟩ := Option.map_eq_some_iff.1 h
      simp only [Prod.mk.injEq] at heq
      obtain ⟨-, rfl⟩ := heq
      exact Nat.le_succ_of_le (ih hr)

/-- The text up to the last occurrence of a sign, with the sign; empty when there is none. -/
def throughLast (marks : List Mark) : List Char → List Char
  | [] => []
  | c :: r =>
    match throughLast marks r with
    | d :: kept => c :: d :: kept
    | [] =>
      match after? marks (c :: r) with
      | some rest => (c :: r).take (r.length + 1 - rest.length)
      | none => []

/-- The sign that ends a tag. -/
def tagEnd : List Mark := [.char '>']

/-- The sign that ends a comment. -/
def commentEnd : List Mark := [.char '-', .char '-', .blanks, .char '>']

/-- The sign that ends a marked section with text. -/
def sectionEnd : List Mark := [.char ']', .blanks, .char ']', .blanks, .char '>']

/-- The sign that ends a conditional section. -/
def conditionEnd : List Mark := [.char ']', .blanks, .char '>']

/-- A tag that closes an element and holds nothing but its name, spelled with the given marks. -/
def bareClosing (spelling : List Mark) : List Mark :=
  [.char '<', .char '/', .blanks] ++ spelling ++ [.blanks, .char '>']

/-- The sign that ends an element whose text is raw. -/
def rawEnd (name : String) : List Mark := bareClosing (name.toList.map .letter)

/-- The sign that ends an element whose text is raw, or one that only folding case makes the
same. -/
def foldedRawEnd (name : String) : List Mark := bareClosing (name.toList.map .folded)

/-! ## Constructs -/

/-- The outcome of reading a construct from the start of a text: at most one token, and what is
left. -/
structure Scanned (l : List Char) where
  /-- The token, unless the construct leaves none. -/
  token? : Option Token
  /-- What is left to read. -/
  rest : List Char
  /-- Nothing is added to what there was. -/
  rest_le : rest.length ≤ l.length

/-- A construct up to a sign, with the token made of what stands before the sign. Without the sign
the construct is unfinished. -/
def upTo? (marks : List Mark) (token? : List Char → Option Token) (l : List Char) :
    Option (Scanned l) :=
  match h : breakAt? marks l with
  | some (before, rest) => some ⟨token? before, rest, length_le_of_breakAt? h⟩
  | none => none

/-! ## Tags that open -/

/-- The lower case form of a name. -/
def tagName (l : List Char) : String := String.ofList (lower l)

/-- The characters that the name in a tag goes on with. -/
def isTagChar (c : Char) : Bool :=
  !(c == '\t' || c == '\n' || c == '\r' || c == '\x0c' || c == ' ' || c == '/' || c == '>' ||
    c == '\x00')

/-- A blank or a slash, which stand between attributes. -/
def isGap (c : Char) : Bool := isBlank c || c == '/'

/-- A single or double quote. -/
def isQuote (c : Char) : Bool := c == '\'' || c == '"'

/-- What follows the gap after an attribute. A slash in front of the end of the tag is not part of
the gap. -/
def skipGap : List Char → List Char
  | [] => []
  | c :: r =>
    if isBlank c then skipGap r
    else if c == '/' && r.head? != some '>' then skipGap r
    else c :: r

/-- The characters of a value without quotes. -/
def isBareChar (c : Char) : Bool := !isBlank c && c != '>'

/-- The value of an attribute and what follows it, when a value is there. A quote that is never
closed begins none: after a blank it begins the next attribute, and after a second equals sign it
belongs to a bare value that begins with that sign. -/
def value? (l : List Char) : Option (List Char × List Char) :=
  let signs := l.dropWhile isBlank
  let count := (signs.takeWhile (· == '=')).length
  let gap := signs.dropWhile (· == '=')
  let start := gap.dropWhile isBlank
  if count = 0 then none
  else
    match start with
    | [] => some ([], [])
    | q :: r =>
      if !isQuote q then some ((q :: r).takeWhile isBareChar, (q :: r).dropWhile isBareChar)
      else
        match r.dropWhile (· != q) with
        | _ :: rest => some (r.takeWhile (· != q), rest)
        | [] =>
          if start.length < gap.length then some ([], start)
          else if 1 < count then
            some ('=' :: start.takeWhile isBareChar, start.dropWhile isBareChar)
          else none

theorem length_skipGap_le (l : List Char) : (skipGap l).length ≤ l.length := by
  induction l with
  | nil => simp [skipGap]
  | cons c r ih =>
    simp only [skipGap]
    split
    · exact Nat.le_succ_of_le ih
    · split
      · exact Nat.le_succ_of_le ih
      · exact Nat.le_refl _

theorem length_le_of_value? {l value rest : List Char} (h : value? l = some (value, rest)) :
    rest.length ≤ l.length := by
  have h₁ := (l.dropWhile_sublist isBlank).length_le
  have h₂ := ((l.dropWhile isBlank).dropWhile_sublist (· == '=')).length_le
  have h₃ := (((l.dropWhile isBlank).dropWhile (· == '=')).dropWhile_sublist isBlank).length_le
  simp only [value?] at h
  generalize ((l.dropWhile isBlank).dropWhile (· == '=')).dropWhile isBlank = start at h h₃
  generalize (l.dropWhile isBlank).dropWhile (· == '=') = gap at h h₂ h₃
  split at h
  · cases h
  · cases start with
    | nil => cases h; simp
    | cons q r =>
      have hb := ((q :: r).dropWhile_sublist isBareChar).length_le
      simp only at h
      split at h
      · cases h; omega
      · have hq := (r.dropWhile_sublist (· != q)).length_le
        split at h
        · next heq =>
          cases h
          simp only [heq, List.length_cons] at hq h₃
          omega
        · split at h
          · cases h; omega
          · split at h
            · cases h; omega
            · cases h

/-- The value of an attribute, empty without one, and what follows the attribute and the gap after
it. Reading begins behind the first character of the name. -/
def readAttribute (l : List Char) : List Char × List Char :=
  let named := l.dropWhile fun d => !isGap d && d != '=' && d != '>'
  let found := (value? named).getD ([], named)
  (found.1, skipGap found.2)

theorem length_readAttribute_le (l : List Char) : (readAttribute l).2.length ≤ l.length := by
  simp only [readAttribute]
  have h₁ := (l.dropWhile_sublist fun d => !isGap d && d != '=' && d != '>').length_le
  generalize l.dropWhile (fun d => !isGap d && d != '=' && d != '>') = named at h₁
  refine Nat.le_trans (length_skipGap_le _) (Nat.le_trans ?_ h₁)
  cases h : value? named with
  | none => exact Nat.le_refl _
  | some found => exact length_le_of_value? h

/-- The character in front of what is left of a text. -/
def charBefore (first : Char) (l rest : List Char) : Char :=
  (l.take (l.length - rest.length)).getLast?.getD first

/-- The values of the attributes at the start of a text, and what follows them, where `before` is
the character in front of the text. An attribute begins after a gap or a quote. -/
def readAttributes (before : Char) : List Char → List (List Char) × List Char
  | [] => ([], [])
  | c :: r =>
    if (isGap before || isQuote before) && !isGap c && c != '>' then
      let first := readAttribute r
      let others := readAttributes (charBefore before (c :: r) first.2) first.2
      (first.1 :: others.1, others.2)
    else ([], c :: r)
termination_by l => l.length
decreasing_by
  have := length_readAttribute_le r
  simp only [List.length_cons]
  omega

theorem length_readAttributes_le (before : Char) (l : List Char) :
    (readAttributes before l).2.length ≤ l.length := by
  fun_induction readAttributes before l with
  | case1 => exact Nat.le_refl _
  | case2 before c r _ first others ih =>
    have : first.2.length ≤ r.length := length_readAttribute_le r
    have : others.2.length ≤ first.2.length := ih
    simp only [List.length_cons]
    omega
  | case3 => exact Nat.le_refl _

/-- Reads a tag that opens an element, from behind the angle bracket. Whatever stands between the
name or an attribute and a character that fits neither is no tag but text. The references in the
values of the attributes are read although nothing is made of them. -/
def openingTag? (l : List Char) : Except MarkupFault (Option (Scanned l)) :=
  let name := l.takeWhile isTagChar
  let named := l.dropWhile isTagChar
  let gap := named.takeWhile isGap
  let body := named.dropWhile isGap
  have hbody : body.length ≤ l.length :=
    ((named.dropWhile_sublist isGap).trans (l.dropWhile_sublist isTagChar)).length_le
  let before := (gap.getLast? <|> name.getLast?).getD '<'
  let found := readAttributes before body
  match h : found.2 with
  | [] => .ok none
  | c :: rest =>
    have hrest : (c :: rest).length ≤ l.length :=
      h ▸ Nat.le_trans (length_readAttributes_le before body) hbody
    if c == '=' || c.isAlpha then .ok none
    else
      match found.1.findSome? overlongReference? with
      | some digits => .error (.overlongNumber digits)
      | none =>
        if c == '>' then
          -- The gap after the name may have taken the slash of a tag without attributes.
          let closed := rest.length + 1 == body.length && gap.getLast? == some '/'
          .ok (some ⟨some (if closed then .single (tagName name) else .opening (tagName name)),
            rest, Nat.le_of_succ_le hrest⟩)
        else if c == '/' then
          .ok (some ⟨some (.single (tagName name)), rest.drop 1,
            Nat.le_trans (List.drop_sublist 1 rest).length_le (Nat.le_of_succ_le hrest)⟩)
        else
          .ok (some ⟨some (.text ('<' :: l.take (l.length - (rest.length + 1)))), c :: rest,
            hrest⟩)

/-! ## Tags that close -/

/-- The characters that the name in a plain closing tag goes on with. -/
def isClosingChar (c : Char) : Bool :=
  c.isAlphanum || c == '-' || c == '.' || c == ':' || c == '_'

/-- The name in a closing tag that holds nothing else but blanks. -/
def plainClosingName? (l : List Char) : Option (List Char) :=
  match l.dropWhile isBlank with
  | [] => none
  | c :: r =>
    if c.isAlpha && ((r.dropWhile isClosingChar).dropWhile isBlank).head? == some '>' then
      some (c :: r.takeWhile isClosingChar)
    else none

/-- The name in a closing tag. What follows it does not matter; without a name the tag is a
comment. -/
def closingName? (l : List Char) : Option (List Char) :=
  match plainClosingName? l with
  | some name => some name
  | none =>
    match l with
    | c :: _ => if c.isAlpha then some (l.takeWhile isTagChar) else none
    | [] => none

/-- Reads a tag that closes an element, from behind the slash. -/
def closingTag? (l : List Char) : Option (Scanned l) :=
  upTo? tagEnd (fun _ => (closingName? l).map fun name => .closing (tagName name)) l

/-! ## Marked sections -/

/-- The kinds of marked sections that end in two brackets. -/
def bracketedKinds : List String := ["temp", "cdata", "ignore", "include", "rcdata"]

/-- The kinds of marked sections that end in one bracket. -/
def conditionKinds : List String := ["if", "else", "endif"]

/-- The characters that the kind of a marked section goes on with. -/
def isKindChar (c : Char) : Bool := c.isAlphanum || c == '-' || c == '_' || c == '.'

/-- The text of a marked section; only character data have one. -/
def markedText? (content : List Char) : Option Token :=
  (after? ("cdata".toList.map Mark.letter ++ [.char '[']) content).map Token.marked

/-- Reads a marked section, from behind its opening bracket. -/
def markedSection? (l : List Char) : Except MarkupFault (Option (Scanned l)) :=
  match l with
  | [] => .ok none
  | c :: r =>
    if !c.isAlpha then
      .error (.namelessSection (String.ofList (("<![".toList ++ l).take 20)))
    else
      let word := c :: r.takeWhile isKindChar
      let blanks := (r.dropWhile isKindChar).takeWhile isBlank
      let kind := String.ofList (word.map Char.toLower)
      if word.length + blanks.length = l.length then .ok none
      else if bracketedKinds.contains kind then .ok (upTo? sectionEnd markedText? _)
      else if conditionKinds.contains kind then .ok (upTo? conditionEnd (fun _ => none) _)
      else .error (.unknownSection (String.ofList (word ++ blanks)))

/-! ## Anything after an angle bracket -/

/-- The same construct seen from further in front. -/
def Scanned.weaken {l l' : List Char} (s : Scanned l) (h : l.length ≤ l'.length) : Scanned l' :=
  ⟨s.token?, s.rest, Nat.le_trans s.rest_le h⟩

/-- Reads the construct behind an angle bracket; `none` when it is unfinished. -/
def construct? (l : List Char) : Except MarkupFault (Option (Scanned l)) :=
  match l with
  | '/' :: r => .ok ((closingTag? r).map fun s => s.weaken (Nat.le_succ _))
  | '!' :: '-' :: '-' :: r =>
    .ok ((upTo? commentEnd (fun _ => none) r).map fun s =>
      s.weaken (Nat.le_add_right r.length 3))
  | '!' :: '[' :: r =>
    (markedSection? r).map fun s => s.map fun s =>
      s.weaken (Nat.le_add_right r.length 2)
  | '!' :: r | '?' :: r =>
    .ok ((upTo? tagEnd (fun _ => none) r).map fun s => s.weaken (Nat.le_succ _))
  | c :: r =>
    if c.isAlpha then openingTag? _
    else .ok (some ⟨some (.text ['<']), c :: r, Nat.le_refl _⟩)
  | [] => .ok (some ⟨some (.text ['<']), [], Nat.le_refl _⟩)

/-- The text of a construct that is unfinished: up to the next closing bracket, or else up to the
next opening one, or else the bracket alone. -/
def unfinished (l : List Char) : Scanned l :=
  match h : breakAt? tagEnd l with
  | some (before, rest) =>
    ⟨some (.text ('<' :: before ++ ['>'])), rest, length_le_of_breakAt? h⟩
  | none =>
    if l.contains '<' then
      ⟨some (.text ('<' :: l.takeWhile (· != '<'))), l.dropWhile (· != '<'),
        (l.dropWhile_sublist _).length_le⟩
    else ⟨some (.text ['<']), l, Nat.le_refl _⟩

/-! ## References -/

/-- What stands behind an ampersand. -/
inductive Reference (l : List Char) where
  /-- A reference or a plain ampersand: its text, and what is left to read. -/
  | found (text rest : List Char) (rest_le : rest.length ≤ l.length)
  /-- A name that the end of the page cuts off: the text of all that is left. -/
  | cutOff (text : List Char)
  /-- A number sign without a number. -/
  | numberless
  /-- A decimal number with too many digits. -/
  | overlong (digits : Nat)

theorem length_afterSemicolon_le (l : List Char) : (afterSemicolon l).length ≤ l.length := by
  unfold afterSemicolon
  split
  · exact Nat.le_succ _
  · exact Nat.le_refl _

theorem length_le_of_endedNumeral? {base : Nat} {p : Char → Bool} {l rest : List Char} {n : Numeral}
    (h : endedNumeral? base p l = some (n, rest)) : rest.length ≤ l.length := by
  have hd := (l.dropWhile_sublist p).length_le
  unfold endedNumeral? at h
  split at h
  · next heq =>
    split at h
    · cases h
    · simp only [Option.some.injEq, Prod.mk.injEq] at h
      rw [← h.2, ← heq]
      exact hd
  · cases h

theorem length_le_of_numeral? {l rest : List Char} {n : Numeral}
    (h : numeral? l = some (n, rest)) : rest.length ≤ l.length := by
  unfold numeral? at h
  split at h
  · exact Nat.le_succ_of_le (length_le_of_endedNumeral? h)
  · exact Nat.le_succ_of_le (length_le_of_endedNumeral? h)
  · exact length_le_of_endedNumeral? h

theorem length_le_of_name? {l name rest : List Char} (h : name? l = some (name, rest)) :
    rest.length ≤ l.length := by
  unfold name? at h
  split at h
  · cases h
  · next c r =>
    split at h
    · cases h
    · have hd := ((c :: r).dropWhile_sublist isNameChar).length_le
      split at h
      · next heq =>
        simp only [Option.some.injEq, Prod.mk.injEq] at h
        rw [← h.2, ← heq]
        exact hd
      · simp only at h
        split at h
        · cases h
        · simp only [Option.some.injEq, Prod.mk.injEq] at h
          rw [← h.2, List.length_drop]
          omega

/-- Reads what stands behind an ampersand. A single letter at the very end of the page loses its
ampersand. -/
def reference (l : List Char) : Reference l :=
  match l with
  | [] => .found ['&'] [] (Nat.le_refl _)
  | '#' :: r =>
    match h : numeral? r with
    | some (n, rest) =>
      if n.isOverlong then .overlong n.digits.length
      else
        .found [numberedChar n.value] (afterSemicolon rest) <|
          Nat.le_succ_of_le
            (Nat.le_trans (length_afterSemicolon_le rest) (length_le_of_numeral? h))
    | none => .numberless
  | c :: r =>
    match h : name? (c :: r) with
    | some (name, rest) =>
      .found (nameText name) (afterSemicolon rest) <|
        Nat.le_trans (length_afterSemicolon_le rest) (length_le_of_name? h)
    | none =>
      if c.isAlpha then .cutOff (if r.isEmpty then [c] else '&' :: c :: r)
      else .found ['&'] (c :: r) (Nat.le_refl _)

/-! ## A whole page -/

/-- The elements whose text is raw: nothing in it is a tag or reference until the element is
closed. -/
def rawElements : List String := ["script", "style"]

/-- The element that a token opens, if its text is raw. -/
def rawName? : Option Token → Option String
  | some (.opening name) => if rawElements.contains name then some name else none
  | _ => none

/-- A character that begins neither a tag nor a reference. -/
def isPlain (c : Char) : Bool := c != '<' && c != '&'

/-- What is kept of raw text that is never closed: it is dropped, but for what stands in front of a
sign that would close it if case were folded, and that sign. -/
def unclosedRaw (name : String) (l : List Char) : List Token :=
  match throughLast (foldedRawEnd name) l with
  | [] => []
  | kept => [.text kept]

/-- The tokens of what is left of a page. `settled` says that something unfinished has been met
before: from then on a number sign without a number makes text of all the rest. -/
def tokensFrom (settled : Bool) (l : List Char) : Except MarkupFault (List Token) :=
  match l with
  | [] => .ok []
  | '<' :: r =>
    match construct? r with
    | .error fault => .error fault
    | .ok none =>
      let s := unfinished r
      (tokensFrom true s.rest).map fun tokens => s.token?.toList ++ tokens
    | .ok (some s) =>
      match rawName? s.token? with
      | none => (tokensFrom settled s.rest).map fun tokens => s.token?.toList ++ tokens
      | some name =>
        match _h : breakAt? (rawEnd name) s.rest with
        | none => .ok (s.token?.toList ++ unclosedRaw name s.rest)
        | some (before, rest) =>
          (tokensFrom settled rest).map fun tokens =>
            s.token?.toList ++ .text before :: .closing name :: tokens
  | '&' :: r =>
    match reference r with
    | .found text rest _ => (tokensFrom settled rest).map fun tokens => .text text :: tokens
    | .cutOff text => .ok [.text text]
    | .overlong digits => .error (.overlongNumber digits)
    | .numberless =>
      if !settled && r.contains ';' then
        (tokensFrom true (r.drop 1)).map fun tokens => .text ['&', '#'] :: tokens
      else .ok [.text ('&' :: r)]
  | c :: r =>
    (tokensFrom settled (r.dropWhile isPlain)).map fun tokens =>
      .text (c :: r.takeWhile isPlain) :: tokens
termination_by l.length
decreasing_by
  · have := (unfinished r).rest_le
    simp only [List.length_cons]
    omega
  · have := s.rest_le
    simp only [List.length_cons]
    omega
  · have := s.rest_le
    have := length_le_of_breakAt? _h
    simp only [List.length_cons]
    omega
  · next hle =>
    simp only [List.length_cons]
    omega
  · simp only [List.length_cons, List.length_drop]
    omega
  · have := (r.dropWhile_sublist isPlain).length_le
    simp only [List.length_cons]
    omega

/-- The tokens of a page. -/
def tokens (page : String) : Except MarkupFault (List Token) := tokensFrom false page.toList

end TypedReference.Markup

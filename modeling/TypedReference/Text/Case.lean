/-
# Letter case

Lower and upper case forms of a text, and the two case rules for names: `singular` is the form in
which class names are compared, and `capitalized` makes the name of a class of that of a module.
-/
import TypedReference.Text.CaseTable
import TypedReference.Text.Word

namespace TypedReference.Text

/-! ## Single characters -/

/-- The image of a code point under the first run that holds it. -/
def mapRuns? (runs : List (Nat × Nat × Nat × Int)) (n : Nat) : Option Nat :=
  (runs.find? fun (first, last, step, _) => first ≤ n && n ≤ last && (n - first) % step == 0).map
    fun (_, _, _, shift) => (n + shift).toNat

/-- An upper case letter; title case letters are none. -/
def isUpper (c : Char) : Bool :=
  if c.toNat < 0x80 then c.isUpper
  else upperRuns.any fun (first, last, step) =>
    first ≤ c.toNat && c.toNat ≤ last && (c.toNat - first) % step == 0

/-- The lower case form of a character by itself. The capital I with a dot becomes an i with a
combining dot; every other form is one character. -/
def lowerChar (c : Char) : List Char :=
  if c.toNat < 0x80 then [c.toLower]
  else if c == 'İ' then ['i', '\u0307']
  else match mapRuns? lowerMapRuns c.toNat with
    | some n => [Char.ofNat n]
    | none => [c]

/-- The upper case form of a character, up to three characters long. -/
def upperChar (c : Char) : List Char :=
  if c.toNat < 0x80 then [c.toUpper]
  else match upperExpansions.lookup c.toNat with
    | some ns => ns.map Char.ofNat
    | none => match mapRuns? upperMapRuns c.toNat with
      | some n => [Char.ofNat n]
      | none => [c]

/-! ## Whole texts -/

/-- Passed over when the letter before or after a sigma is looked for. -/
def isCaseIgnorable (c : Char) : Bool := inRanges caseIgnorableRanges c.toNat

/-- A letter that has a case. -/
def isCased (c : Char) : Bool := inRanges casedRanges c.toNat

/-- The next character that is not passed over is a cased letter. -/
def casedNext (l : List Char) : Bool :=
  match l.dropWhile isCaseIgnorable with
  | [] => false
  | c :: _ => isCased c

/-- Lower case of what is left of a text; `cased` says whether the last character that is not passed
over was a cased letter. A capital sigma at the end of a word becomes the final form. -/
def lowerFrom (cased : Bool) : List Char → List Char
  | [] => []
  | c :: r =>
    if c == 'Σ' then
      (if cased && !casedNext r then 'ς' else 'σ') :: lowerFrom true r
    else
      lowerChar c ++ lowerFrom (if isCaseIgnorable c then cased else isCased c) r

/-- The lower case form of a text. -/
def lower (l : List Char) : List Char := lowerFrom false l

/-! ## Case rules for names -/

/-- Lower case, less one final `s` unless nothing else would remain: `Windows` becomes `window`. -/
def singular (l : List Char) : List Char :=
  let low := lower l
  if low.getLast? = some 's' ∧ 1 < low.length then low.dropLast else low

/-- Raises the first character only: `sublime_plugin` becomes `Sublime_plugin`. -/
def capitalized : List Char → List Char
  | [] => []
  | c :: r => upperChar c ++ r

/-- A name written like a class starts with an upper case letter. -/
def startsUpper : List Char → Bool
  | [] => false
  | c :: _ => isUpper c

end TypedReference.Text

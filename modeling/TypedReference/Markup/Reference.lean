/-
# Character references

What `&lt;`, `&eacute;` or `&#8211;` stand for. Names are looked up whole; numbers in the range of
the C1 controls mean the characters that the Windows code page has there. A decimal number may not
have more than 4300 digits, zeros in front included.
-/
import TypedReference.Markup.ReferenceTable

namespace TypedReference.Markup

/-- The text for a name, if it has one. -/
def namedText? (name : String) : Option String :=
  match upperReferences.lookup name with
  | some s => some s
  | none => lowerReferences.lookup name

/-- Characters for the numbers from 0x80 to 0x9F. Five of the numbers have none. -/
def pageCharacters : List (Nat × Char) := [
  (0x80, '€'), (0x82, '‚'), (0x83, 'ƒ'), (0x84, '„'), (0x85, '…'), (0x86, '†'), (0x87, '‡'),
  (0x88, 'ˆ'), (0x89, '‰'), (0x8A, 'Š'), (0x8B, '‹'), (0x8C, 'Œ'), (0x8E, 'Ž'), (0x91, '‘'),
  (0x92, '’'), (0x93, '“'), (0x94, '”'), (0x95, '•'), (0x96, '–'), (0x97, '—'), (0x98, '˜'),
  (0x99, '™'), (0x9A, 'š'), (0x9B, '›'), (0x9C, 'œ'), (0x9E, 'ž'), (0x9F, 'Ÿ')]

/-- The character for a number; the replacement character for one that is no character. -/
def numberedChar (n : Nat) : Char :=
  match pageCharacters.lookup n with
  | some c => c
  | none => if n ≠ 0 ∧ n.isValidChar then Char.ofNat n else '\uFFFD'

/-- A digit of hexadecimal numbers. -/
def isHexDigit (c : Char) : Bool :=
  c.isDigit || ('a' ≤ c && c ≤ 'f') || ('A' ≤ c && c ≤ 'F')

/-- The value of a digit of hexadecimal numbers. -/
def hexDigitValue (c : Char) : Nat :=
  if c.isDigit then c.toNat - '0'.toNat else c.toLower.toNat - 'a'.toNat + 10

/-- A number as it is written after `&#`. -/
structure Numeral where
  /-- Ten or sixteen. -/
  base : Nat
  /-- The digits, most significant first. -/
  digits : List Char

/-- The most digits that a decimal number may have. -/
def maxDecimalDigits : Nat := 4300

namespace Numeral

/-- The value of a numeral. -/
def value (n : Numeral) : Nat := n.digits.foldl (fun v c => v * n.base + hexDigitValue c) 0

/-- A decimal number with too many digits. -/
def isOverlong (n : Numeral) : Bool := n.base == 10 && maxDecimalDigits < n.digits.length

end Numeral

/-- The number at the start of a text, with what follows its digits. Another character has to
follow, and no hexadecimal digit may, even after a decimal number. -/
def endedNumeral? (base : Nat) (isDigit : Char → Bool) (l : List Char) :
    Option (Numeral × List Char) :=
  match l.takeWhile isDigit, l.dropWhile isDigit with
  | _ :: _, next :: rest =>
    if isHexDigit next then none else some (⟨base, l.takeWhile isDigit⟩, next :: rest)
  | _, _ => none

/-- The number written after `&#`, with what follows its digits. -/
def numeral? : List Char → Option (Numeral × List Char)
  | 'x' :: r | 'X' :: r => endedNumeral? 16 isHexDigit r
  | l => endedNumeral? 10 Char.isDigit l

/-- The number of digits of the first decimal reference in the value of an attribute that has too
many of them. There a reference may end anywhere. -/
def overlongReference? : List Char → Option Nat
  | [] => none
  | '&' :: '#' :: r =>
    let count := (r.takeWhile Char.isDigit).length
    if maxDecimalDigits < count then some count else overlongReference? r
  | _ :: r => overlongReference? r

/-- The characters that the name of a reference goes on with. -/
def isNameChar (c : Char) : Bool := c.isAlphanum || c == '-' || c == '.'

/-- The name written after an ampersand, with what follows it. A name that the end of the page cuts
off counts up to its last mark of punctuation. -/
def name? (l : List Char) : Option (List Char × List Char) :=
  match l with
  | [] => none
  | c :: _ =>
    if !c.isAlpha then none
    else
      match l.dropWhile isNameChar with
      | next :: rest => some (l.takeWhile isNameChar, next :: rest)
      | [] =>
        let kept := (l.reverse.dropWhile Char.isAlphanum).reverse
        if kept.isEmpty then none else some (kept.dropLast, l.drop (kept.length - 1))

/-- What is left after the semicolon that may end a reference. -/
def afterSemicolon : List Char → List Char
  | ';' :: r => r
  | l => l

/-- The text of a named reference. One with an unknown name stands for itself. -/
def nameText (name : List Char) : List Char :=
  match namedText? (String.ofList name) with
  | some s => s.toList
  | none => '&' :: name

end TypedReference.Markup

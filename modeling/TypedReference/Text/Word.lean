/-
# Word characters and names

A name starts with an ASCII letter or an underscore and goes on with word characters; a dotted name
may also hold dots. `wordParts` is how running text falls apart into words.
-/
import TypedReference.Text.WordTable

namespace TypedReference.Text

/-- Some range holds the code point. -/
def inRanges (ranges : List (Nat × Nat)) (n : Nat) : Bool :=
  ranges.any fun r => r.1 ≤ n && n ≤ r.2

/-- Letters, digits, other numeric characters, and the underscore. -/
def isWord (c : Char) : Bool :=
  if c.toNat < 0x80 then c.isAlphanum || c == '_' else inRanges wordRanges c.toNat

/-- Decimal digits of any script, and superscript and circled digits. -/
def isDigit (c : Char) : Bool :=
  if c.toNat < 0x80 then c.isDigit else inRanges digitRanges c.toNat

/-- Decimal digits of any script. -/
def isDecimal (c : Char) : Bool :=
  if c.toNat < 0x80 then c.isDigit
  else decimalZeros.any fun first => first ≤ c.toNat && c.toNat ≤ first + 9

/-! ## Names -/

/-- The characters a name may start with: ASCII letters and the underscore. -/
def startsName (c : Char) : Bool := c.isAlpha || c == '_'

/-- A name starts properly and holds word characters only. -/
def isName : List Char → Bool
  | [] => false
  | c :: r => startsName c && r.all isWord

/-- The characters a dotted name goes on with. -/
def isWordOrDot (c : Char) : Bool := isWord c || c == '.'

/-- A dotted name starts like a name and goes on with word characters and dots, in any order. -/
def isDottedName : List Char → Bool
  | [] => false
  | c :: r => startsName c && r.all isWordOrDot

/-- A constant's name holds capitals, ASCII digits and underscores, and no digit in front. -/
def isConstantName : List Char → Bool
  | [] => false
  | c :: r => (c.isUpper || c == '_') && r.all fun d => d.isUpper || d.isDigit || d == '_'

end TypedReference.Text

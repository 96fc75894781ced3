/-
# The shortest decimal of a binary number

A binary floating point number stands for an interval of reals that round to it. Its shortest
decimal is the one with the fewest digits in that interval, and the nearest to the number among
those.
-/

namespace TypedReference.Text

/-! ## Binary numbers -/

/-- What a floating point value is, apart from its sign. -/
inductive Magnitude where
  /-- A mantissa times a power of two; the flag says that the next value below is only half as far
  away as the next one above. -/
  | finite (mantissa : Nat) (exponent : Int) (lowerIsNear : Bool)
  /-- Beyond all finite values. -/
  | infinite
  /-- Not a number. -/
  | invalid
  deriving DecidableEq, Repr

/-- The sign bit of a value is set. -/
def isNegative (x : Float) : Bool := Nat.pow 2 63 ≤ x.toBits.toNat

/-- The magnitude of a value, from its exponent and fraction bits. -/
def magnitude (x : Float) : Magnitude :=
  let fraction : Nat := x.toBits.toNat % Nat.pow 2 52
  let biased : Nat := x.toBits.toNat / Nat.pow 2 52 % 2048
  if biased = 2047 then if fraction = 0 then .infinite else .invalid
  else if biased = 0 then .finite fraction (-1074) false
  else .finite (Nat.pow 2 52 + fraction) ((biased : Int) - 1075) (fraction = 0 && 1 < biased)

/-- A value without a fractional part. -/
def isIntegral (x : Float) : Bool :=
  match magnitude x with
  | .finite m q _ => m % Nat.pow 2 (-q).toNat == 0
  | _ => false

/-! ## Decimals -/

/-- The number of decimal digits of a natural number. -/
def digitCount (n : Nat) : Nat := (Nat.toDigits 10 n).length

/-- The least power of ten above a positive quotient. -/
def tenPowerAbove (num den : Nat) : Int :=
  if den ≤ num then digitCount (num / den)
  else 1 - (digitCount ((den + num - 1) / num - 1) : Int)

/-- The interval of a positive number in quarters of its last binary place. -/
structure Quarters where
  /-- The lower end. -/
  low : Nat
  /-- The number itself. -/
  value : Nat
  /-- The upper end. -/
  high : Nat
  /-- The ends belong to the interval. -/
  closed : Bool

namespace Quarters

/-- The interval of a mantissa: halfway to its neighbours, with the ends where the mantissa is
even. -/
def ofMantissa (m : Nat) (lowerIsNear : Bool) : Quarters :=
  ⟨4 * m - (if lowerIsNear then 1 else 2), 4 * m, 4 * m + 2, m % 2 == 0⟩

/-- The grid point lies in the interval, with `num / den` grid steps to a quarter. -/
def holds (i : Quarters) (num den c : Nat) : Bool :=
  if i.closed then i.low * num ≤ c * den && c * den ≤ i.high * num
  else i.low * num < c * den && c * den < i.high * num

/-- The grid point in the interval nearest to the number, if there is one; of two equally near the
even one. -/
def nearest? (i : Quarters) (num den : Nat) : Option Nat :=
  let c := i.value * num / den
  match i.holds num den c, i.holds num den (c + 1) with
  | false, false => none
  | true, false => some c
  | false, true => some (c + 1)
  | true, true =>
    let below := i.value * num - c * den
    let above := (c + 1) * den - i.value * num
    some (if below < above || (below == above && c % 2 == 0) then c else c + 1)

end Quarters

/-- The digits of a decimal without zeros at the end, and the position of the point among them. -/
structure Decimal where
  /-- The digits. -/
  digits : List Char
  /-- How many digits stand in front of the point; it may lie outside of them. -/
  point : Int
  deriving DecidableEq, Repr

/-- The shortest decimal of a mantissa times a power of two. Seventeen digits tell any two values
apart, so the search ends. -/
def Decimal.shortest (m : Nat) (q : Int) (lowerIsNear : Bool) : Decimal :=
  let i := Quarters.ofMantissa m lowerIsNear
  let num := Nat.pow 2 (q - 2).toNat
  let den := Nat.pow 2 (2 - q).toNat
  let k := tenPowerAbove (i.value * num) den
  let onGrid? (n : Nat) : Option Decimal :=
    (i.nearest? (num * Nat.pow 10 (n - k).toNat) (den * Nat.pow 10 (k - n).toNat)).map fun c =>
      let digits := Nat.toDigits 10 c
      ⟨(digits.reverse.dropWhile (· == '0')).reverse, digits.length + (k - n)⟩
  if m = 0 then ⟨['0'], 1⟩ else ((List.range' 1 17).findSome? onGrid?).getD ⟨['0'], 1⟩

/-- A decimal with a point and at least one digit on either side, or with an exponent of at least
two digits when its first digit lies more than four places after the point or more than sixteen in
front of it. -/
def Decimal.text (d : Decimal) : List Char :=
  let count : Int := d.digits.length
  if -3 ≤ d.point && d.point ≤ 16 then
    if d.point ≤ 0 then '0' :: '.' :: List.replicate (-d.point).toNat '0' ++ d.digits
    else if count ≤ d.point then
      d.digits ++ List.replicate (d.point - count).toNat '0' ++ ['.', '0']
    else d.digits.take d.point.toNat ++ '.' :: d.digits.drop d.point.toNat
  else
    let power := d.point - 1
    let places := Nat.toDigits 10 power.natAbs
    d.digits.take 1 ++ (if 1 < d.digits.length then '.' :: d.digits.drop 1 else []) ++
      ['e', if power < 0 then '-' else '+'] ++ List.replicate (2 - places.length) '0' ++ places

/-- The text of a floating point value: a sign, and the shortest decimal. -/
def floatText (x : Float) : String :=
  let sign := if isNegative x then "-" else ""
  match magnitude x with
  | .finite m q near => sign ++ String.ofList (Decimal.shortest m q near).text
  | .infinite => sign ++ "inf"
  | .invalid => "nan"

end TypedReference.Text

import SearchTenancy.Json.Double

/-!
# Shortest decimal digits

The decimal text of a double: the fewest digits that read back as the same double,
and of several such texts the one nearest to the value. The reals that round to a
double form an interval around it, which contains its ends exactly when the
significand is even. A grid of decimals of one length meets the interval if and
only if one of the two grid points next to the value lies in it, so only those two
are tried for each length.

Layout: with `e` the exponent of the scientific form, `-5 ≤ e < 16` is written
positionally with at least one decimal, all else scientifically with a signed
exponent.
-/

namespace SearchTenancy.Double

/-- A positive decimal: `digits * 10 ^ exponent`. -/
structure Decimal where
  digits : Nat
  exponent : Int
  deriving DecidableEq

/-- The number of decimal digits of a positive number, and none for zero. -/
def digitCount (n : Nat) : Nat := if n = 0 then 0 else (Nat.repr n).length

/-- The exponent of the largest power of ten not above `num / den`. -/
def floorLog10 (num den : Nat) : Int :=
  if den ≤ num then (digitCount (num / den) : Int) - 1
  else -(digitCount ((den + num - 1) / num - 1) : Int)

/-- The absolute value as a ratio. -/
def ratio (d : Double) : Nat × Nat :=
  if 0 ≤ d.scale then (d.significand <<< d.scale.toNat, 1)
  else (d.significand, 1 <<< (-d.scale).toNat)

/-- The interval of reals that round to the absolute value, in quarters of the unit in the
last place. Below a power of two the doubles lie twice as close. -/
def quarterBounds (d : Double) : Nat × Nat :=
  let below := if d.significand = binade ∧ -1074 < d.scale then 1 else 2
  (4 * d.significand - below, 4 * d.significand + 2)

/-- Whether `num / den` rounds to the absolute value of `d`. -/
def attracts (d : Double) (num den : Nat) : Bool :=
  let (low, high) := d.quarterBounds
  let quarters := d.scale - 2
  let (scaledNum, scaledDen) :=
    if 0 ≤ quarters then (num, den <<< quarters.toNat) else (num <<< (-quarters).toNat, den)
  if d.significand % 2 = 0 then decide (low * scaledDen ≤ scaledNum ∧ scaledNum ≤ high * scaledDen)
  else decide (low * scaledDen < scaledNum ∧ scaledNum < high * scaledDen)

/-- The distance between two ratios, as a numerator over the product of the denominators. -/
def gap (a b : Nat × Nat) : Nat :=
  let left := a.1 * b.2
  let right := b.1 * a.2
  (left - right) + (right - left)

/-- The decimal of `count` digits that reads back as `d` and is nearest to it. -/
def withDigits? (d : Double) (count : Nat) : Option Decimal :=
  let value := d.ratio
  let exponent := floorLog10 value.1 value.2 - (count : Int) + 1
  let point (digits : Nat) : Nat × Nat :=
    if 0 ≤ exponent then (digits * Nat.pow 10 exponent.toNat, 1) else (digits, Nat.pow 10 (-exponent).toNat)
  let lower :=
    if 0 ≤ exponent then value.1 / (value.2 * Nat.pow 10 exponent.toNat)
    else value.1 * Nat.pow 10 (-exponent).toNat / value.2
  let reads (digits : Nat) : Bool := d.attracts (point digits).1 (point digits).2
  let down := gap value (point lower)
  let up := gap value (point (lower + 1))
  let preferLower := down < up ∨ (down = up ∧ lower % 2 = 0)
  match reads lower, reads (lower + 1) with
  | true, true => some ⟨if preferLower then lower else lower + 1, exponent⟩
  | true, false => some ⟨lower, exponent⟩
  | false, true => some ⟨lower + 1, exponent⟩
  | false, false => none

/-- The shortest decimal that reads back as the nonzero `d`; seventeen digits always do. -/
def shortest (d : Double) : Decimal :=
  (((List.range 17).map (· + 1)).findSome? d.withDigits?).getD ⟨d.magnitude, 0⟩

/-- Drops the zeros at the end of a digit string. -/
def dropZeros (digits : List Char) : List Char := (digits.reverse.dropWhile (· = '0')).reverse

/-- `n` zeros. -/
def zeros (n : Nat) : String := String.ofList (List.replicate n '0')

/-- Positional text of the digits `d₁ d₂ …` whose scientific form is `d₁.d₂… * 10 ^ exponent`. -/
def positional (digits : List Char) (exponent : Int) : String :=
  if exponent < 0 then "0." ++ zeros (exponent.natAbs - 1) ++ String.ofList digits
  else
    let whole := exponent.toNat + 1
    if digits.length ≤ whole then String.ofList digits ++ zeros (whole - digits.length) ++ ".0"
    else String.ofList (digits.take whole) ++ "." ++ String.ofList (digits.drop whole)

/-- Scientific text of the digits `d₁ d₂ …` whose scientific form is `d₁.d₂… * 10 ^ exponent`. -/
def scientific (digits : List Char) (exponent : Int) : String :=
  let fraction := digits.drop 1
  let mantissa :=
    String.ofList (digits.take 1) ++ (if fraction.isEmpty then "" else "." ++ String.ofList fraction)
  mantissa ++ "e" ++ (if exponent < 0 then "-" else "+") ++ Nat.repr exponent.natAbs

/-- The text of the absolute value. -/
def magnitudeText (d : Double) : String :=
  if d.magnitude = 0 then "0.0"
  else
    let decimal := d.shortest
    let written := (Nat.repr decimal.digits).toList
    let exponent := decimal.exponent + (written.length : Int) - 1
    let digits := dropZeros written
    if -5 ≤ exponent ∧ exponent < 16 then positional digits exponent else scientific digits exponent

/-- The shortest text that reads back as the double. -/
def text (d : Double) : String := (if d.negative then "-" else "") ++ d.magnitudeText

end SearchTenancy.Double

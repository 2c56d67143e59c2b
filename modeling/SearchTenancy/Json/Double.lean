/-!
# Doubles, exactly

The finite IEEE 754 doubles as a sign and a magnitude. The magnitude counts the
doubles between zero and the value, so magnitudes are ordered as the values are,
and comparing two doubles is comparing two integers (`Double.rank`).

Arithmetic is exact: a result is computed as a ratio of natural numbers and then
rounded once, to the nearest double, a half going to the even neighbour.
-/

namespace SearchTenancy

/-- The number of doubles from a power of two to the next, `2 ^ 52`. -/
abbrev binade : Nat := 4503599627370496

/-- A finite double. -/
structure Double where
  negative : Bool
  /-- The number of doubles from zero (included) to the absolute value (excluded). -/
  magnitude : Nat
  finite : magnitude < 2047 * binade
  deriving DecidableEq

namespace Double

/-- The quotient rounded to the nearest integer, a half to the even one. -/
def roundHalfEven (num den : Nat) : Nat :=
  let quotient := num / den
  let twice := 2 * (num % den)
  if twice < den then quotient
  else if den < twice then quotient + 1
  else quotient + quotient % 2

/-- The exponent of the largest power of two not above `num / den`. -/
def floorLog2 (num den : Nat) : Int :=
  let guess : Int := (Nat.log2 num : Int) - (Nat.log2 den : Int)
  let fits := if 0 ≤ guess then den <<< guess.toNat ≤ num else den ≤ num <<< (-guess).toNat
  if fits then guess else guess - 1

/-- The magnitude of the double nearest to `num / den`; at or above `2047 * binade` when
that ratio is beyond the largest double. -/
def nearestMagnitude (num den : Nat) : Nat :=
  if num = 0 then 0
  else
    let scale := max (-1074) (floorLog2 num den - 52)
    let significand :=
      if 0 ≤ scale then roundHalfEven num (den <<< scale.toNat)
      else roundHalfEven (num <<< (-scale).toNat) den
    (scale + 1074).toNat * binade + significand

/-- The signed double nearest to `num / den * 2 ^ scale`, `none` beyond the largest one. -/
def nearest? (negative : Bool) (num den : Nat) (scale : Int) : Option Double :=
  let magnitude :=
    if 0 ≤ scale then nearestMagnitude (num <<< scale.toNat) den
    else nearestMagnitude num (den <<< (-scale).toNat)
  if finite : magnitude < 2047 * binade then some ⟨negative, magnitude, finite⟩ else none

/-- Zero with a sign. -/
def zero (negative : Bool) : Double := ⟨negative, 0, by decide⟩

instance : Inhabited Double := ⟨zero false⟩

/-- The double nearest to an integer; every integer of 64 bits has one. -/
def ofNat (negative : Bool) (n : Nat) : Double := (nearest? negative n 1 0).getD (zero negative)

/-- The absolute value is `significand * 2 ^ scale`. -/
def significand (d : Double) : Nat :=
  if d.magnitude < binade then d.magnitude else binade + d.magnitude % binade

/-- The absolute value is `significand * 2 ^ scale`. -/
def scale (d : Double) : Int :=
  if d.magnitude < binade then -1074 else ((d.magnitude / binade : Nat) : Int) - 1075

/-- The position in the order of all doubles, zero being at zero. -/
def rank (d : Double) : Int := if d.negative then -(d.magnitude : Int) else d.magnitude

/-- Equality of values: the two zeros are equal. -/
def sameValue (a b : Double) : Bool := a.rank == b.rank

/-- The order of values. -/
def compare (a b : Double) : Ordering := Ord.compare a.rank b.rank

/-- The product with a nonnegative factor, `none` beyond the largest double. -/
def mul? (a b : Double) : Option Double :=
  nearest? a.negative (a.significand * b.significand) 1 (a.scale + b.scale)

/-- The quotient by a positive divisor. -/
def div (a b : Double) : Double :=
  (nearest? a.negative a.significand b.significand (a.scale - b.scale)).getD (zero a.negative)

/-- The double nearest to a power of ten; the exponent is at most 308. -/
def powerOfTen (exponent : Nat) : Double := ofNat false (Nat.pow 10 exponent)

/-- `d * 10 ^ exponent` by one multiplication or division with a power of ten, preceded by
divisions by `10 ^ 308` while the exponent is below -308; `none` beyond the largest double. -/
def scaleByTen? (d : Double) (exponent : Int) : Option Double :=
  if exponent.natAbs ≤ 308 then
    if 0 ≤ exponent then d.mul? (powerOfTen exponent.toNat)
    else some (d.div (powerOfTen exponent.natAbs))
  else if d.magnitude = 0 then some d
  else if 0 ≤ exponent then none
  else scaleByTen? (d.div (powerOfTen 308)) (exponent + 308)
termination_by exponent.natAbs

end Double

end SearchTenancy

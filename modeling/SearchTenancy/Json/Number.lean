import SearchTenancy.Json.Shortest

/-!
# JSON numbers

A number is a nonnegative integer of 64 bits, a negative integer of 64 bits, or a
double. The three kinds never equal each other: `1` and `1.0` differ.

`Literal.number?` gives a written number its kind. A literal without fraction and
exponent that fits 64 bits is an integer. Any other is a double: the significand is
made of the leading digits while they fit 64 bits, and is then scaled by a power of
ten.
-/

namespace SearchTenancy

/-- The number of negative integers of 64 bits, `2 ^ 63`. -/
abbrev negativeCount : Nat := 9223372036854775808

/-- A number of a JSON document. -/
inductive Number where
  | natural (n : UInt64)
  /-- The integer `-(n + 1)`. -/
  | negative (n : Fin negativeCount)
  | double (d : Double)
  deriving DecidableEq

namespace Number

/-- The number `n`, which has to fit 64 bits. -/
def ofNat (n : Nat) : Number := .natural n.toUInt64

/-- The double nearest to the number. -/
def toDouble : Number → Double
  | natural n => Double.ofNat false n.toNat
  | negative n => Double.ofNat true (n.val + 1)
  | double d => d

/-- The number as a nonnegative integer, if that is its kind. -/
def toUInt64? : Number → Option UInt64
  | natural n => some n
  | _ => none

/-- The number as a signed integer of 64 bits. -/
def toInt64? : Number → Option Int
  | natural n => if n.toNat < negativeCount then some n.toNat else none
  | negative n => some (-(n.val + 1 : Int))
  | double _ => none

/-- Whether the number is a double. -/
def isDouble : Number → Bool
  | double _ => true
  | _ => false

/-- Equality of one kind: integers exactly, doubles by value. -/
def sameValue : Number → Number → Bool
  | natural a, natural b => a == b
  | negative a, negative b => a == b
  | double a, double b => a.sameValue b
  | _, _ => false

/-- The text of a number. -/
def text : Number → String
  | natural n => Nat.repr n.toNat
  | negative n => "-" ++ Nat.repr (n.val + 1)
  | double d => d.text

end Number

/-- A written number: its sign, its digits and the sign and digits of its exponent. -/
structure Literal where
  negative : Bool
  whole : List Nat
  fraction : Option (List Nat)
  exponent : Option (Bool × List Nat)

namespace Literal

/-- Appends decimal digits to `n` while the result is below `limit`; also how many were taken. -/
def takeDigits (limit : Nat) : Nat → List Nat → Nat × Nat
  | n, [] => (n, 0)
  | n, digit :: rest =>
    if n * 10 + digit < limit then
      let (result, taken) := takeDigits limit (n * 10 + digit) rest
      (result, taken + 1)
    else (n, 0)

/-- The integer literal with the digits of `n`. -/
def integer (negative : Bool) (n : Nat) : Number :=
  if negative then
    if n = 0 then .double (Double.zero true)
    else if h : n - 1 < negativeCount then .negative ⟨n - 1, h⟩
    else .double (Double.ofNat true n)
  else .ofNat n

/-- The double `significand * 10 ^ exponent`, `none` beyond the largest one. -/
def scaled? (negative : Bool) (significand : Nat) (exponent : Int) : Option Number :=
  ((Double.ofNat negative significand).scaleByTen? exponent).map .double

/-- The least exponent that is too large to be read, `2 ^ 31`. -/
def exponentLimit : Nat := 2147483648

/-- The number that is written, `none` beyond the largest double. An exponent of more than
31 bits makes the number zero, unless it is positive and the significand is not zero. -/
def number? (literal : Literal) : Option Number :=
  let (whole, taken) := takeDigits UInt64.size 0 literal.whole
  let dropped := literal.whole.length - taken
  let (significand, shift) : Nat × Int :=
    match literal.fraction with
    | none => (whole, dropped)
    | some fraction =>
      let (digits, count) := takeDigits UInt64.size whole fraction
      (digits, (dropped : Int) - count)
  match literal.exponent with
  | some (negativeExponent, digits) =>
    let (exponent, read) := takeDigits exponentLimit 0 digits
    if read < digits.length then
      if significand ≠ 0 ∧ !negativeExponent then none
      else some (.double (Double.zero literal.negative))
    else
      scaled? literal.negative significand (if negativeExponent then shift - exponent else shift + exponent)
  | none =>
    if literal.fraction.isNone ∧ dropped = 0 then some (integer literal.negative significand)
    else scaled? literal.negative significand shift

end Literal

end SearchTenancy

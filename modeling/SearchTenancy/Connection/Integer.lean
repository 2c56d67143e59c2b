/-!
# Integers in settings

A decimal integer of 64 bits without sign, in front of which a plus may stand. Of two
faults the one that is met first from the left counts.
-/

namespace SearchTenancy

/-- Why a text is no integer. -/
inductive IntegerFault where
  | empty
  | invalidDigit
  | tooLarge
  deriving DecidableEq

/-- The text of a fault. -/
def IntegerFault.message : IntegerFault → String
  | empty => "cannot parse integer from empty string"
  | invalidDigit => "invalid digit found in string"
  | tooLarge => "number too large to fit in target type"

/-- Appends the digits of a text to `n`. -/
def appendDigits (n : Nat) : List Char → Except IntegerFault Nat
  | [] => .ok n
  | c :: rest =>
    if !c.isDigit then .error .invalidDigit
    else
      let next := n * 10 + (c.toNat - '0'.toNat)
      if next < UInt64.size then appendDigits next rest else .error .tooLarge

/-- The integer that a text gives. -/
def readInteger (text : String) : Except IntegerFault UInt64 :=
  match text.toList with
  | [] => .error .empty
  | ['+'] => .error .invalidDigit
  | '+' :: digits => (appendDigits 0 digits).map Nat.toUInt64
  | digits => (appendDigits 0 digits).map Nat.toUInt64

end SearchTenancy

import SearchTenancy.Sorting

/-!
# Punycode

A text of letters, digits and hyphens that stands for one with other characters. In
front of its last hyphen stand the characters that are kept as they are, all of them
ASCII. Behind it stand numbers; each of them tells how far to go on, in the order of
places and then of characters, to the next character that is put in.

The numbers are written with a base of 36, the lowest digit first. A digit below a
threshold ends a number; the thresholds adapt to the numbers read before.
-/

namespace SearchTenancy.Text.Punycode

/-- The value of a digit: letters, then the ten digits. -/
def digit? (c : Char) : Option Nat :=
  if c.isDigit then some (c.toNat - '0'.toNat + 26)
  else if c.isAlpha then some (c.toLower.toNat - 'a'.toNat)
  else none

/-- The digit of a value below 36. -/
def digit (value : Nat) : Char :=
  Char.ofNat (if value < 26 then 'a'.toNat + value else '0'.toNat + value - 26)

/-- The threshold of the digit at a place, which counts by 36. -/
def threshold (place bias : Nat) : Nat := max 1 (min 26 (place - bias))

/-- Brings a number below the limit of the bias, 36 for each step. -/
def reduce (number : Nat) : Nat :=
  if 455 < number then 36 + reduce (number / 35) else 36 * number / (number + 38)
termination_by number

/-- The bias after a number that put in the `count`-th character. -/
def adapt (number count : Nat) (first : Bool) : Nat :=
  let number := if first then number / 700 else number / 2
  reduce (number + number / count)

/-! ## Decoding -/

/-- A text that is being decoded: what it has so far, the place and the code of the last character
that was put in, and the number that is being read. -/
structure Decoding where
  chars : List Char
  index : Nat
  code : Nat
  bias : Nat
  number : Nat
  weight : Nat
  place : Nat

namespace Decoding

/-- The start behind the characters that are kept. -/
def ofKept (kept : List Char) : Decoding := ⟨kept, 0, 128, 72, 0, 1, 36⟩

/-- Puts in the character that a number leads to, if there is such a character. -/
def put? (decoding : Decoding) (number : Nat) : Option Decoding :=
  let count := decoding.chars.length + 1
  let index := decoding.index + number
  let code := decoding.code + index / count
  if code.isValidChar then
    some ⟨decoding.chars.insertIdx (index % count) (Char.ofNat code), index % count + 1, code,
      adapt number count (decoding.index == 0), 0, 1, 36⟩
  else none

/-- Reads the numbers, all of which fit 32 bits. -/
def run (decoding : Decoding) : List Char → Option (List Char)
  | [] => if decoding.place = 36 then some decoding.chars else none
  | c :: rest => do
    let digit ← digit? c
    let number := decoding.number + digit * decoding.weight
    let threshold := threshold decoding.place decoding.bias
    let weight := decoding.weight * (36 - threshold)
    if UInt32.size ≤ decoding.index + number then none
    else if digit < threshold then (← decoding.put? number).run rest
    else if UInt32.size ≤ weight then none
    else run { decoding with number := number, weight := weight, place := decoding.place + 36 } rest

end Decoding

/-- The text that a code stands for. A hyphen in front of everything divides nothing. -/
def decode? (code : List Char) : Option (List Char) :=
  let numbers := (code.reverse.takeWhile (· ≠ '-')).reverse
  let kept := code.take (code.length - numbers.length - 1)
  if kept.all (·.toNat < 128) then (Decoding.ofKept kept).run (if kept.isEmpty then code else numbers)
  else none

/-! ## Encoding -/

theorem threshold_pos (place bias : Nat) : 0 < threshold place bias := by
  unfold threshold
  omega

/-- Writes a number from the digit at a place on. -/
def writeNumber (bias place number : Nat) : List Char :=
  let least := threshold place bias
  if number < least then [digit number]
  else
    digit (least + (number - least) % (36 - least)) ::
      writeNumber bias (place + 36) ((number - least) / (36 - least))
termination_by number
decreasing_by
  have := threshold_pos place bias
  have := Nat.div_le_self (number - threshold place bias) (36 - threshold place bias)
  omega

/-- A text that is being encoded: what is written of it, the number that leads from the last character
that was written, how many characters there are so far, and the least code that may follow. -/
structure Encoding where
  written : List Char
  number : Nat
  bias : Nat
  count : Nat
  next : Nat

namespace Encoding

/-- Goes past a character, which is written if it has the code in question. -/
def pass (kept code : Nat) (encoding : Encoding) (c : Char) : Encoding :=
  if c.toNat < code then { encoding with number := encoding.number + 1 }
  else if c.toNat = code then
    { encoding with
      written := encoding.written ++ writeNumber encoding.bias 36 encoding.number
      number := 0
      bias := adapt encoding.number (encoding.count + 1) (encoding.count == kept)
      count := encoding.count + 1 }
  else encoding

/-- Writes the characters of a text that have a code. -/
def write (text : List Char) (kept : Nat) (encoding : Encoding) (code : Nat) : Encoding :=
  let number := encoding.number + (code - encoding.next) * (encoding.count + 1)
  let encoding := text.foldl (pass kept code) { encoding with number := number }
  { encoding with number := encoding.number + 1, next := code + 1 }

end Encoding

/-- The code of a text. -/
def encode (text : List Char) : List Char :=
  let (kept, others) := text.partition (·.toNat < 128)
  let codes := (stableSort compare (others.map Char.toNat)).eraseDups
  let encoding := codes.foldl (Encoding.write text kept.length) ⟨[], 0, 72, kept.length, 128⟩
  kept ++ (if kept.isEmpty then [] else ['-']) ++ encoding.written

end SearchTenancy.Text.Punycode

import SearchTenancy.Sorting
import SearchTenancy.Text.Canonical.Table

/-!
# The composed normal form

Texts that are canonically equivalent have one normal form (NFC): every character is
taken apart, the marks on a character are put in the order of their classes, and then
each mark is put together with its character if the two make one.
-/

namespace SearchTenancy.Text.Canonical

/-- The class of a mark; zero for all that is no mark with an order. -/
def markClass (c : Char) : Nat :=
  ((classes.find? fun entry => entry.2.contains c).map (·.1)).getD 0

/-! ## Hangul -/

/-- The first of the syllables, which are ordered by leading letter, vowel and trailing letter. -/
def firstSyllable : Nat := 0xac00

/-- The first leading letter. -/
def firstLeading : Nat := 0x1100

/-- The first vowel. -/
def firstVowel : Nat := 0x1161

/-- What stands in front of the first trailing letter. -/
def noTrailing : Nat := 0x11a7

/-- The letters of a syllable; a syllable without a trailing letter has two. -/
def letters? (c : Char) : Option (List Char) :=
  let n := c.toNat - firstSyllable
  if c.toNat < firstSyllable ∨ 19 * 21 * 28 ≤ n then none
  else
    let vowel := [Char.ofNat (firstLeading + n / (21 * 28)), Char.ofNat (firstVowel + n / 28 % 21)]
    some (if n % 28 = 0 then vowel else vowel ++ [Char.ofNat (noTrailing + n % 28)])

/-- The syllable of a leading letter and a vowel, or of a syllable without trailing letter and a
trailing letter. -/
def syllable? (a b : Char) : Option Char :=
  let leading := a.toNat - firstLeading
  let vowel := b.toNat - firstVowel
  let syllable := a.toNat - firstSyllable
  let trailing := b.toNat - noTrailing
  if firstLeading ≤ a.toNat ∧ leading < 19 ∧ firstVowel ≤ b.toNat ∧ vowel < 21 then
    some (Char.ofNat (firstSyllable + (leading * 21 + vowel) * 28))
  else if firstSyllable ≤ a.toNat ∧ syllable < 19 * 21 * 28 ∧ syllable % 28 = 0 ∧
      noTrailing < b.toNat ∧ trailing < 28 then
    some (Char.ofNat (a.toNat + trailing))
  else none

/-! ## Taking apart and putting together -/

/-- The parts of a character, some of which may have parts themselves. -/
def parts (c : Char) : List Char :=
  (letters? c <|> composites.image? c <|> replaced.image? c).getD [c]

/-- A text with its characters taken apart; after three steps no character has parts. -/
def takeApart (text : List Char) : List Char := ((text.flatMap parts).flatMap parts).flatMap parts

/-- The order of neighbours: a mark goes in front of those of greater classes. -/
def compareMarks (a b : Char) : Ordering :=
  if markClass a = 0 then .eq else compare (markClass a) (markClass b)

/-- The character that two others make. -/
def composite? (a b : Char) : Option Char :=
  syllable? a b <|>
    (composites.find? fun run => run.target == [a.toNat, b.toNat]).map fun run =>
      Char.ofNat run.first

/-- Puts a text together. The marks that stand between the last character of class zero and the
rest are kept in reverse; they keep a mark of no greater class from that character. -/
def putTogether (base : Char) (marks : List Char) : List Char → List Char
  | [] => base :: marks.reverse
  | c :: rest =>
    let blocked := marks.head?.any fun mark => markClass c ≤ markClass mark
    match if blocked then none else composite? base c with
    | some whole => putTogether whole marks rest
    | none =>
      if markClass c = 0 then base :: marks.reverse ++ putTogether c [] rest
      else putTogether base (c :: marks) rest

/-- Puts a text together from its first character of class zero on. -/
def compose : List Char → List Char
  | [] => []
  | c :: rest => if markClass c = 0 then putTogether c [] rest else c :: compose rest

/-- The normal form of a text. -/
def normalForm (text : List Char) : List Char :=
  if text.all (·.toNat < 0xc0) then text else compose (stableSort compareMarks (takeApart text))

end SearchTenancy.Text.Canonical

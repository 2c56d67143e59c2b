/-!
# Blanks

The characters with the Unicode property White_Space, and the words of a text: the
runs of other characters between them. Also the parts of a text between marks, and
the search for one text in another.
-/

namespace SearchTenancy.Text

/-- The ranges of White_Space. -/
def blankRanges : List (Nat × Nat) :=
  [(0x09, 0x0d), (0x20, 0x20), (0x85, 0x85), (0xa0, 0xa0), (0x1680, 0x1680), (0x2000, 0x200a),
   (0x2028, 0x2029), (0x202f, 0x202f), (0x205f, 0x205f), (0x3000, 0x3000)]

/-- Whether a character is a blank. -/
def isBlank (c : Char) : Bool := blankRanges.any fun range => range.1 ≤ c.toNat && c.toNat ≤ range.2

/-- The words of a text, the first of them continuing `word`, whose characters stand in reverse. -/
def wordsFrom (word : List Char) : List Char → List (List Char)
  | [] => if word.isEmpty then [] else [word.reverse]
  | c :: rest =>
    if isBlank c then
      if word.isEmpty then wordsFrom [] rest else word.reverse :: wordsFrom [] rest
    else wordsFrom (c :: word) rest

/-- The words of a text: the longest runs of characters that are no blanks. -/
def words (text : List Char) : List (List Char) := wordsFrom [] text

/-- The characters in front of the first `mark`, all of them if there is none. -/
def upTo (mark : Char) (text : List Char) : List Char := text.takeWhile (· ≠ mark)

/-- The parts of a text between the marks; there is one part more than marks. -/
def partsAt (mark : Char) : List Char → List (List Char)
  | [] => [[]]
  | c :: rest =>
    if c = mark then [] :: partsAt mark rest
    else
      match partsAt mark rest with
      | part :: parts => (c :: part) :: parts
      | [] => [[c]]

/-- Whether `part` stands somewhere in `text`. -/
def contains (part : List Char) : List Char → Bool
  | [] => part.isEmpty
  | c :: rest => part.isPrefixOf (c :: rest) || contains part rest

end SearchTenancy.Text

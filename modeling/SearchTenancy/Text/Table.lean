import SearchTenancy.Text.Blank
import SearchTenancy.Text.Digits

/-!
# Tables of characters

Properties of characters are written in rows of hexadecimal code points. An entry of a
row is a code point or two with a hyphen between them, the first and the last of a run.
Behind a slash stands the distance between neighbours if that is not one. Behind a
colon stands what the first of them is mapped to, one code point or several; the others
of a run are mapped to what lies as far behind it as they lie behind the first.
-/

namespace SearchTenancy.Text

/-- Characters at equal distances, and what the first of them is mapped to. -/
structure Run where
  first : Nat
  last : Nat
  step : Nat
  target : List Nat
  deriving DecidableEq

namespace Run

/-- Reads an entry of a row. -/
def ofText (entry : List Char) : Run :=
  let sides := partsAt ':' entry
  let keys := partsAt '/' (sides.headD [])
  let ends := (partsAt '-' (keys.headD [])).map (digitsValue 16)
  { first := ends.headD 0
    last := ends.getLastD 0
    step := (keys[1]?.map (digitsValue 16)).getD 1
    target := (sides[1]?.map fun target => (partsAt ',' target).map (digitsValue 16)).getD [] }

/-- Whether a code point is in the run. -/
def contains (run : Run) (n : Nat) : Bool :=
  run.first ≤ n && n ≤ run.last && (n - run.first) % run.step == 0

/-- What a code point of the run is mapped to. -/
def image (run : Run) (n : Nat) : List Char :=
  run.target.map fun target => Char.ofNat (target + (n - run.first))

end Run

/-- Runs of characters. -/
abbrev Table := List Run

namespace Table

/-- Reads the rows of a table. -/
def ofRows (rows : List String) : Table := rows.flatMap fun row => (words row.toList).map Run.ofText

/-- Whether a character is listed. -/
def contains (table : Table) (c : Char) : Bool := table.any (·.contains c.toNat)

/-- What a character is mapped to, if it is listed. -/
def image? (table : Table) (c : Char) : Option (List Char) :=
  (table.find? (·.contains c.toNat)).map (·.image c.toNat)

end Table

end SearchTenancy.Text

import SearchTenancy.Text.Blank

/-!
# Text expressions

The text of a search as an expression of the query-string syntax: one term for each
word, with the characters reserved by the syntax escaped, and an edit distance that
grows with the length of the word.
-/

namespace SearchTenancy

/-- The characters that the query-string syntax reserves and that a backslash makes literal. -/
def reservedChars : List Char :=
  ['+', '-', '=', '&', '|', '!', '(', ')', '\x7b', '\x7d', '[', ']', '^', '"', '~', '*', '?', ':', '\\', '/']

/-- The edit distance allowed to a word: none below four characters, one below eight, else two. -/
def fuzziness (word : List Char) : Nat := if word.length ≤ 3 then 0 else if word.length ≤ 7 then 1 else 2

/-- A word with its reserved characters escaped. The characters `<` and `>` are dropped, for the
syntax has no escape for them. -/
def escapeWord (word : List Char) : List Char :=
  word.flatMap fun c =>
    if c = '<' ∨ c = '>' then [] else if reservedChars.contains c then ['\\', c] else [c]

/-- The term of a word. -/
def wordTerm (word : List Char) : List Char :=
  match fuzziness word with
  | 0 => escapeWord word
  | distance => escapeWord word ++ '~' :: (Nat.repr distance).toList

/-- The terms of a text, one for each word that leaves something. -/
def fuzzyTerms (text : List Char) : List (List Char) :=
  ((Text.words text).map wordTerm).filter (fun term => !term.isEmpty)

/-- The expression of a text, `none` if no word leaves a term. -/
def fuzzyExpression (text : String) : Option String :=
  let terms := fuzzyTerms text.toList
  if terms.isEmpty then none else some (String.ofList ([' '].intercalate terms))

/-- A number of tenths, with one decimal. -/
def tenths (n : Nat) : String := Nat.repr (n / 10) ++ "." ++ Nat.repr (n % 10)

/-- The searchable fields from the last to the first, each with its weight: the last has 1.0, and
each one before it 0.1 more. -/
def boostedFields (fields : List String) : List String :=
  (fields.reverse.zipIdx 10).map fun entry => entry.1 ++ "^" ++ tenths entry.2

end SearchTenancy

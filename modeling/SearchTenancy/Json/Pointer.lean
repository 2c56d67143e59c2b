import SearchTenancy.Json.Value
import SearchTenancy.Text.Blank
import SearchTenancy.Text.Digits

/-!
# JSON pointers

Paths into a value after RFC 6901: a path is a list of tokens, each after a slash,
with `~1` for a slash and `~0` for a tilde inside a token. In an object a token names
a member, in an array it gives a position without sign and leading zeros.
-/

namespace SearchTenancy.Json

/-- Puts a slash for each `~1`. -/
def unescapeSlash : List Char → List Char
  | '~' :: '1' :: rest => '/' :: unescapeSlash rest
  | c :: rest => c :: unescapeSlash rest
  | [] => []

/-- Puts a tilde for each `~0`. -/
def unescapeTilde : List Char → List Char
  | '~' :: '0' :: rest => '~' :: unescapeTilde rest
  | c :: rest => c :: unescapeTilde rest
  | [] => []

/-- The tokens of a path without its first slash. -/
def pointerTokens (path : List Char) : List (List Char) :=
  (Text.partsAt '/' path).map fun token => unescapeTilde (unescapeSlash token)

/-- The position that a token gives, which has at most 64 bits. -/
def position? (token : List Char) : Option Nat :=
  if token.isEmpty ∨ !token.all Char.isDigit ∨ (token.head? = some '0' ∧ token.length ≠ 1) then none
  else
    let n := Text.digitsValue 10 token
    if n < UInt64.size then some n else none

/-- What a token leads to. -/
def child? (value : Json) (token : List Char) : Option Json :=
  match value with
  | obj members => Entries.get? members (String.ofList token)
  | arr items => (position? token).bind fun n => items[n]?
  | _ => none

/-- What a path leads to; it is given without its first slash. -/
def pointer? (value : Json) (path : String) : Option Json :=
  (pointerTokens path.toList).foldlM child? value

end SearchTenancy.Json

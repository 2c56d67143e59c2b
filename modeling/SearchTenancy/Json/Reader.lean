import SearchTenancy.Json.Written

/-!
# Reading JSON text

The grammar is RFC 8259 to the letter: blanks are the space, the tab, the newline and
the carriage return, strings hold no raw control character, numbers have no leading
zero. Reading always gives a tree; a violation of the grammar stands in it as
`Written.broken`, and reading stops there.
-/

namespace SearchTenancy.Json

/-- The blanks between the tokens of a JSON text. -/
def isBlank (c : Char) : Bool := c = ' ' ∨ c = '\t' ∨ c = '\n' ∨ c = '\r'

/-- The text without the blanks at its start. -/
def skipBlanks (text : List Char) : List Char := text.dropWhile isBlank

/-! ## Strings -/

/-- A character of a string, or a UTF-16 unit given by an escape. -/
inductive Piece where
  | char (c : Char)
  | unit (n : Nat)

/-- The value of a hexadecimal digit. -/
def hexValue? (c : Char) : Option Nat :=
  if '0' ≤ c ∧ c ≤ '9' then some (c.toNat - '0'.toNat)
  else if 'a' ≤ c ∧ c ≤ 'f' then some (c.toNat - 'a'.toNat + 10)
  else if 'A' ≤ c ∧ c ≤ 'F' then some (c.toNat - 'A'.toNat + 10)
  else none

/-- The value of four hexadecimal digits. -/
def hexUnit? (a b c d : Char) : Option Nat := do
  return (((← hexValue? a) * 16 + (← hexValue? b)) * 16 + (← hexValue? c)) * 16 + (← hexValue? d)

/-- The character that a backslash makes of the one after it. -/
def unescape? (c : Char) : Option Char :=
  match c with
  | '"' => some '"'
  | '\\' => some '\\'
  | '/' => some '/'
  | 'b' => some '\x08'
  | 'f' => some '\x0c'
  | 'n' => some '\n'
  | 'r' => some '\r'
  | 't' => some '\t'
  | _ => none

/-- Reads a string up to its closing quote; `none` when the grammar is violated. -/
def scanString : List Char → Option (List Piece × List Char)
  | [] => none
  | '"' :: rest => some ([], rest)
  | '\\' :: 'u' :: a :: b :: c :: d :: rest => do
    let n ← hexUnit? a b c d
    let (pieces, rest) ← scanString rest
    return (.unit n :: pieces, rest)
  | '\\' :: c :: rest => do
    let c ← unescape? c
    let (pieces, rest) ← scanString rest
    return (.char c :: pieces, rest)
  | c :: rest =>
    if c.toNat < 0x20 ∨ c = '\\' then none
    else do
      let (pieces, rest) ← scanString rest
      return (.char c :: pieces, rest)

/-- The characters of a string; `none` when a surrogate lacks its partner. -/
def joinPieces : List Piece → Option (List Char)
  | [] => some []
  | .char c :: rest => (joinPieces rest).map (c :: ·)
  | .unit n :: .unit m :: rest =>
    if 0xD800 ≤ n ∧ n < 0xDC00 then
      if 0xDC00 ≤ m ∧ m < 0xE000 then
        (joinPieces rest).map (Char.ofNat (0x10000 + (n - 0xD800) * 0x400 + (m - 0xDC00)) :: ·)
      else none
    else if 0xDC00 ≤ n ∧ n < 0xE000 then none
    else (joinPieces (.unit m :: rest)).map (Char.ofNat n :: ·)
  | .unit n :: rest =>
    if 0xD800 ≤ n ∧ n < 0xE000 then none else (joinPieces rest).map (Char.ofNat n :: ·)

/-! ## Numbers -/

/-- Splits the digits off the start of a text. -/
def scanDigits (text : List Char) : List Nat × List Char :=
  ((text.takeWhile Char.isDigit).map (fun c => c.toNat - '0'.toNat), text.dropWhile Char.isDigit)

/-- Reads the fraction of a number, if there is one; `none` when the grammar is violated. -/
def scanFraction : List Char → Option (Option (List Nat) × List Char)
  | '.' :: text =>
    let (digits, rest) := scanDigits text
    if digits.isEmpty then none else some (some digits, rest)
  | text => some (none, text)

/-- Splits the sign off the start of an exponent; whether it is negative. -/
def scanExponentSign : List Char → Bool × List Char
  | '-' :: rest => (true, rest)
  | '+' :: rest => (false, rest)
  | text => (false, text)

/-- Reads the exponent of a number, if there is one; `none` when the grammar is violated. -/
def scanExponent : List Char → Option (Option (Bool × List Nat) × List Char)
  | [] => some (none, [])
  | c :: text =>
    if c = 'e' ∨ c = 'E' then
      let (negative, text) := scanExponentSign text
      let (digits, rest) := scanDigits text
      if digits.isEmpty then none else some (some (negative, digits), rest)
    else some (none, c :: text)

/-- Reads a number after its sign; `none` when the grammar is violated. -/
def scanNumber (negative : Bool) (text : List Char) : Option (Literal × List Char) :=
  match scanDigits text with
  | ([], _) => none
  | (0 :: _ :: _, _) => none
  | (whole, rest) => do
    let (fraction, rest) ← scanFraction rest
    let (exponent, rest) ← scanExponent rest
    return (⟨negative, whole, fraction, exponent⟩, rest)

/-! ## Values -/

/-- What was read and the text after it; there is no such text once the grammar is violated. -/
abbrev Scanned (α : Type) := α × Option (List Char)

/-- The greatest number of arrays and objects inside each other. -/
def depthLimit : Nat := 127

/-- Marks an array or object that lies inside `depth` others. -/
def atDepth (depth : Nat) (value : Written) : Written :=
  if depth < depthLimit then value else .tooDeep value

/-- A string that was read. -/
def writtenString (pieces : List Piece) : Written :=
  match joinPieces pieces with
  | some chars => .str (String.ofList chars)
  | none => .unrepresentable

/-- A number after its sign. -/
def scanWrittenNumber (negative : Bool) (text : List Char) : Scanned Written :=
  match scanNumber negative text with
  | some (literal, rest) => ((literal.number?.map Written.num).getD .unrepresentable, some rest)
  | none => (.broken, none)

mutual

/-- Reads a value inside `depth` arrays and objects. The fuel is at least twice the length of
the text, and one more. -/
def scanValue : Nat → Nat → List Char → Scanned Written
  | 0, _, _ => (.broken, none)
  | fuel + 1, depth, text =>
    match skipBlanks text with
    | 'n' :: 'u' :: 'l' :: 'l' :: rest => (.null, some rest)
    | 't' :: 'r' :: 'u' :: 'e' :: rest => (.bool true, some rest)
    | 'f' :: 'a' :: 'l' :: 's' :: 'e' :: rest => (.bool false, some rest)
    | '"' :: rest =>
      match scanString rest with
      | some (pieces, rest) => (writtenString pieces, some rest)
      | none => (.broken, none)
    | '[' :: rest =>
      match skipBlanks rest with
      | ']' :: rest => (atDepth depth (.arr []), some rest)
      | rest =>
        let (items, rest) := scanItems fuel (depth + 1) rest
        (atDepth depth (.arr items), rest)
    | '\x7b' :: rest =>
      match skipBlanks rest with
      | '\x7d' :: rest => (atDepth depth (.obj []), some rest)
      | rest =>
        let (members, rest) := scanMembers fuel (depth + 1) rest
        (atDepth depth (.obj members), rest)
    | '-' :: rest => scanWrittenNumber true rest
    | rest => scanWrittenNumber false rest

/-- Reads the items of an array from the first to the closing bracket. -/
def scanItems : Nat → Nat → List Char → Scanned (List Written)
  | 0, _, _ => ([.broken], none)
  | fuel + 1, depth, text =>
    match scanValue fuel depth text with
    | (item, none) => ([item], none)
    | (item, some rest) =>
      match skipBlanks rest with
      | ',' :: rest =>
        let (items, rest) := scanItems fuel depth rest
        (item :: items, rest)
      | ']' :: rest => ([item], some rest)
      | _ => ([item, .broken], none)

/-- Reads the members of an object from the first to the closing brace. -/
def scanMembers : Nat → Nat → List Char → Scanned (List (Option String × Written))
  | 0, _, _ => ([(none, .broken)], none)
  | fuel + 1, depth, text =>
    match skipBlanks text with
    | '"' :: rest =>
      match scanString rest with
      | none => ([(none, .broken)], none)
      | some (pieces, rest) =>
        let name := (joinPieces pieces).map String.ofList
        match skipBlanks rest with
        | ':' :: rest =>
          match scanValue fuel depth rest with
          | (value, none) => ([(name, value)], none)
          | (value, some rest) =>
            match skipBlanks rest with
            | ',' :: rest =>
              let (members, rest) := scanMembers fuel depth rest
              ((name, value) :: members, rest)
            | '\x7d' :: rest => ([(name, value)], some rest)
            | _ => ([(name, value), (none, .broken)], none)
        | _ => ([(name, .broken)], none)
    | _ => ([(none, .broken)], none)

end

/-- The value at the start of a text and the text after it. -/
def scan (text : String) : Scanned Written :=
  let chars := text.toList
  scanValue (2 * chars.length + 2) 0 chars

/-- Whether nothing but blanks follows a value. -/
def endsAfter : Option (List Char) → Bool
  | some rest => (skipBlanks rest).isEmpty
  | none => false

/-- The value that a text consists of; `none` when the text is no JSON. -/
def ofText? (text : String) : Option Json :=
  let (value, rest) := scan text
  match value.toJson? with
  | some value => if endsAfter rest then some value else none
  | none => none

end SearchTenancy.Json

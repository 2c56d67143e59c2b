import SearchTenancy.Json.Value

/-!
# Written JSON

A JSON text as a tree that keeps what a plain value forgets: the members in the
order of the text, repeated members, and the faults of the text in the places where
they are met. A reader that walks the tree from left to right meets the first fault
first, so it can tell whether a fault of the text or a rule of its own comes first.

A plain value is a written one without faults (`Written.ofJson`).
-/

namespace SearchTenancy

/-- A JSON value as it is written. -/
inductive Written where
  | null
  | bool (b : Bool)
  | num (n : Number)
  | str (s : String)
  | arr (items : List Written)
  /-- The members in the order of the text; a name with a lone surrogate has no string. -/
  | obj (members : List (Option String × Written))
  /-- A number beyond the doubles, or a string with a lone surrogate. -/
  | unrepresentable
  /-- An array or object inside more than 126 others. -/
  | tooDeep (content : Written)
  /-- The grammar is violated here; the text is not read further. -/
  | broken

namespace Written

instance : Inhabited Written := ⟨null⟩

/-- Whether the value is null. -/
def isNull : Written → Bool
  | null => true
  | _ => false

mutual

/-- Whether the grammar holds throughout the value. This is all that is asked of a value
that nobody reads. -/
def grammatical : Written → Bool
  | arr items => grammaticalItems items
  | obj members => grammaticalMembers members
  | tooDeep content => grammatical content
  | broken => false
  | _ => true

/-- Whether the grammar holds throughout the items. -/
def grammaticalItems : List Written → Bool
  | [] => true
  | item :: rest => grammatical item && grammaticalItems rest

/-- Whether the grammar holds throughout the members. -/
def grammaticalMembers : List (Option String × Written) → Bool
  | [] => true
  | (_, value) :: rest => grammatical value && grammaticalMembers rest

end

mutual

/-- The written form of a value, its members in key order. -/
def ofJson : Json → Written
  | .null => null
  | .bool b => bool b
  | .num n => num n
  | .str s => str s
  | .arr items => arr (ofItems items)
  | .obj members => obj (ofMembers members)

/-- The written forms of the items. -/
def ofItems : List Json → List Written
  | [] => []
  | item :: rest => ofJson item :: ofItems rest

/-- The written forms of the members. -/
def ofMembers : List (String × Json) → List (Option String × Written)
  | [] => []
  | (name, value) :: rest => (some name, ofJson value) :: ofMembers rest

end

mutual

/-- The plain value that is written, if there is no fault; of repeated members the last counts. -/
def toJson? : Written → Option Json
  | null => some .null
  | bool b => some (.bool b)
  | num n => some (.num n)
  | str s => some (.str s)
  | arr items => (itemsToJson? items).map .arr
  | obj members => (membersToJson? [] members).map .obj
  | unrepresentable => none
  | tooDeep _ => none
  | broken => none

/-- The plain values of the items. -/
def itemsToJson? : List Written → Option (List Json)
  | [] => some []
  | item :: rest =>
    match toJson? item, itemsToJson? rest with
    | some item, some rest => some (item :: rest)
    | _, _ => none

/-- Adds the plain values of the members to those read before them. -/
def membersToJson? (before : Members) : List (Option String × Written) → Option Members
  | [] => some before
  | (some name, value) :: rest =>
    match toJson? value with
    | some value => membersToJson? (before.insert name value) rest
    | none => none
  | (none, _) :: _ => none

end

end Written

end SearchTenancy

import SearchTenancy.Dict
import SearchTenancy.Json.Number

/-!
# JSON values

The values that requests, documents and backend answers are made of. The members
of an object are kept in key order without repetition; every function of this
library that builds an object keeps them so (`Json.Canonical`).
-/

namespace SearchTenancy

/-- A JSON value. -/
inductive Json where
  | null
  | bool (b : Bool)
  | num (n : Number)
  | str (s : String)
  | arr (items : List Json)
  | obj (members : List (String × Json))

/-- The members of a JSON object: the body of a document. -/
abbrev Members := Entries Json

namespace Json

instance : Inhabited Json := ⟨null⟩

/-- The object without members. -/
def empty : Json := obj []

/-- The object with the given members, of which a later one replaces an earlier one of its name. -/
def ofMembers (members : List (String × Json)) : Json := obj (Entries.ofList members)

/-- A member of an object that is left out when it has no value. -/
def optionalMember (name : String) (value : Option Json) : Members :=
  match value with
  | some value => [(name, value)]
  | none => []

/-- A nonnegative integer, which has to fit 64 bits. -/
def ofNat (n : Nat) : Json := num (.ofNat n)

/-- A nonnegative integer of 64 bits. -/
def ofUInt64 (n : UInt64) : Json := num (.natural n)

/-- A list of strings. -/
def ofStrings (strings : List String) : Json := arr (strings.map str)

/-- A value, or null. -/
def ofOption (value : Option Json) : Json := value.getD null

/-- The member `key`; only objects have members. -/
def get? : Json → String → Option Json
  | obj members, key => Entries.get? members key
  | _, _ => none

/-- The characters of a string. -/
def asString? : Json → Option String
  | str s => some s
  | _ => none

/-- The truth value. -/
def asBool? : Json → Option Bool
  | bool b => some b
  | _ => none

/-- The items of an array. -/
def asArray? : Json → Option (List Json)
  | arr items => some items
  | _ => none

/-- The members of an object. -/
def asObject? : Json → Option Members
  | obj members => some members
  | _ => none

/-- A nonnegative integer; a double is none, whatever its value. -/
def asUInt64? : Json → Option UInt64
  | num n => n.toUInt64?
  | _ => none

/-- The double nearest to a number. -/
def asDouble? : Json → Option Double
  | num n => some n.toDouble
  | _ => none

/-- Whether the value is null. -/
def isNull : Json → Bool
  | null => true
  | _ => false

/-- The member of an object under its smallest key. -/
def firstMember? (value : Json) : Option (String × Json) := value.asObject?.bind List.head?

mutual

/-- Equality of values: numbers of one kind are compared by value, so the two zeros among the
doubles are equal; all else has to agree exactly. -/
def sameValue : Json → Json → Bool
  | null, null => true
  | bool a, bool b => a == b
  | num a, num b => a.sameValue b
  | str a, str b => a == b
  | arr a, arr b => sameItems a b
  | obj a, obj b => sameMembers a b
  | _, _ => false

/-- Equality of lists of values, item by item. -/
def sameItems : List Json → List Json → Bool
  | [], [] => true
  | a :: as, b :: bs => sameValue a b && sameItems as bs
  | _, _ => false

/-- Equality of members: the same names with equal values. -/
def sameMembers : List (String × Json) → List (String × Json) → Bool
  | [], [] => true
  | (name, a) :: as, (name', b) :: bs => name == name' && sameValue a b && sameMembers as bs
  | _, _ => false

end

mutual

/-- The members of every object in the value are in key order without repetition. -/
def Canonical : Json → Prop
  | arr items => CanonicalItems items
  | obj members => Entries.Sorted members ∧ CanonicalMembers members
  | _ => True

/-- Every item is canonical. -/
def CanonicalItems : List Json → Prop
  | [] => True
  | item :: rest => Canonical item ∧ CanonicalItems rest

/-- Every member is canonical. -/
def CanonicalMembers : List (String × Json) → Prop
  | [] => True
  | (_, value) :: rest => Canonical value ∧ CanonicalMembers rest

end

end Json

end SearchTenancy

import SearchTenancy.Json.Reader

/-!
# Typed reading

Readers turn a written value into a value of a type. A record is written as an
object, or as the array of its fields in the order of their declaration. In an object
unknown names are ignored and a known name may stand only once; in an array optional
fields may be missing at the end, and nothing may follow the last field. A field that
is optional takes null as its absence.

A reader walks its input from left to right and stops at the first failure.
-/

namespace SearchTenancy

/-- Why a written value is no value of a type: its shape is wrong, or it breaks a rule of
the type. -/
inductive Misfit (ρ : Type) where
  | shape
  | rule (flaw : ρ)
  deriving DecidableEq

/-- The result of reading a value. -/
abbrev Reading (ρ α : Type) := Except (Misfit ρ) α

namespace Written

variable {ρ σ α : Type}

/-- The reading of a value that was found. -/
def expect : Option α → Reading ρ α
  | some value => .ok value
  | none => .error .shape

/-- Reads a string. -/
def readString : Written → Reading ρ String
  | str s => .ok s
  | _ => .error .shape

/-- Reads a nonnegative integer of 64 bits. -/
def readUInt64 : Written → Reading ρ UInt64
  | num (.natural n) => .ok n
  | _ => .error .shape

/-- Reads any plain value. -/
def readJson (value : Written) : Reading ρ Json := expect value.toJson?

/-- Reads a plain object. -/
def readMembers : Written → Reading ρ Members
  | obj members => expect (membersToJson? [] members)
  | _ => .error .shape

/-- Reads the items of a list one after the other. -/
def readItems (read : Written → Reading ρ α) : List Written → Reading ρ (List α)
  | [] => .ok []
  | item :: rest => do
    let first ← read item
    let others ← readItems read rest
    return first :: others

/-- Reads a list. -/
def readList (read : Written → Reading ρ α) : Written → Reading ρ (List α)
  | arr items => readItems read items
  | _ => .error .shape

/-- Reads an optional value; null is its absence. -/
def readOption (read : Written → Reading ρ α) : Written → Reading ρ (Option α)
  | null => .ok none
  | value => (read value).map some

/-- Reads one of a few names, written as a string or as an object with that one name and null. -/
def readChoice (choices : List (String × α)) : Written → Reading ρ α
  | str s => expect (choices.lookup s)
  | obj [(some s, null)] => expect (choices.lookup s)
  | _ => .error .shape

/-- A field of a record that is being read: its name, whether it may be absent, and how its value
enters the record. -/
structure Field (ρ σ : Type) where
  name : String
  optional : Bool
  enter : Written → σ → Reading ρ σ

/-- A field that has to be given. -/
def required (name : String) (read : Written → Reading ρ α) (set : α → σ → σ) : Field ρ σ :=
  ⟨name, false, fun value record => (read value).map (set · record)⟩

/-- A field that may be absent. -/
def optional (name : String) (read : Written → Reading ρ α) (set : Option α → σ → σ) : Field ρ σ :=
  ⟨name, true, fun value record => (readOption read value).map (set · record)⟩

/-- Reads the members of a record; `given` are the names of the fields read before. -/
def enterMembers (fields : List (Field ρ σ)) :
    List String → List (Option String × Written) → σ → Reading ρ σ
  | given, [], record =>
    if fields.all (fun field => field.optional || given.contains field.name) then .ok record
    else .error .shape
  | _, (none, _) :: _, _ => .error .shape
  | given, (some name, value) :: rest, record =>
    match fields.find? (fun field => field.name == name) with
    | some field =>
      if given.contains name then .error .shape
      else do
        let record ← field.enter value record
        enterMembers fields (name :: given) rest record
    | none => if value.grammatical then enterMembers fields given rest record else .error .shape

/-- Reads the fields of a record in the order of their declaration. -/
def enterItems : List (Field ρ σ) → List Written → σ → Reading ρ σ
  | fields, [], record => if fields.all (·.optional) then .ok record else .error .shape
  | [], _ :: _, _ => .error .shape
  | field :: fields, item :: items, record => do
    let record ← field.enter item record
    enterItems fields items record

/-- Reads a record, starting from one whose fields are blank. -/
def readRecord (fields : List (Field ρ σ)) (blank : σ) : Written → Reading ρ σ
  | obj members => enterMembers fields [] members blank
  | arr items => enterItems fields items blank
  | _ => .error .shape

/-- Reads a text that consists of one value. -/
def readText (read : Written → Reading ρ α) (text : String) : Reading ρ α := do
  let (value, rest) := Json.scan text
  let result ← read value
  if Json.endsAfter rest then return result else throw .shape

end Written

/-- Reads a plain value. -/
def Json.readAs {ρ α : Type} (read : Written → Reading ρ α) (value : Json) : Reading ρ α :=
  read (Written.ofJson value)

end SearchTenancy

import SearchTenancy.Search.Request

/-!
# Alias actions

A change of the alias table: a name is made to stand for an index, or no longer to.
-/

namespace SearchTenancy

/-- A change of the alias table. -/
inductive AliasAction where
  | add (index aliasName : String)
  | remove (index aliasName : String)
  deriving DecidableEq

namespace AliasAction

/-- The written form of an action. -/
def toJson : AliasAction → Json
  | add index aliasName => .obj [("add", .obj [("alias", .str aliasName), ("index", .str index)])]
  | remove index aliasName => .obj [("remove", .obj [("alias", .str aliasName), ("index", .str index)])]

/-- The form that a declaration gives to a constructor: one member, named by the constructor in lower
case, for the record of its fields. -/
def ofConstructor (name : String) (fields : List (String × Json)) : Json :=
  .ofMembers [(String.ofList (name.toList.map Char.toLower), .ofMembers fields)]

/-- The written form that is derived from the declaration of actions. -/
def derived : AliasAction → Json
  | add index aliasName => ofConstructor "Add" [("index", .str index), ("alias", .str aliasName)]
  | remove index aliasName => ofConstructor "Remove" [("index", .str index), ("alias", .str aliasName)]

/-- Reads the index and the alias of an action. -/
def readNames : Written → Reading RequestFlaw (String × String) :=
  Written.readRecord
    [Written.required "index" Written.readString fun index names => (index, names.2),
     Written.required "alias" Written.readString fun aliasName names => (names.1, aliasName)]
    ("", "")

/-- Reads an action from a text: an object whose only name is that of the action, with a record. -/
def read : Written → Reading RequestFlaw AliasAction
  | .obj [(some "add", names)] => (readNames names).map fun names => add names.1 names.2
  | .obj [(some "remove", names)] => (readNames names).map fun names => remove names.1 names.2
  | _ => .error .shape

/-- Reads an action from a plain value, where an array does not stand for the record. -/
def readPlain : Written → Reading RequestFlaw AliasAction
  | .obj [(kind, .obj names)] => read (.obj [(kind, .obj names)])
  | _ => .error .shape

end AliasAction

end SearchTenancy

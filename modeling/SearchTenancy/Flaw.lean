/-!
# Flaws of a request

The rules a request can break although its shape is right, with the text of each.
-/

namespace SearchTenancy

/-- What one entry of a batch asks for. -/
inductive BatchAction where
  | create
  | upsert
  | delete
  deriving DecidableEq

namespace BatchAction

/-- The name of the action in a request. -/
def name : BatchAction → String
  | create => "create"
  | upsert => "upsert"
  | delete => "delete"

/-- The action of a name. -/
def ofName? : String → Option BatchAction
  | "create" => some create
  | "upsert" => some upsert
  | "delete" => some delete
  | _ => none

/-- Whether the action stores a document. -/
def isWrite : BatchAction → Bool
  | delete => false
  | _ => true

end BatchAction

/-- A rule that a request breaks. -/
inductive RequestFlaw where
  /-- A filter has both a term and a range, or neither. -/
  | ambiguousFilter (field : String)
  /-- A new document is given an id. -/
  | idNotAllowed
  | idRequired (action : BatchAction)
  | bodyRequired (action : BatchAction)
  | unknownAction (name : String)
  | bodyNotObject
  | pageZero
  | hitsPerPageZero
  deriving DecidableEq

namespace RequestFlaw

/-- The text of an entry that does not fit its action. -/
def entryMessage (action : BatchAction) (reason : String) : String :=
  "Invalid " ++ action.name ++ " request: " ++ reason

/-- The text of a flaw. -/
def message : RequestFlaw → String
  | ambiguousFilter field => "Filter on '" ++ field ++ "' must set exactly one of term or range"
  | idNotAllowed => entryMessage .create "objectID is not allowed"
  | idRequired action => entryMessage action "objectID is required"
  | bodyRequired action => entryMessage action "body is required"
  | unknownAction name => "Unknown batch action: " ++ name
  | bodyNotObject => "Document body must be a JSON object"
  | pageZero => "Invalid paging: page must be at least 1"
  | hitsPerPageZero => "Invalid paging: hitsPerPage must be greater than 0"

end RequestFlaw

end SearchTenancy

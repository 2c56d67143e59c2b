import SearchTenancy.Flaw
import SearchTenancy.Json.Printer

/-!
# Errors

What a backend reports instead of an answer, what an operation on a logical index
can fail with, and the classification of the one into the other. A missing document
and a missing index are both reported with status 404 and are told apart by the body
only.
-/

namespace SearchTenancy

/-- What a backend reports instead of an answer. -/
structure BackendError where
  /-- The status of the answer, if there was one. -/
  status : Option Nat
  body : Option Json
  message : String

namespace BackendError

/-- An answer with a status that tells of a failure. -/
def refused (status : Nat) (body : Option Json) : BackendError :=
  ⟨some status, body, (body.map Json.render).getD "<empty body>"⟩

/-- No answer arrived. -/
def transport (reason : String) : BackendError := ⟨none, none, reason⟩

/-- An answer that makes no sense. -/
def undecodable (reason : String) : BackendError := ⟨none, none, "failed to decode response: " ++ reason⟩

/-- Whether the status is that of something missing. -/
def isNotFoundStatus (error : BackendError) : Bool := error.status == some 404

/-- The text of the error. -/
def text (error : BackendError) : String :=
  let status :=
    match error.status with
    | some status => "Some(" ++ Nat.repr status ++ ")"
    | none => "None"
  "Backend error (status " ++ status ++ "): " ++ error.message

/-- The member `key` of the body. -/
def bodyMember? (error : BackendError) (key : String) : Option Json := error.body.bind (·.get? key)

end BackendError

/-- An entry of a bulk answer that tells of a failure. -/
structure BulkItemFailure where
  position : Nat
  action : String
  status : Nat
  reason : String
  deriving DecidableEq

/-- What makes an answer of a backend unreadable. -/
inductive AnswerFault where
  | bulkWithoutItems
  | itemCount (items operations : Nat)
  | malformedItem (position : Nat)
  | itemWithoutId (position : Nat)
  | searchWithoutHits
  | hitWithoutId
  | searchWithoutAggregations
  | facetWithoutBuckets (field : String)
  | mappingNotObject
  | propertiesNotObject
  | templatesNotArray
  | storedFacets
  deriving DecidableEq

/-- The text of a fault. -/
def AnswerFault.message : AnswerFault → String
  | bulkWithoutItems => "bulk response has no items"
  | itemCount items operations =>
    "bulk response has " ++ Nat.repr items ++ " items for " ++ Nat.repr operations ++ " operations"
  | malformedItem position => "malformed bulk item at " ++ Nat.repr position
  | itemWithoutId position => "bulk item at " ++ Nat.repr position ++ " has no _id"
  | searchWithoutHits => "search response has no hits"
  | hitWithoutId => "search hit has no _id"
  | searchWithoutAggregations => "search response has no aggregations"
  | facetWithoutBuckets field => "missing buckets for facet '" ++ field ++ "'"
  | mappingNotObject => "mapping response is not an object"
  | propertiesNotObject => "mapping properties is not an object"
  | templatesNotArray => "mapping dynamic_templates is not an array"
  | storedFacets => "invalid stored facets"

/-- What makes a request invalid. -/
inductive InvalidRequest where
  | flaw (flaw : RequestFlaw)
  | emptyObjectId
  /-- The first hit of the page has a number of more than 64 bits. -/
  | offsetOutOfRange (page hitsPerPage : UInt64)
  deriving DecidableEq

/-- The text of an invalid request. -/
def InvalidRequest.message : InvalidRequest → String
  | flaw broken => broken.message
  | emptyObjectId => "objectID must not be empty"
  | offsetOutOfRange page hitsPerPage =>
    "page " ++ Nat.repr page.toNat ++ " with " ++ Nat.repr hitsPerPage.toNat ++ " hits per page is out of range"

/-- What an operation on a logical index fails with. -/
inductive SearchError where
  | indexNotFound (index : String)
  | objectNotFound (index objectId : String)
  /-- A failure of the backend that has no other meaning. -/
  | unclassified (error : BackendError)
  | bulkItems (failures : List BulkItemFailure)
  | invalid (reason : InvalidRequest)
  | connection (reason : String)
  | unreadable (fault : AnswerFault)

namespace SearchError

/-- The text of an error. -/
def message : SearchError → String
  | indexNotFound index => "Index not found: " ++ index
  | objectNotFound index objectId => "Object not found: " ++ objectId ++ " in index " ++ index
  | unclassified error => error.text
  | bulkItems failures => "Bulk operation had " ++ Nat.repr failures.length ++ " failed item(s)"
  | invalid reason => "Validation error: " ++ reason.message
  | connection reason => "Connection error: " ++ reason
  | unreadable fault => "Parse error: " ++ fault.message

/-- The tags of an error that tells of something missing: its kind, whether the index is there, and
whether the document is. -/
def domainError? : SearchError → Option Json
  | indexNotFound _ => some (tags "IndexNotFound" false)
  | objectNotFound _ _ => some (tags "ObjectNotFound" true)
  | _ => none
where
  tags (kind : String) (indexFound : Bool) : Json :=
    .obj [("indexFound", .bool indexFound), ("kind", .str kind), ("objectFound", .bool false)]

/-- Whether the error tells of a missing index. -/
def isIndexNotFound : SearchError → Bool
  | indexNotFound _ => true
  | _ => false

end SearchError

/-- What a report of a backend means. -/
inductive Classification where
  | indexNotFound
  | objectNotFound
  | unclassified
  deriving DecidableEq

namespace BackendError

/-- What the report means: a body with an `_index` tells of a missing document if `found` is false;
without one, status 404 tells of a missing index. -/
def classification (error : BackendError) : Classification :=
  match error.bodyMember? "_index" with
  | some index =>
    if index.isNull then withoutIndex
    else if (error.bodyMember? "found").bind Json.asBool? = some false then .objectNotFound
    else .unclassified
  | none => withoutIndex
where
  withoutIndex : Classification := if error.isNotFoundStatus then .indexNotFound else .unclassified

/-- The error of an operation on `index`, about `objectId` if it was about one document. -/
def classify (error : BackendError) (index : String) (objectId : Option String) : SearchError :=
  match error.classification with
  | .objectNotFound =>
    let reported := (error.bodyMember? "_id").bind Json.asString?
    .objectNotFound index ((objectId <|> reported).getD "")
  | .indexNotFound => .indexNotFound index
  | .unclassified => .unclassified error

end BackendError

end SearchTenancy

import SearchTenancy.Document
import SearchTenancy.Search.Request

/-!
# Batch requests

An entry of a batch creates a document under an id of the backend, stores a document
under a given id, or deletes one. The written entry names its action; which of a body
and an id it may and must have depends on the action.
-/

namespace SearchTenancy

/-- An entry of a batch. -/
inductive BatchRequest where
  | create (body : Members)
  | upsert (objectId : String) (body : Members)
  | delete (objectId : String)

/-- The ids that a batch has written and deleted, each group in the order of the batch. -/
structure BatchResult where
  inserted : List String
  upserted : List String
  deleted : List String
  deriving DecidableEq

namespace BatchRequest

/-- What the entry asks for. -/
def action : BatchRequest → BatchAction
  | create _ => .create
  | upsert _ _ => .upsert
  | delete _ => .delete

/-- Whether the entry stores a document. -/
def isWrite (request : BatchRequest) : Bool := request.action.isWrite

/-- The written form of an entry. -/
def toJson : BatchRequest → Json
  | create body => .obj [("action", .str "create"), ("body", .obj body)]
  | upsert objectId body =>
    .obj [("action", .str "upsert"), ("body", .obj body), ("objectID", .str objectId)]
  | delete objectId => .obj [("action", .str "delete"), ("objectID", .str objectId)]

/-- An entry as it is written, before it is known to be one. -/
structure Draft where
  action : String
  body : Option Json
  objectId : Option String

/-- Reads what is written of an entry. -/
def readDraft : Written → Reading RequestFlaw Draft :=
  Written.readRecord
    [Written.required "action" Written.readString fun action draft => { draft with action := action },
     Written.optional "body" Written.readJson fun body draft => { draft with body := body },
     Written.optional "objectID" Written.readString fun id draft => { draft with objectId := id }]
    ⟨"", none, none⟩

/-- The entry of a draft whose body, if it has one, is an object. -/
def ofParts (action : String) (objectId : Option String) (body : Option Members) :
    Except RequestFlaw BatchRequest :=
  match BatchAction.ofName? action with
  | some .create =>
    match objectId, body with
    | some _, _ => .error .idNotAllowed
    | none, none => .error (.bodyRequired .create)
    | none, some body => .ok (create body)
  | some .upsert =>
    match objectId, body with
    | none, _ => .error (.idRequired .upsert)
    | some _, none => .error (.bodyRequired .upsert)
    | some objectId, some body => .ok (upsert objectId body)
  | some .delete =>
    match objectId with
    | none => .error (.idRequired .delete)
    | some objectId => .ok (delete objectId)
  | none => .error (.unknownAction action)

/-- The entry of a draft. -/
def ofDraft (draft : Draft) : Except RequestFlaw BatchRequest :=
  match draft.body with
  | none => ofParts draft.action draft.objectId none
  | some value => do
    let body ← IndexedObject.bodyOf value
    ofParts draft.action draft.objectId (some body)

/-- Reads an entry. -/
def read (value : Written) : Reading RequestFlaw BatchRequest := do
  let draft ← readDraft value
  (ofDraft draft).mapError .rule

/-- Reads a batch. -/
def readAll : Written → Reading RequestFlaw (List BatchRequest) := Written.readList read

end BatchRequest

namespace BatchResult

/-- The result of a batch without entries. -/
def empty : BatchResult := ⟨[], [], []⟩

/-- The written form of a result. -/
def toJson (result : BatchResult) : Json :=
  .obj [("deleted", .ofStrings result.deleted), ("inserted", .ofStrings result.inserted),
    ("upserted", .ofStrings result.upserted)]

/-- Reads a result. -/
def read : Written → Reading RequestFlaw BatchResult :=
  Written.readRecord
    [Written.required "inserted" (Written.readList Written.readString) fun ids result =>
       { result with inserted := ids },
     Written.required "upserted" (Written.readList Written.readString) fun ids result =>
       { result with upserted := ids },
     Written.required "deleted" (Written.readList Written.readString) fun ids result =>
       { result with deleted := ids }]
    empty

end BatchResult

end SearchTenancy

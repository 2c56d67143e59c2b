import SearchTenancy.Batch.Request
import SearchTenancy.Error

/-!
# Batches

A batch is sent as one bulk call: the creates, then the upserts, then the deletes,
each group in the order of the batch. The answer has one item for each operation in
the order of the call, so the ids of the groups are consecutive parts of the list of
all ids.
-/

namespace SearchTenancy

/-- The lines of a bulk call with the number of operations of each kind. -/
structure BulkPayload where
  lines : List Json
  creates : Nat
  upserts : Nat
  deletes : Nat

namespace BulkPayload

/-- The number of operations. -/
def length (payload : BulkPayload) : Nat := payload.creates + payload.upserts + payload.deletes

/-- Whether there is no operation. -/
def isEmpty (payload : BulkPayload) : Bool := payload.length == 0

/-- Whether some operation stores a document. -/
def hasWrites (payload : BulkPayload) : Bool := 0 < payload.creates + payload.upserts

/-- The lines of an entry: what to do, and the body if there is one. -/
def entryLines : BatchRequest → List Json
  | .create body => [.obj [("index", .empty)], .obj body]
  | .upsert objectId body => [.obj [("index", .obj [("_id", .str objectId)])], .obj body]
  | .delete objectId => [.obj [("delete", .obj [("_id", .str objectId)])]]

/-- The entries that ask for one action. -/
def group (requests : List BatchRequest) (action : BatchAction) : List BatchRequest :=
  requests.filter fun request => request.action = action

/-- The bulk call of a batch. -/
def ofRequests (requests : List BatchRequest) : BulkPayload :=
  let creates := group requests .create
  let upserts := group requests .upsert
  let deletes := group requests .delete
  { lines := (creates ++ upserts ++ deletes).flatMap entryLines
    creates := creates.length
    upserts := upserts.length
    deletes := deletes.length }

/-- What became of an operation: its document has an id, or it failed. -/
inductive Outcome where
  | accepted (id : String)
  | rejected (failure : BulkItemFailure)
  deriving DecidableEq

/-- The reason of a failed operation: the one that is given, or all that is reported. -/
def reason (error : Json) : String := ((error.get? "reason").bind Json.asString?).getD error.render

/-- A status, if it fits 16 bits, and otherwise zero. -/
def itemStatus (body : Json) : Nat :=
  match (body.get? "status").bind Json.asUInt64? with
  | some status => if status.toNat < UInt16.size then status.toNat else 0
  | none => 0

/-- What an item says about its operation. The first member of the item counts. -/
def outcome (position : Nat) (item : Json) : Except AnswerFault Outcome :=
  match item.firstMember? with
  | none => .error (.malformedItem position)
  | some (action, body) =>
    match (body.get? "error").filter (fun error => !error.isNull) with
    | some error => .ok (.rejected ⟨position, action, itemStatus body, reason error⟩)
    | none =>
      match (body.get? "_id").bind Json.asString? with
      | some id => .ok (.accepted id)
      | none => .error (.itemWithoutId position)

/-- What the items say about their operations, the first of which is at `position`. -/
def outcomes (position : Nat) : List Json → Except AnswerFault (List Outcome)
  | [] => .ok []
  | item :: rest => do
    let first ← outcome position item
    let others ← outcomes (position + 1) rest
    return first :: others

/-- The id of an accepted operation. -/
def Outcome.id? : Outcome → Option String
  | accepted id => some id
  | rejected _ => none

/-- The failure of a rejected operation. -/
def Outcome.failure? : Outcome → Option BulkItemFailure
  | accepted _ => none
  | rejected failure => some failure

/-- The ids of the documents of a batch, by groups. -/
def split (payload : BulkPayload) (ids : List String) : BatchResult where
  inserted := ids.take payload.creates
  upserted := (ids.drop payload.creates).take payload.upserts
  deleted := (ids.drop payload.creates).drop payload.upserts

/-- Reads the answer to a bulk call. The batch fails if an operation does. -/
def correlate (payload : BulkPayload) (response : Json) : Except SearchError BatchResult :=
  match (response.get? "items").bind Json.asArray? with
  | none => .error (.unreadable .bulkWithoutItems)
  | some items =>
    if items.length ≠ payload.length then .error (.unreadable (.itemCount items.length payload.length))
    else
      match outcomes 0 items with
      | .error fault => .error (.unreadable fault)
      | .ok outcomes =>
        let failures := outcomes.filterMap Outcome.failure?
        if failures.isEmpty then .ok (payload.split (outcomes.filterMap Outcome.id?))
        else .error (.bulkItems failures)

end BulkPayload

end SearchTenancy

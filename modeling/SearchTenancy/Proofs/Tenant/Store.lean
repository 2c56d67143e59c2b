import SearchTenancy.Proofs.Batch.Bulk
import SearchTenancy.Proofs.Tenant.Requests

/-!
# The abstract store

What callers may think of: a physical id is unset or stands for a table of documents,
and several ids may stand for one table. Writes on an unset id allocate a table for it
first, under a key made of the id and the instant, and fail if there is a table under
this key (`Store.Blocked`). A move makes an id stand for the table of another one; a drop
destroys a table and unsets every id that stands for it. Which id a new document gets is
left open, as long as it is not in use.

`Store.Step` says what one act may be answered with and what it may leave, `Store.Run`
the same of a list of requests with their answers.
-/

namespace SearchTenancy

/-- Tables of documents by key, and the physical ids that stand for them. -/
@[ext]
structure Store where
  pointer : String → Option String
  /-- What each table has under each object id. -/
  table : String → Option (String → Option Members)

namespace Store

/-- The store where every id is unset. -/
def empty : Store := ⟨fun _ => none, fun _ => none⟩

/-- What a table has under an object id. -/
def entry? (store : Store) (key objectId : String) : Option Members := (store.table key).bind (· objectId)

/-- Sets or removes what a table has under an object id. -/
def set (store : Store) (key objectId : String) (entry : Option Members) : Store :=
  { store with
    table := fun other =>
      if other = key then (store.table key).map fun entries id => if id = objectId then entry else entries id
      else store.table other }

/-- Makes an id stand for a table. -/
def point (store : Store) (name key : String) : Store :=
  { store with pointer := fun other => if other = name then some key else store.pointer other }

/-- Makes an id stand for a new table without entries. -/
def allocate (store : Store) (name key : String) : Store :=
  { store.point name key with table := fun other => if other = key then some fun _ => none else store.table other }

/-- Destroys a table and unsets the ids that stand for it. -/
def destroy (store : Store) (key : String) : Store where
  pointer name := if store.pointer name = some key then none else store.pointer name
  table other := if other = key then none else store.table other

/-- An id stands for the table `key`: it did before, or it was unset and the table is new. -/
inductive Ready (store : Store) (name : String) (now : Instant) : String → Store → Prop where
  | there {key : String} (h : store.pointer name = some key) : Ready store name now key store
  | allocated (unset : store.pointer name = none) (unused : store.table (generationName name now) = none) :
      Ready store name now (generationName name now) (store.allocate name (generationName name now))

/-- An id is unset, and the key of a new table for it is in use. -/
def Blocked (store : Store) (name : String) (now : Instant) : Prop :=
  store.pointer name = none ∧ (store.table (generationName name now)).isSome

/-- Entries of a batch are applied to a table one after the other, each with the id of its document. -/
inductive Applies (key : String) : Store → List BatchRequest → List String → Store → Prop where
  | done (store : Store) : Applies key store [] [] store
  | create {store after : Store} {body : Members} {rest : List BatchRequest} {ids : List String} {objectId : String}
      (unused : store.entry? key objectId = none)
      (others : Applies key (store.set key objectId (some (Entries.erase body objectIdAttribute))) rest ids after) :
      Applies key store (.create body :: rest) (objectId :: ids) after
  | upsert {store after : Store} {body : Members} {rest : List BatchRequest} {ids : List String} {objectId : String}
      (others : Applies key (store.set key objectId (some (Entries.erase body objectIdAttribute))) rest ids after) :
      Applies key store (.upsert objectId body :: rest) (objectId :: ids) after
  | delete {store after : Store} {rest : List BatchRequest} {ids : List String} {objectId : String}
      (others : Applies key (store.set key objectId none) rest ids after) :
      Applies key store (.delete objectId :: rest) (objectId :: ids) after

theorem Applies.append {key : String} {store middle after : Store} {first rest : List BatchRequest}
    {ids more : List String} (one : Applies key store first ids middle) (other : Applies key middle rest more after) :
    Applies key store (first ++ rest) (ids ++ more) after := by
  induction one with
  | done store => exact other
  | create unused others ih => exact .create unused (ih other)
  | upsert others ih => exact .upsert (ih other)
  | delete others ih => exact .delete (ih other)

/-- The document under an object id, as callers see it. -/
def get (store : Store) (index : TenantIndex) (objectId : String) : Except SearchError Json :=
  match store.pointer index.physical with
  | none => .error (.indexNotFound index.physical)
  | some key =>
    match store.entry? key objectId with
    | some body => .ok (IndexedObject.toValue ⟨objectId, body⟩)
    | none => .error (.objectNotFound index.physical objectId)

/-- An act on an index at an instant may be answered so and leave such a store. Acts that fail leave the store as
it is, and so do those that read. Writes fail only on a document that is refused, or if they are blocked. -/
def Step (index : TenantIndex) (now : Instant) (before : Store) : (act : Act) → Except SearchError act.Answer → Store → Prop
  | .put objectId value, .ok object, after =>
    ∃ key ready, Ready before index.physical now key ready ∧
      TenantIndex.checkedBody objectId value = .ok object.body ∧
      (objectId = some object.objectId ∨ objectId = none ∧ ready.entry? key object.objectId = none) ∧
      after = ready.set key object.objectId (some object.body)
  | .put objectId value, .error error, after =>
    (TenantIndex.checkedBody objectId value = .error error ∨ before.Blocked index.physical now) ∧ after = before
  | .delete objectId, answer, after =>
    match before.pointer index.physical with
    | none => answer = .error (.indexNotFound index.physical) ∧ after = before
    | some key =>
      if (before.entry? key objectId).isSome then answer = .ok () ∧ after = before.set key objectId none
      else answer = .error (.objectNotFound index.physical objectId) ∧ after = before
  | .batch requests, .ok result, after =>
    (requests = [] ∧ result = .empty ∧ after = before) ∨
    ∃ key ready ids, Ready before index.physical now key ready ∧
      (requests.any BatchRequest.isWrite = false → ready = before) ∧
      Applies key ready (BulkPayload.ordered requests) ids after ∧
      result = (BulkPayload.ofRequests requests).split ids
  | .batch requests, .error error, after =>
    (if requests.any BatchRequest.isWrite then before.Blocked index.physical now
      else before.pointer index.physical = none ∧ error = .indexNotFound index.physical) ∧ after = before
  | .saveSettings _, .ok _, after => ∃ key, Ready before index.physical now key after
  | .saveSettings _, .error _, after => before.Blocked index.physical now ∧ after = before
  | .moveTo destination, answer, after =>
    match before.pointer index.physical with
    | none => answer = .error (.indexNotFound index.physical) ∧ after = before
    | some key => answer = .ok () ∧ after = before.point (physicalId index.tenant destination) key
  | .drop, answer, after =>
    match before.pointer index.physical with
    | none => answer = .error (.indexNotFound index.physical) ∧ after = before
    | some key => answer = .ok () ∧ after = before.destroy key
  | .get objectId, answer, after => answer = before.get index objectId ∧ after = before
  | .getMany _, _, after | .query _, _, after | .getSettings, _, after | .stats, _, after => after = before

end Store

/-- A request with its answer. -/
structure Event where
  request : Request
  answer : Except SearchError request.act.Answer

/-- Requests may be answered so one after the other. -/
def Store.Run : Store → List Event → Store → Prop
  | before, [], after => after = before
  | before, event :: rest, after =>
    ∃ middle, Step event.request.index event.request.now before event.request.act event.answer middle ∧
      Run middle rest after

/-- The requests of a run with their answers. -/
def Memory.trace (memory : Memory) : List Request → List Event
  | [] => []
  | request :: rest => ⟨request, memory.answer request⟩ :: (memory.next request).trace rest

end SearchTenancy

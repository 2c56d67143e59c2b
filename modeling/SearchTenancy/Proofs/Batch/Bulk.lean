import SearchTenancy.Batch.Payload
import SearchTenancy.Proofs.Memory.Consistency

/-!
# Bulk calls on the in-memory backend

A bulk call made for a batch applies the entries of the batch one after the other,
the creates first, then the upserts, then the deletes (`bulk_ofRequests`). Its answer
is always read as a success, with the ids of the entries in groups
(`correlate_bulk`).
-/

namespace SearchTenancy

namespace Memory

variable {memory : Memory}

/-- Applies an entry of a batch to an index; also the id of the document that is meant. -/
def applyEntry (concrete : String) (memory : Memory) : BatchRequest → String × Memory
  | .create body => memory.store concrete none body
  | .upsert objectId body => memory.store concrete (some objectId) body
  | .delete objectId => (objectId, memory.modify concrete (·.remove objectId))

/-- Applies entries one after the other. -/
def applyEntries (concrete : String) : List BatchRequest → Memory → List String × Memory
  | [], memory => ([], memory)
  | entry :: rest, memory =>
    let (id, memory) := memory.applyEntry concrete entry
    let (ids, memory) := applyEntries concrete rest memory
    (id :: ids, memory)

theorem applyEntries_cons (concrete : String) (entry : BatchRequest) (rest : List BatchRequest) (memory : Memory) :
    applyEntries concrete (entry :: rest) memory =
      ((memory.applyEntry concrete entry).1 :: (applyEntries concrete rest (memory.applyEntry concrete entry).2).1,
        (applyEntries concrete rest (memory.applyEntry concrete entry).2).2) := rfl

theorem applyEntries_append (concrete : String) (first rest : List BatchRequest) (memory : Memory) :
    applyEntries concrete (first ++ rest) memory =
      ((applyEntries concrete first memory).1 ++
          (applyEntries concrete rest (applyEntries concrete first memory).2).1,
        (applyEntries concrete rest (applyEntries concrete first memory).2).2) := by
  induction first generalizing memory with
  | nil => rfl
  | cons entry others ih => rw [List.cons_append, applyEntries_cons, applyEntries_cons, ih]; rfl

theorem ChangesOnly.applyEntry (concrete : String) (memory : Memory) (entry : BatchRequest) :
    ChangesOnly concrete memory (memory.applyEntry concrete entry).2 := by
  cases entry with
  | create body => exact .store ..
  | upsert objectId body => exact .store ..
  | delete objectId => exact .modify ..

theorem ChangesOnly.applyEntries (concrete : String) (entries : List BatchRequest) (memory : Memory) :
    ChangesOnly concrete memory (Memory.applyEntries concrete entries memory).2 := by
  induction entries generalizing memory with
  | nil => exact .refl concrete memory
  | cons entry rest ih => exact (ChangesOnly.applyEntry concrete memory entry).trans (ih _)

/-! ## The lines of a batch -/

theorem outcome_bulkItem (position : Nat) (action concrete objectId : String) (status : Nat) :
    BulkPayload.outcome position (bulkItem action concrete objectId status) = .ok (.accepted objectId) := rfl

/-- The lines of one entry apply it, and its item tells its id. -/
theorem bulkLines_entryLines (concrete : String) (entry : BatchRequest) (lines : List Json) (memory : Memory) :
    ∃ action status, bulkLines concrete (BulkPayload.entryLines entry ++ lines) memory =
      (bulkItem action concrete (memory.applyEntry concrete entry).1 status ::
          (bulkLines concrete lines (memory.applyEntry concrete entry).2).1,
        (bulkLines concrete lines (memory.applyEntry concrete entry).2).2) := by
  cases entry with
  | create body => exact ⟨"index", 201, rfl⟩
  | upsert objectId body => exact ⟨"index", 201, rfl⟩
  | delete objectId => exact ⟨"delete", if (memory.document? concrete objectId).isSome then 200 else 404, rfl⟩

theorem bulkLines_entries (concrete : String) (entries : List BatchRequest) (memory : Memory) :
    (bulkLines concrete (entries.flatMap BulkPayload.entryLines) memory).2 =
        (applyEntries concrete entries memory).2 ∧
      ∀ position, BulkPayload.outcomes position
          (bulkLines concrete (entries.flatMap BulkPayload.entryLines) memory).1 =
        .ok ((applyEntries concrete entries memory).1.map .accepted) := by
  induction entries generalizing memory with
  | nil => exact ⟨rfl, fun _ => rfl⟩
  | cons entry rest ih =>
    obtain ⟨action, status, lines⟩ := bulkLines_entryLines concrete entry
      (rest.flatMap BulkPayload.entryLines) memory
    obtain ⟨state, items⟩ := ih (memory.applyEntry concrete entry).2
    rw [List.flatMap_cons, lines, applyEntries_cons]
    refine ⟨state, fun position => ?_⟩
    simp only [BulkPayload.outcomes, outcome_bulkItem, items (position + 1)]
    rfl

theorem length_bulkLines (concrete : String) (entries : List BatchRequest) (memory : Memory) :
    (bulkLines concrete (entries.flatMap BulkPayload.entryLines) memory).1.length = entries.length := by
  induction entries generalizing memory with
  | nil => rfl
  | cons entry rest ih =>
    obtain ⟨action, status, lines⟩ := bulkLines_entryLines concrete entry
      (rest.flatMap BulkPayload.entryLines) memory
    rw [List.flatMap_cons, lines]
    simp [ih]

end Memory

namespace BulkPayload

/-- The entries of a batch in the order in which they are sent. -/
def ordered (requests : List BatchRequest) : List BatchRequest :=
  group requests .create ++ group requests .upsert ++ group requests .delete

theorem length_ordered (requests : List BatchRequest) :
    (ofRequests requests).length = (ordered requests).length := by
  simp [length, ofRequests, ordered, Nat.add_assoc]

/-- No entry is lost, and none is added. -/
theorem mem_ordered {requests : List BatchRequest} {entry : BatchRequest} :
    entry ∈ ordered requests ↔ entry ∈ requests := by
  cases entry <;> simp [ordered, group, BatchRequest.action]

/-- A batch is empty only if there is no request. -/
theorem isEmpty_ofRequests (requests : List BatchRequest) : (ofRequests requests).isEmpty = requests.isEmpty := by
  rw [isEmpty, length_ordered]
  cases requests with
  | nil => rfl
  | cons entry rest =>
    have mem : entry ∈ ordered (entry :: rest) := mem_ordered.2 List.mem_cons_self
    have positive : 0 < (ordered (entry :: rest)).length := List.length_pos_of_mem mem
    simp only [List.isEmpty_cons, beq_eq_false_iff_ne, ne_eq]
    omega

/-- A batch stores something if one of its entries does. -/
theorem hasWrites_ofRequests (requests : List BatchRequest) :
    (ofRequests requests).hasWrites = requests.any BatchRequest.isWrite := by
  induction requests with
  | nil => rfl
  | cons entry rest ih =>
    rw [List.any_cons, ← ih]
    -- A create or an upsert makes its group longer, and a delete makes neither.
    cases entry with
    | create body =>
      have positive : 0 < ((group rest .create).length + 1) + (group rest .upsert).length := by omega
      exact decide_eq_true positive
    | upsert objectId body =>
      have positive : 0 < (group rest .create).length + ((group rest .upsert).length + 1) := by omega
      exact decide_eq_true positive
    | delete objectId => rfl

/-- The answer to the bulk call of a batch is a success that tells all ids. -/
theorem correlate_bulk (concrete : String) (requests : List BatchRequest) (memory : Memory) :
    (ofRequests requests).correlate (.obj [("errors", .bool false),
        ("items", .arr (Memory.bulkLines concrete (ofRequests requests).lines memory).1)]) =
      .ok ((ofRequests requests).split (Memory.applyEntries concrete (ordered requests) memory).1) := by
  have lines : (ofRequests requests).lines = (ordered requests).flatMap entryLines := rfl
  have length := Memory.length_bulkLines concrete (ordered requests) memory
  have outcomes := (Memory.bulkLines_entries concrete (ordered requests) memory).2 0
  have items (list : List Json) : ((Json.obj [("errors", .bool false), ("items", .arr list)]).get? "items").bind
      Json.asArray? = some list := rfl
  have failures (ids : List String) : (ids.map Outcome.accepted).filterMap Outcome.failure? = [] := by
    induction ids with
    | nil => rfl
    | cons id rest ih => simp [Outcome.failure?]
  have told (ids : List String) : (ids.map Outcome.accepted).filterMap Outcome.id? = ids := by
    induction ids with
    | nil => rfl
    | cons id rest ih => simp [Outcome.id?, ih]
  unfold correlate
  simp only [items, lines, length, length_ordered, outcomes, failures, told]
  simp

end BulkPayload

end SearchTenancy

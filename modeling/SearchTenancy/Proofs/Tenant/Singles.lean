import SearchTenancy.Proofs.Batch.Order
import SearchTenancy.Proofs.Tenant.Identity

/-!
# A batch and its entries one at a time

The entries of a batch can also be requested one by one. On an index that has storage each
of these requests does what its entry does in a bulk call (`Memory.single_step`), so all of
them together leave what the entries leave in the order of the batch (`Memory.singles_run`).
A batch is sent in another order, which leaves the same documents as long as no document is
deleted before it is upserted, and no given id is that of a document that the batch creates
(`Memory.batch_agrees_with_singles`).
-/

namespace SearchTenancy

open Operation

/-- The act that does what an entry asks for. -/
def BatchRequest.act : BatchRequest → Act
  | create body => .put none (.obj body)
  | upsert objectId body => .put (some objectId) (.obj body)
  | delete objectId => .delete objectId

/-- Requests that ask an index for the entries one after the other, at any instants. -/
def CarryOut (index : TenantIndex) (singles : List Request) (entries : List BatchRequest) : Prop :=
  List.Forall₂ (fun single entry => single.index = index ∧ single.act = entry.act) singles entries

namespace Event

/-- The id that was made up for a new document. -/
def created? : Event → Option String
  | ⟨⟨_, _, .put none _⟩, .ok object⟩ => some object.objectId
  | _ => none

/-- The request was successful, or asked to delete what is not there. -/
def Done (event : Event) : Prop :=
  (∃ answer, event.answer = .ok answer) ∨
    ∃ objectId, event.request.act = .delete objectId ∧
      ∃ physical, event.answer = .error (.objectNotFound physical objectId)

end Event

namespace Memory

variable {memory ready : Memory} {index : TenantIndex} {now : Instant} {concrete : String}

/-! ## One entry -/

/-- What there is to know of a request that stores a document in storage that is there. -/
theorem put_run (h : memory.Consistent) (there : (memory.aliases.get? index.physical).isSome)
    (resolved : memory.resolve index.physical = some concrete) (now : Instant) {objectId : Option String}
    {body : Members} (named : objectId ≠ some "") (plain : Entries.erase body objectIdAttribute = body) :
    runOn step (index.putObject now objectId (.obj body)) memory =
      (.ok ⟨(memory.store concrete objectId body).1, body⟩, (memory.store concrete objectId body).2) := by
  have checks : TenantIndex.checkedBody objectId (.obj body) = .ok body := by
    simp [TenantIndex.checkedBody, named, IndexedObject.bodyOf, plain, Except.mapError]
  rcases index.runOn_putObject now h objectId (.obj body) with
    ⟨error, refused | blocked, run⟩ | ⟨body', ready, concrete', checked, made, resolved', run⟩
  · rw [checks] at refused
    cases refused
  · rw [blocked.1] at there
    cases there
  · cases made.eq_of_isSome there
    cases checks.symm.trans checked
    cases resolved.symm.trans resolved'
    exact run

/-- A single request does what its entry does in a bulk call. -/
theorem single_step (h : memory.Consistent) (there : (memory.aliases.get? index.physical).isSome)
    (resolved : memory.resolve index.physical = some concrete) (now : Instant) {entry : BatchRequest}
    (identified : ∀ body, entry ≠ .upsert "" body)
    (plain : ∀ body, entry.left = some body → Entries.erase body objectIdAttribute = body) :
    memory.next ⟨index, now, entry.act⟩ = (memory.applyEntry concrete entry).2 ∧
      Event.Done ⟨⟨index, now, entry.act⟩, memory.answer ⟨index, now, entry.act⟩⟩ ∧
      Event.created? ⟨⟨index, now, entry.act⟩, memory.answer ⟨index, now, entry.act⟩⟩ =
        if entry.action = .create then some (memory.applyEntry concrete entry).1 else none := by
  cases entry with
  | create body =>
    have run := put_run h there resolved now (by simp : none ≠ some "") (plain body rfl)
    have answer : memory.answer ⟨index, now, .put none (.obj body)⟩ =
        .ok ⟨(memory.store concrete none body).1, body⟩ := congrArg Prod.fst run
    refine ⟨congrArg Prod.snd run, .inl ⟨_, answer⟩, ?_⟩
    show Event.created? ⟨⟨index, now, .put none (.obj body)⟩, memory.answer ⟨index, now, .put none (.obj body)⟩⟩ = _
    rw [answer]
    rfl
  | upsert objectId body =>
    have given : some objectId ≠ some "" := by
      rintro ⟨⟩
      exact identified body rfl
    have run := put_run h there resolved now given (plain body rfl)
    exact ⟨congrArg Prod.snd run, .inl ⟨_, congrArg Prod.fst run⟩, rfl⟩
  | delete objectId =>
    have run := index.runOn_deleteObject memory objectId
    simp only [resolved] at run
    by_cases found : (memory.document? concrete objectId).isSome
    · rw [if_pos found] at run
      exact ⟨congrArg Prod.snd run, .inl ⟨_, congrArg Prod.fst run⟩, rfl⟩
    · rw [if_neg found] at run
      have absent : memory.document? concrete objectId = none := by simpa using found
      refine ⟨?_, .inr ⟨objectId, rfl, _, congrArg Prod.fst run⟩, rfl⟩
      exact (congrArg Prod.snd run).trans (modify_remove_of_absent absent).symm

/-! ## All entries -/

/-- The single requests leave what the entries leave in the order of the batch, and make up the same ids. -/
theorem singles_run (h : memory.Consistent) (there : (memory.aliases.get? index.physical).isSome)
    (resolved : memory.resolve index.physical = some concrete) {singles : List Request} {requests : List BatchRequest}
    (singly : CarryOut index singles requests) (identified : ∀ body, .upsert "" body ∉ requests)
    (plain : ∀ entry ∈ requests, ∀ body, entry.left = some body → Entries.erase body objectIdAttribute = body) :
    memory.after singles = (applyEntries concrete requests memory).2 ∧
      (∀ event ∈ memory.trace singles, event.Done) ∧
      (memory.trace singles).filterMap Event.created? =
        (BatchRequest.asking .create (BatchRequest.named memory.nextId requests)).map (·.1) := by
  induction singly generalizing memory with
  | nil => exact ⟨rfl, fun _ mem => (nomatch mem), rfl⟩
  | @cons single entry singles rest same _ ih =>
    obtain ⟨at_index, now, act⟩ := single
    obtain ⟨rfl, rfl⟩ := same
    obtain ⟨next, done, created⟩ := single_step h there resolved now
      (fun body is => identified body (is ▸ List.mem_cons_self)) (plain entry List.mem_cons_self)
    have inside := ChangesOnly.applyEntry concrete memory entry
    obtain ⟨after, others, ids⟩ := ih (inside.consistent h) (by rw [inside.aliases]; exact there)
      ((inside.resolve _).trans resolved) (fun body mem => identified body (List.mem_cons_of_mem _ mem))
      (fun other mem => plain other (List.mem_cons_of_mem _ mem))
    rw [← next] at after others ids
    refine ⟨?_, ?_, ?_⟩
    · rw [applyEntries_cons, ← next]
      exact after
    · intro event mem
      rcases List.mem_cons.1 mem with rfl | mem
      · exact done
      · exact others event mem
    · rw [trace, List.filterMap_cons, created, ids, next, applyEntry_id, applyEntry_nextId, BatchRequest.named_cons]
      by_cases creates : entry.action = .create
      · simp [BatchRequest.asking, creates]
      · simp [BatchRequest.asking, creates]

/-- Entries about one document stand in the order of a bulk call, if none is deleted before it is upserted,
and none is created and also named by its id. -/
theorem inOrder_named {made : Nat} {requests : List BatchRequest}
    (upsertsFirst : requests.Pairwise fun one other =>
      ∀ objectId body, one = .delete objectId → other ≠ .upsert objectId body)
    (apart : ∀ objectId ∈ requests.filterMap BatchRequest.objectId?,
      objectId ∉ (BatchRequest.asking .create (BatchRequest.named made requests)).map (·.1)) :
    (BatchRequest.named made requests).Pairwise fun one other =>
      one.1 = other.1 → BatchRequest.InOrder one other := by
  have listed := BatchRequest.map_named made requests
  have pairs : (BatchRequest.named made requests).Pairwise fun one other =>
      ∀ objectId body, one.2 = .delete objectId → other.2 ≠ .upsert objectId body :=
    List.pairwise_map.1 (listed.symm ▸ upsertsFirst)
  refine pairs.imp_of_mem fun {one other} here there uncrossed same => ?_
  obtain ⟨id, entry⟩ := one
  obtain ⟨id', later⟩ := other
  obtain rfl : id = id' := same
  -- A document that is created is not named by its id.
  have created_only (given : entry.objectId? = some id) (body : Members) : later ≠ .create body := by
    rintro rfl
    have mem : entry ∈ requests := by
      rw [← listed]
      exact List.mem_map.2 ⟨_, here, rfl⟩
    have created : (id, .create body) ∈ BatchRequest.asking .create (BatchRequest.named made requests) :=
      List.mem_filter.2 ⟨there, rfl⟩
    exact apart id (List.mem_filterMap.2 ⟨entry, mem, given⟩) (List.mem_map_of_mem created)
  have own {objectId : String} (given : entry.objectId? = some objectId) : entry.objectId? = some id := by
    rw [BatchRequest.id_of_mem_named here given, given]
  cases entry with
  | create body => exact Nat.zero_le _
  | upsert objectId body =>
    cases later with
    | create body => exact absurd rfl (created_only (own rfl) body)
    | upsert _ _ => exact Nat.le_refl 1
    | delete _ => exact Nat.le_succ 1
  | delete objectId =>
    cases later with
    | create body => exact absurd rfl (created_only (own rfl) body)
    | upsert objectId' body =>
      have here := BatchRequest.id_of_mem_named here rfl
      have there := BatchRequest.id_of_mem_named there rfl
      exact absurd (congrArg (BatchRequest.upsert · body) (there.symm.trans here)) (uncrossed objectId body rfl)
    | delete _ => exact Nat.le_refl 2

/-- On an index that has storage a batch that is read from a request agrees with its entries requested one
at a time, if no id is deleted before it is upserted, and none is given to a new document and named
by an entry, too. Both leave the same documents, and the batch tells the ids of the documents that the
single requests have created, upserted and deleted. -/
theorem batch_agrees_with_singles {run : List Request} {index : TenantIndex} (now : Instant)
    (provisioned : ((empty.after run).aliases.get? index.physical).isSome) {written : Written}
    {requests : List BatchRequest} (decoded : BatchRequest.readAll written = .ok requests)
    (identified : ∀ body, .upsert "" body ∉ requests)
    (upsertsFirst : requests.Pairwise fun one other =>
      ∀ objectId body, one = .delete objectId → other ≠ .upsert objectId body)
    {singles : List Request} (singly : CarryOut index singles requests)
    (apart : ∀ objectId ∈ requests.filterMap BatchRequest.objectId?,
      objectId ∉ ((empty.after run).trace singles).filterMap Event.created?) :
    ∃ result, (empty.after run).answer ⟨index, now, .batch requests⟩ = .ok result ∧
      ((empty.after run).next ⟨index, now, .batch requests⟩).document? =
        ((empty.after run).after singles).document? ∧
      (∀ event ∈ (empty.after run).trace singles, event.Done) ∧
      result.inserted = ((empty.after run).trace singles).filterMap Event.created? ∧
      result.upserted = (BulkPayload.group requests .upsert).filterMap BatchRequest.objectId? ∧
      result.deleted = (BulkPayload.group requests .delete).filterMap BatchRequest.objectId? := by
  have sound := sound_empty.after run
  generalize empty.after run = memory at provisioned apart sound ⊢
  obtain ⟨behind, found⟩ := Option.isSome_iff_exists.1 provisioned
  obtain ⟨concrete, resolved⟩ := sound.consistent.exists_resolve found
  obtain ⟨after, done, created⟩ := singles_run sound.consistent provisioned resolved singly identified
    fun entry mem body left => BatchRequest.erase_of_readAll decoded mem left
  rw [created] at apart
  have documents := document?_applyEntries_ordered (sound.consistent.contains_of_resolve resolved)
    (inOrder_named upsertsFirst apart)
  have upserted := BulkPayload.ids_asking_named (by decide : BatchAction.upsert ≠ .create) memory.nextId requests
  have deleted := BulkPayload.ids_asking_named (by decide : BatchAction.delete ≠ .create) memory.nextId requests
  have ids := BulkPayload.split_ordered requests concrete memory
  rw [upserted, deleted] at ids
  rw [created, after]
  rcases index.runOn_batch now sound.consistent requests with
    ⟨none, run⟩ | ⟨-, blocked, -⟩ | ⟨-, -, unset, -⟩ | ⟨-, ready, concrete', made, -, resolved', run⟩
  · subst none
    exact ⟨.empty, congrArg Prod.fst run, congrArg (·.2.document?) run, done, rfl, rfl, rfl⟩
  · rw [blocked.1] at provisioned
    cases provisioned
  · rw [unset] at provisioned
    cases provisioned
  · cases made.eq_of_isSome provisioned
    cases resolved.symm.trans resolved'
    rw [ids] at run
    exact ⟨_, congrArg Prod.fst run, (congrArg (·.2.document?) run).trans documents, done, rfl, rfl, rfl⟩

/-- A batch that deletes, creates and upserts in turn tells the ids by kinds, and leaves what its entries leave
one at a time; the document that it upserts and then deletes is gone. -/
theorem mixed_batch_agrees_with_singles :
    ∃ result, (empty.after [.atEpoch "a" "b" (.put (some "1") (.obj [("x", .bool true)]))]).answer
        (.atEpoch "a" "b" (.batch [.delete "9", .create [], .upsert "1" [("y", .null)], .delete "1"])) = .ok result ∧
      ((empty.after [.atEpoch "a" "b" (.put (some "1") (.obj [("x", .bool true)]))]).next
          (.atEpoch "a" "b" (.batch [.delete "9", .create [], .upsert "1" [("y", .null)], .delete "1"]))).document? =
        ((empty.after [.atEpoch "a" "b" (.put (some "1") (.obj [("x", .bool true)]))]).after
          [.atEpoch "a" "b" (.delete "9"), .atEpoch "a" "b" (.put none (.obj [])),
            .atEpoch "a" "b" (.put (some "1") (.obj [("y", .null)])), .atEpoch "a" "b" (.delete "1")]).document? ∧
      result.inserted = ["auto-1"] ∧ result.upserted = ["1"] ∧ result.deleted = ["9", "1"] := by
  have provisioned : ((empty.after [.atEpoch "a" "b" (.put (some "1") (.obj [("x", .bool true)]))]).aliases.get?
      (TenantIndex.physical ⟨.default, "a", "b"⟩)).isSome := by rfl
  have decoded : BatchRequest.readAll (.arr [.obj [(some "action", .str "delete"), (some "objectID", .str "9")],
      .obj [(some "action", .str "create"), (some "body", .obj [])],
      .obj [(some "action", .str "upsert"), (some "objectID", .str "1"), (some "body", .obj [(some "y", .null)])],
      .obj [(some "action", .str "delete"), (some "objectID", .str "1")]]) =
        .ok [.delete "9", .create [], .upsert "1" [("y", .null)], .delete "1"] := rfl
  have singly : CarryOut ⟨.default, "a", "b"⟩
      [.atEpoch "a" "b" (.delete "9"), .atEpoch "a" "b" (.put none (.obj [])),
        .atEpoch "a" "b" (.put (some "1") (.obj [("y", .null)])), .atEpoch "a" "b" (.delete "1")]
      [.delete "9", .create [], .upsert "1" [("y", .null)], .delete "1"] := by
    repeat' constructor
  have created : ((empty.after [.atEpoch "a" "b" (.put (some "1") (.obj [("x", .bool true)]))]).trace
      [.atEpoch "a" "b" (.delete "9"), .atEpoch "a" "b" (.put none (.obj [])),
        .atEpoch "a" "b" (.put (some "1") (.obj [("y", .null)])), .atEpoch "a" "b" (.delete "1")]).filterMap
      Event.created? = ["auto-1"] := by rfl
  obtain ⟨result, answered, documents, -, inserted, upserted, deleted⟩ := batch_agrees_with_singles .epoch
    provisioned decoded (by simp) (by simp) singly (by rw [created]; decide)
  exact ⟨result, answered, documents, inserted.trans created, upserted, deleted⟩

end Memory

end SearchTenancy

import SearchTenancy.Proofs.Batch.Bulk
import SearchTenancy.Proofs.Mapping.Saving
import SearchTenancy.Proofs.Tenant.Lifecycle
import SearchTenancy.Tenant.Index

/-!
# Operations on the in-memory backend

What each operation on a logical index answers, and what it leaves, on a consistent
state. A write makes storage ready and cannot fail afterwards, so a failed write leaves
no trace. Settings are read and saved in states whose mappings are all described by
schemas (`Memory.Sound`).
-/

namespace SearchTenancy

open Operation

namespace Memory

/-- A consistent state whose mappings are described. -/
structure Sound (memory : Memory) : Prop where
  consistent : memory.Consistent
  described : ∀ name index, memory.indices.get? name = some index → ∃ schema, Schema.Describes schema index.mappings

theorem sound_empty : Sound .empty := ⟨consistent_empty, fun _ _ h => (nomatch h)⟩

variable {memory ready : Memory} {physical : String} {now : Instant}

theorem Ready.consistent (h : memory.Consistent) (made : Ready memory physical now ready) : ready.Consistent := by
  cases made with
  | there _ => exact h
  | created unset unused =>
    have created : memory.indexCreate (generationName physical now) =
        (.ok (), { memory with indices := memory.indices.insert (generationName physical now) .empty }) := by
      simp [indexCreate, unused]
    have consistent := h.indexCreate (generationName physical now)
    rw [created] at consistent
    have put := consistent.aliasPut (generationName physical now) physical
    simpa [aliasPut, Dict.contains_eq, provision] using put

/-- Ready storage is resolved to an index. -/
theorem Ready.exists_index (h : memory.Consistent) (made : Ready memory physical now ready) :
    ∃ concrete index, ready.resolve physical = some concrete ∧ ready.indices.get? concrete = some index := by
  obtain ⟨behind, found⟩ := made.exists_behind
  obtain ⟨concrete, resolved⟩ := (made.consistent h).exists_resolve found
  obtain ⟨index, there⟩ := (made.consistent h).exists_content resolved
  exact ⟨concrete, index, resolved, there⟩

theorem Ready.sound (h : memory.Sound) (made : Ready memory physical now ready) : ready.Sound := by
  refine ⟨made.consistent h.consistent, fun name index found => ?_⟩
  cases made with
  | there _ => exact h.described name index found
  | created unset unused =>
    rw [provision_indices] at found
    split at found
    · cases found; exact ⟨.empty, Schema.describes_empty⟩
    · exact h.described name index found

/-- A name that is resolved has a described mapping. -/
theorem Sound.exists_schema (h : memory.Sound) {name concrete : String}
    (resolved : memory.resolve name = some concrete) :
    ∃ index schema, memory.indices.get? concrete = some index ∧ Schema.Describes schema index.mappings := by
  obtain ⟨index, found⟩ := h.consistent.exists_content resolved
  obtain ⟨schema, described⟩ := h.described concrete index found
  exact ⟨index, schema, found, described⟩

/-- What is answered about the mapping of an index. -/
theorem mappingGet_eq {concrete : String} (resolved : memory.resolve physical = some concrete)
    {content : StoredIndex} (found : memory.indices.get? concrete = some content) :
    memory.mappingGet physical = .ok (.obj [(concrete, .obj [("mappings", .obj content.mappings)])]) := by
  unfold mappingGet resolveOrMissing
  rw [resolved]
  show Except.ok (Json.obj [(concrete, .obj [("mappings",
    .obj (((memory.indices.get? concrete).map (·.mappings)).getD []))])]) = _
  rw [found]
  rfl

end Memory

namespace TenantIndex

open Memory

variable {memory : Memory} (index : TenantIndex) (now : Instant)

/-! ## Documents -/

/-- A document is stored once storage is ready. If it is refused, or storage is blocked, nothing has
changed. -/
theorem runOn_putObject (h : memory.Consistent) (objectId : Option String) (value : Json) :
    (∃ error, (checkedBody objectId value = .error error ∨ Blocked memory index.physical now) ∧
      runOn step (index.putObject now objectId value) memory = (.error error, memory)) ∨
    ∃ body ready concrete, checkedBody objectId value = .ok body ∧ Ready memory index.physical now ready ∧
      ready.resolve index.physical = some concrete ∧
      runOn step (index.putObject now objectId value) memory =
        (.ok ⟨(ready.store concrete objectId body).1, body⟩, (ready.store concrete objectId body).2) := by
  unfold putObject
  rw [runOn_bind, runOn_ofExcept]
  cases checked : checkedBody objectId value with
  | error failure => exact .inl ⟨failure, .inl rfl, rfl⟩
  | ok body =>
    simp only [runOn_bind]
    rcases runOn_ensureExists h now index.physical with ⟨ready, made, run⟩ | ⟨blocked, report, run⟩
    · obtain ⟨concrete, -, resolved, -⟩ := made.exists_index h
      refine .inr ⟨body, ready, concrete, rfl, made, resolved, ?_⟩
      simp [run, TenantIndex.call, Operation.call, step, documentIndex, resolveOrMissing, resolved, Except.mapError,
        Json.asObject?]
    · exact .inl ⟨_, .inr blocked, by rw [run]⟩

/-- A document is read as it was stored, with its id. -/
theorem runOn_getObject (memory : Memory) (objectId : String) :
    runOn step (index.getObject objectId) memory =
      (match memory.resolve index.physical with
        | none => .error (.indexNotFound index.physical)
        | some concrete =>
          match memory.document? concrete objectId with
          | some source => .ok (IndexedObject.toValue ⟨objectId, Entries.erase source objectIdAttribute⟩)
          | none => .error (.objectNotFound index.physical objectId), memory) := by
  unfold getObject
  simp only [runOn_bind, TenantIndex.call, Operation.call, runOn_mk_call, step, documentGet, resolveOrMissing]
  cases memory.resolve index.physical with
  | none => rfl
  | some concrete =>
    cases found : memory.document? concrete objectId with
    | none => simp [bind, Except.bind, found]; rfl
    | some source => simp [bind, Except.bind, found]; rfl

/-- A document is deleted only if it is there. -/
theorem runOn_deleteObject (memory : Memory) (objectId : String) :
    runOn step (index.deleteObject objectId) memory =
      match memory.resolve index.physical with
      | none => (.error (.indexNotFound index.physical), memory)
      | some concrete =>
        if (memory.document? concrete objectId).isSome then (.ok (), memory.modify concrete (·.remove objectId))
        else (.error (.objectNotFound index.physical objectId), memory) := by
  unfold deleteObject
  simp only [TenantIndex.call, Operation.call, runOn_mk_call, step, documentDelete, resolveOrMissing]
  cases memory.resolve index.physical with
  | none => rfl
  | some concrete =>
    by_cases there : (memory.document? concrete objectId).isSome
    · simp [there]; rfl
    · simp [there]; rfl

/-! ## Batches -/

theorem runOn_bulk (requests : List BatchRequest) {concrete : String}
    (resolved : memory.resolve index.physical = some concrete) :
    runOn step (do
      let response : Json ← index.call (.bulk index.physical (BulkPayload.ofRequests requests).lines) none
      Operation.ofExcept ((BulkPayload.ofRequests requests).correlate response)) memory =
      (.ok ((BulkPayload.ofRequests requests).split
          (applyEntries concrete (BulkPayload.ordered requests) memory).1),
        (applyEntries concrete (BulkPayload.ordered requests) memory).2) := by
  have applied := (bulkLines_entries concrete (BulkPayload.ordered requests) memory).1
  have lines : (BulkPayload.ofRequests requests).lines =
      (BulkPayload.ordered requests).flatMap BulkPayload.entryLines := rfl
  rw [← lines] at applied
  simp only [runOn_bind, TenantIndex.call, Operation.call, runOn_mk_call, step, bulk, resolveOrMissing, resolved]
  rw [← applied, ← BulkPayload.correlate_bulk]
  rfl

/-- A batch that stores documents makes storage ready, applies its entries and succeeds, unless storage is
blocked; one that only deletes needs an alias. Nothing has changed otherwise. -/
theorem runOn_batch (h : memory.Consistent) (requests : List BatchRequest) :
    (requests = [] ∧ runOn step (index.batch now requests) memory = (.ok .empty, memory)) ∨
    (requests.any BatchRequest.isWrite ∧ Blocked memory index.physical now ∧
      ∃ error, runOn step (index.batch now requests) memory = (.error error, memory)) ∨
    (requests ≠ [] ∧ requests.any BatchRequest.isWrite = false ∧ memory.aliases.get? index.physical = none ∧
      runOn step (index.batch now requests) memory = (.error (.indexNotFound index.physical), memory)) ∨
    (requests ≠ [] ∧ ∃ ready concrete, Ready memory index.physical now ready ∧
      (requests.any BatchRequest.isWrite = false → ready = memory) ∧
      ready.resolve index.physical = some concrete ∧
      runOn step (index.batch now requests) memory =
        (.ok ((BulkPayload.ofRequests requests).split (applyEntries concrete (BulkPayload.ordered requests) ready).1),
          (applyEntries concrete (BulkPayload.ordered requests) ready).2)) := by
  unfold batch
  simp only [BulkPayload.isEmpty_ofRequests, BulkPayload.hasWrites_ofRequests]
  cases requests with
  | nil => exact .inl ⟨rfl, rfl⟩
  | cons first rest =>
    generalize listed : first :: rest = requests
    have some : requests ≠ [] := by rw [← listed]; simp
    have nonempty : requests.isEmpty = false := by rw [← listed]; rfl
    right
    simp only [nonempty]
    -- Storage is made ready for writes only; a batch of deletes needs the alias to be there.
    by_cases writes : requests.any BatchRequest.isWrite
    · simp only [writes, if_true]
      rcases runOn_ensureExists h now index.physical with ⟨ready, made, run⟩ | ⟨blocked, report, run⟩
      · obtain ⟨concrete, -, resolved, -⟩ := made.exists_index h
        refine .inr (.inr ⟨some, ready, concrete, made, fun not => (nomatch not), resolved, ?_⟩)
        rw [← runOn_bulk index requests resolved]
        exact runOn_bind_ok step memory run
      · exact .inl ⟨trivial, blocked, _, runOn_bind_error step memory run⟩
    · simp only [writes]
      have required := runOn_requireExists h index.physical
      cases found : memory.aliases.get? index.physical with
      | none =>
        refine .inr (.inl ⟨some, trivial, rfl, ?_⟩)
        have missing : runOn step (discard (Lifecycle.requireExists index.physical)) memory =
            (.error (.indexNotFound index.physical), memory) := by
          rw [runOn_discard, required, found]
          rfl
        exact runOn_bind_error step memory missing
      | some behind =>
        have there : Ready memory index.physical now memory := .there (by simp [found])
        obtain ⟨concrete, -, resolved, -⟩ := there.exists_index h
        refine .inr (.inr ⟨some, memory, concrete, there, fun _ => rfl, resolved, ?_⟩)
        rw [← runOn_bulk index requests resolved]
        have made : runOn step (discard (Lifecycle.requireExists index.physical)) memory = (.ok (), memory) := by
          rw [runOn_discard, required, found]
          rfl
        exact runOn_bind_ok step memory made

/-! ## Settings -/

theorem runOn_readMapping_missing {physical : String} (missing : memory.resolve physical = none) :
    runOn step (readMapping physical) memory = (.error (.indexNotFound physical), memory) := by
  unfold readMapping
  simp only [runOn_bind, Operation.call, runOn_mk_call, step, mappingGet, resolveOrMissing, missing]
  rfl

/-- The mapping of an index is read as its schema says. -/
theorem runOn_readMapping {physical concrete : String} (resolved : memory.resolve physical = some concrete)
    {content : StoredIndex} (found : memory.indices.get? concrete = some content) {schema : Schema}
    (described : Schema.Describes schema content.mappings) :
    runOn step (readMapping physical) memory = (.ok (schema.mapping (some concrete)), memory) := by
  unfold readMapping
  simp only [runOn_bind, Operation.call, runOn_mk_call, step, mappingGet_eq resolved found, Except.mapError,
    Operation.reading, described.ofResponse, runOn_ofExcept]

/-- The settings in effect are those of the mapping. -/
theorem runOn_getSettings_of_read {mapping : IndexMapping}
    (read : runOn step (readMapping index.physical) memory = (.ok mapping, memory)) :
    runOn step index.getSettings memory = (.ok mapping.settings, memory) := runOn_bind_ok step memory read

/-- The settings in effect are those of the schema. -/
theorem runOn_getSettings {concrete : String} (resolved : memory.resolve index.physical = some concrete)
    {content : StoredIndex} (found : memory.indices.get? concrete = some content) {schema : Schema}
    (described : Schema.Describes schema content.mappings) :
    runOn step index.getSettings memory = (.ok (schema.mapping (some concrete)).settings, memory) :=
  index.runOn_getSettings_of_read (runOn_readMapping resolved found described)

/-- Settings are put into effect once storage is ready. If it is blocked, nothing has changed. -/
theorem runOn_saveSettings (h : memory.Sound) (spec : SettingsSpec) :
    (Blocked memory index.physical now ∧
      ∃ error, runOn step (index.saveSettings now spec) memory = (.error error, memory)) ∨
    ∃ ready concrete content change, Ready memory index.physical now ready ∧
      ready.resolve index.physical = some concrete ∧ ready.indices.get? concrete = some content ∧
      StoredIndex.Settles index.config.keywordSubfield spec content (change content) ∧
      runOn step (index.saveSettings now spec) memory = (.ok spec, ready.modify concrete change) := by
  unfold saveSettings
  simp only [runOn_bind]
  rcases runOn_ensureExists h.consistent now index.physical with ⟨ready, made, run⟩ | ⟨blocked, report, run⟩
  · right
    obtain ⟨concrete, -, resolved, -⟩ := made.exists_index h.consistent
    obtain ⟨content, schema, found, described⟩ := (made.sound h).exists_schema resolved
    have planned (other : Schema) (described' : Schema.Describes other content.mappings) :=
      described.mapping_eq described' (some concrete) ▸
        described'.plan spec (some concrete) index.config.keywordSubfield
    rw [run]
    simp only [runOn_readMapping resolved found described]
    cases plan : MappingUpdate.plan spec (schema.mapping (some concrete)) index.config.keywordSubfield with
    | none =>
      rw [plan] at planned
      refine ⟨ready, concrete, content, id, made, resolved, found, ⟨rfl, fun other described' => ?_⟩, ?_⟩
      · exact ⟨other, described', planned other described', .of_kept _ rfl rfl⟩
      -- Settings that are in effect already are not sent.
      have same : ready.modify concrete id = ready := modify_eq_self found rfl
      rw [same]
      rfl
    | some update =>
      rw [plan] at planned
      obtain ⟨members, _, body, -⟩ := planned schema described
      refine ⟨ready, concrete, content, (·.putMapping members), made, resolved, found,
        ⟨rfl, fun other described' => ?_⟩, ?_⟩
      · obtain ⟨members', settled, body', after, settles⟩ := planned other described'
        cases Json.obj.inj (body.symm.trans body')
        exact ⟨settled, after, settles⟩
      have put : ready.mappingPut index.physical update.body =
          (.ok (), ready.modify concrete (·.putMapping members)) := by
        simp [mappingPut, resolveOrMissing, resolved, Dict.contains_eq, found, body, Json.asObject?]
      simp only [runOn_bind, TenantIndex.call, Operation.call, runOn_mk_call, step, put, runOn_pure]
      rfl
  · exact .inl ⟨blocked, _, by rw [run]⟩

/-! ## Aliases -/

/-- A move makes the destination stand for what the index stands for. -/
theorem runOn_moveTo (h : memory.Consistent) (destination : String) :
    runOn step (index.moveTo destination) memory =
      match memory.aliases.get? index.physical with
      | some behind =>
        (.ok (), { memory with aliases := memory.aliases.insert (physicalId index.tenant destination) behind })
      | none => (.error (.indexNotFound index.physical), memory) := by
  unfold moveTo
  rw [runOn_discard, runOn_moveIndex h]
  cases memory.aliases.get? index.physical <;> rfl

/-- A drop deletes what the index stands for. -/
theorem runOn_drop (h : memory.Consistent) :
    runOn step index.drop memory =
      match memory.aliases.get? index.physical with
      | some behind => (.ok (), memory.without behind.keys)
      | none => (.error (.indexNotFound index.physical), memory) := runOn_dropIndex h index.physical

end TenantIndex

end SearchTenancy

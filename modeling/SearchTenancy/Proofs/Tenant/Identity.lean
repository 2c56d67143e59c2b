import SearchTenancy.Proofs.Json.Record
import SearchTenancy.Proofs.Memory.Documents
import SearchTenancy.Proofs.Tenant.Refinement

/-!
# The identity of stored documents

A document has one identity, its id: the id is not empty, and the body that is stored has
no `objectID` beside it. A single write sees to both. Entries of a batch that are read from
a request have lost the `objectID` of their bodies (`BatchRequest.erase_of_readAll`), but
nothing looks at their ids, and an entry that is built otherwise keeps what is in its body.

Every document that is stored was stored by a request of the run (`Memory.stored_by_run`),
so what breaks the rules was an entry of a batch (`Memory.unidentified_only_by_batch`), and
such entries are stored (`Memory.unidentified_entries_are_stored`).
-/

namespace SearchTenancy

open Operation

/-! ## Entries that are read -/

namespace BatchRequest

/-- The body of an entry is the one that was given. -/
theorem left_of_ofParts {action : String} {objectId : Option String} {given : Option Members} {entry : BatchRequest}
    (h : ofParts action objectId given = .ok entry) {body : Members} (left : entry.left = some body) :
    given = some body := by
  unfold ofParts at h
  split at h
  · split at h
    · cases h
    · cases h
    · cases h
      exact left
  · split at h
    · cases h
    · cases h
    · cases h
      exact left
  · split at h
    · cases h
    · cases h
      cases left
  · cases h

/-- What is written as the body of a draft is canonical. -/
theorem canonical_of_readDraft {value : Written} {draft : Draft} (h : readDraft value = .ok draft) :
    ∀ body ∈ draft.body, body.Canonical := by
  refine Written.readRecord_keeps (fun draft : Draft => ∀ body ∈ draft.body, body.Canonical) ?_
    (by simp) h
  simp only [List.mem_cons, List.not_mem_nil, or_false, forall_eq_or_imp, forall_eq]
  refine ⟨?action, ?body, ?id⟩
  case action => exact Written.keeps_required_any fun _ _ kept => kept
  case body => exact Written.keeps_optional Json.Canonical (fun _ _ _ read => Written.canonical_of_readJson read) fun _ _ body _ => body
  case id => exact Written.keeps_optional_any fun _ _ kept => kept

/-- The body of an entry that is read was written as an object. -/
theorem bodyOf_of_read {value : Written} {entry : BatchRequest} (h : read value = .ok entry) {body : Members}
    (left : entry.left = some body) : ∃ source : Json, source.Canonical ∧ IndexedObject.bodyOf source = .ok body := by
  obtain ⟨draft, drafted, h⟩ := exists_of_bind_eq_ok h
  cases made : ofDraft draft with
  | error flaw =>
    rw [made] at h
    cases h
  | ok same =>
    rw [made] at h
    cases h
    unfold ofDraft at made
    split at made
    · cases left_of_ofParts made left
    · rename_i source given
      obtain ⟨kept, plain, made⟩ := exists_of_bind_eq_ok made
      cases left_of_ofParts made left
      exact ⟨source, canonical_of_readDraft drafted source given, plain⟩

/-- An entry that is read has no `objectID` in its body. -/
theorem erase_of_read {value : Written} {entry : BatchRequest} (h : read value = .ok entry) {body : Members}
    (left : entry.left = some body) : Entries.erase body objectIdAttribute = body := by
  obtain ⟨source, -, plain⟩ := bodyOf_of_read h left
  exact Memory.erase_of_bodyOf plain

/-- No entry of a batch that is read has an `objectID` in its body. -/
theorem erase_of_readAll {value : Written} {requests : List BatchRequest} (h : readAll value = .ok requests)
    {entry : BatchRequest} (mem : entry ∈ requests) {body : Members} (left : entry.left = some body) :
    Entries.erase body objectIdAttribute = body := by
  obtain ⟨item, one⟩ := Written.exists_of_mem_readList h mem
  exact erase_of_read one left

end BatchRequest

theorem get?_of_erase {body : Members} {key : String} (h : Entries.erase body key = body) :
    Entries.get? body key = none := by
  rw [← h]
  exact Entries.get?_erase_self body key

/-! ## Where documents come from -/

/-- The act can store this document. A batch looks neither at ids nor into bodies. -/
def Act.Stores (objectId : String) (source : Members) : Act → Prop
  | put given value =>
    IndexedObject.bodyOf value = .ok source ∧
      (given = some objectId ∧ objectId ≠ "" ∨ given = none ∧ ∃ n, objectId = Memory.autoId n)
  | batch requests =>
    .upsert objectId source ∈ requests ∨ .create source ∈ requests ∧ ∃ n, objectId = Memory.autoId n
  | _ => False

theorem autoId_ne_empty (n : Nat) : Memory.autoId n ≠ "" := by
  intro h
  have lists := congrArg String.toList h
  simp [Memory.autoId] at lists

theorem TenantIndex.checkedBody_eq_ok {given : Option String} {value : Json} {body : Members}
    (h : TenantIndex.checkedBody given value = .ok body) :
    given ≠ some "" ∧ IndexedObject.bodyOf value = .ok body := by
  unfold TenantIndex.checkedBody at h
  split at h
  · cases h
  · rename_i named
    refine ⟨named, ?_⟩
    cases read : IndexedObject.bodyOf value with
    | error flaw =>
      rw [read] at h
      cases h
    | ok plain =>
      rw [read] at h
      cases h
      rfl

namespace Memory

variable {memory : Memory} {concrete key objectId : String} {source : Members}

/-- What is there after the entries of a batch was there before, or is one of them. -/
theorem stored_by_entries (there : memory.indices.contains concrete) {entries : List BatchRequest}
    (found : (applyEntries concrete entries memory).2.document? key objectId = some source) :
    memory.document? key objectId = some source ∨ (Act.batch entries).Stores objectId source := by
  induction entries generalizing memory with
  | nil => exact .inl found
  | cons entry rest ih =>
    have still : (memory.applyEntry concrete entry).2.indices.contains concrete := by
      rw [(ChangesOnly.applyEntry concrete memory entry).contains]
      exact there
    rw [applyEntries_cons] at found
    rcases ih still found with before | ⟨upsert⟩ | ⟨create, made⟩
    · rw [document?_applyEntry there] at before
      split at before
      · rename_i same
        -- The entry itself has left the document.
        right
        cases entry with
        | create body =>
          cases before
          exact .inr ⟨List.mem_cons_self, memory.nextId + 1, same.2⟩
        | upsert id body =>
          cases before
          have named : objectId = id := same.2
          subst named
          exact .inl List.mem_cons_self
        | delete id => cases before
      · exact .inl before
    · exact .inr (.inl (List.mem_cons_of_mem _ upsert))
    · exact .inr (.inr ⟨List.mem_cons_of_mem _ create, made⟩)

/-- A document that is there after a change was there before, or the act has stored it. Of a single write
the change does not say which body was stored. -/
theorem Change.stored (h : memory.Sound) {index : TenantIndex} {now : Instant} {act : Act} {after : Memory}
    (change : Change memory index now act after) (other : ∀ given value, act ≠ .put given value)
    (found : after.document? key objectId = some source) :
    memory.document? key objectId = some source ∨ act.Stores objectId source := by
  cases change with
  | put given value body made resolved => exact absurd rfl (other given value)
  | @batch ready concrete requests made resolved deletes =>
    have there := (made.consistent h.consistent).contains_of_resolve resolved
    rcases stored_by_entries there found with before | stores
    · rw [made.document?_eq] at before
      exact .inl before
    · right
      simpa [Act.Stores, BulkPayload.mem_ordered] using stores
  | delete objectId resolved =>
    rw [document?_remove] at found
    split at found
    · cases found
    · exact .inl found
  | save made resolved there settles =>
    left
    unfold document? modify at found
    rw [← made.document?_eq]
    simp only [there, Dict.get?_insert] at found
    split at found
    · subst_vars
      simpa [document?, there, settles.documents] using found
    · exact found
  | move destination stands => exact .inl found
  | drop stands =>
    left
    unfold document? at found ⊢
    rw [without_indices] at found
    split at found
    · cases found
    · exact found

/-- A document that is there after a single write was there before, or is the one that was written. -/
theorem stored_by_put (h : memory.Sound) {index : TenantIndex} {now : Instant} {given : Option String} {value : Json}
    (found : (memory.next ⟨index, now, .put given value⟩).document? key objectId = some source) :
    memory.document? key objectId = some source ∨ (Act.put given value).Stores objectId source := by
  rcases index.runOn_putObject now h.consistent given value with
    ⟨error, -, run⟩ | ⟨body, ready, concrete, checked, made, resolved, run⟩
  · have same : memory.next ⟨index, now, .put given value⟩ = memory := congrArg Prod.snd run
    rw [same] at found
    exact .inl found
  · have left : memory.next ⟨index, now, .put given value⟩ = (ready.store concrete given body).2 :=
      congrArg Prod.snd run
    have there := (made.consistent h.consistent).contains_of_resolve resolved
    rw [left, document?_store there, made.document?_eq] at found
    split at found
    · rename_i same
      cases found
      obtain ⟨named, plain⟩ := TenantIndex.checkedBody_eq_ok checked
      refine .inr ⟨plain, ?_⟩
      cases given with
      | none => exact .inr ⟨rfl, ready.nextId + 1, same.2⟩
      | some id =>
        have is : objectId = id := same.2
        subst is
        exact .inl ⟨rfl, fun empty => named (by rw [empty])⟩
    · exact .inl found

/-- A document that is there after a request was there before, or the request has stored it. -/
theorem stored_by_next (h : memory.Sound) {request : Request}
    (found : (memory.next request).document? key objectId = some source) :
    memory.document? key objectId = some source ∨ request.act.Stores objectId source := by
  obtain ⟨index, now, act⟩ := request
  by_cases single : ∃ given value, act = .put given value
  · obtain ⟨given, value, rfl⟩ := single
    exact stored_by_put h found
  · rcases next_cases h ⟨index, now, act⟩ with same | ⟨-, change⟩
    · rw [same] at found
      exact .inl found
    · exact change.stored h (fun given value is => single ⟨given, value, is⟩) found

/-- Every stored document was stored by a request of the run. -/
theorem stored_by_run (h : memory.Sound) {run : List Request}
    (found : (memory.after run).document? key objectId = some source) :
    memory.document? key objectId = some source ∨ ∃ request ∈ run, request.act.Stores objectId source := by
  induction run generalizing memory with
  | nil => exact .inl found
  | cons request rest ih =>
    rcases ih (h.next request) found with before | ⟨other, mem, stores⟩
    · exact (stored_by_next h before).imp_right fun stores => ⟨request, List.mem_cons_self, stores⟩
    · exact .inr ⟨other, List.mem_cons_of_mem _ mem, stores⟩

/-- What breaks the rules of identity was an entry of a batch: a document with an empty id was upserted
under it, and a document with an `objectID` in its body was an entry with that body, which no reading of a
request yields. -/
theorem unidentified_only_by_batch {run : List Request}
    (found : (empty.after run).document? key objectId = some source) :
    (objectId = "" → ∃ request ∈ run, ∃ requests, request.act = .batch requests ∧ .upsert "" source ∈ requests) ∧
    ((Entries.get? source objectIdAttribute).isSome → ∃ request ∈ run, ∃ requests, request.act = .batch requests ∧
      (.create source ∈ requests ∨ .upsert objectId source ∈ requests) ∧
      ∀ written, BatchRequest.readAll written ≠ .ok requests) := by
  rcases stored_by_run sound_empty found with before | ⟨request, mem, stores⟩
  · cases before
  · cases act : request.act with
    | put given value =>
      rw [act] at stores
      obtain ⟨plain, named⟩ := stores
      constructor
      · intro empty
        rcases named with ⟨-, some⟩ | ⟨-, n, made⟩
        · exact absurd empty some
        · exact absurd (made.symm.trans empty) (autoId_ne_empty n)
      · intro shown
        rw [get?_of_erase (erase_of_bodyOf plain)] at shown
        cases shown
    | batch requests =>
      rw [act] at stores
      constructor
      · rintro rfl
        refine ⟨request, mem, requests, act, ?_⟩
        rcases stores with upsert | ⟨-, n, made⟩
        · exact upsert
        · exact absurd made.symm (autoId_ne_empty n)
      · intro shown
        have entry : ∃ entry ∈ requests, entry.left = some source := by
          rcases stores with upsert | ⟨create, -⟩
          · exact ⟨_, upsert, rfl⟩
          · exact ⟨_, create, rfl⟩
        refine ⟨request, mem, requests, act, stores.symm.imp_left And.left, ?_⟩
        -- Reading would have taken the attribute away.
        intro written read
        obtain ⟨entry, listed, left⟩ := entry
        rw [get?_of_erase (BatchRequest.erase_of_readAll read listed left)] at shown
        cases shown
    | get _ | getMany _ | delete _ | query _ | saveSettings _ | getSettings | moveTo _ | drop | stats =>
      rw [act] at stores
      cases stores

/-- The document of an entry without an id is traced back to it. -/
theorem empty_id_traced_to_entry :
    (empty.after [.atEpoch "a" "b" (.batch [.upsert "" [("x", .bool true)]])]).document? "a_b_1970.1.1.0" "" =
        some [("x", .bool true)] ∧
      ∃ request ∈ [Request.atEpoch "a" "b" (.batch [.upsert "" [("x", .bool true)]])],
        ∃ requests, request.act = .batch requests ∧ .upsert "" [("x", .bool true)] ∈ requests := by
  have found : (empty.after [.atEpoch "a" "b" (.batch [.upsert "" [("x", .bool true)]])]).document?
      "a_b_1970.1.1.0" "" = some [("x", .bool true)] := by rfl
  exact ⟨found, (unidentified_only_by_batch found).1 rfl⟩

/-- An entry with an empty id is read from a request and stored, and so is an entry that is built with an
`objectID` in its body. -/
theorem unidentified_entries_are_stored :
    BatchRequest.readAll (.arr [.obj [(some "action", .str "upsert"), (some "objectID", .str ""),
        (some "body", .obj [(some "x", .bool true)])]]) = .ok [.upsert "" [("x", .bool true)]] ∧
      (empty.after [.atEpoch "a" "b" (.batch [.upsert "" [("x", .bool true)]])]).document? "a_b_1970.1.1.0" "" =
        some [("x", .bool true)] ∧
      (empty.after [.atEpoch "a" "b" (.batch [.create [("objectID", .str "1")]])]).document? "a_b_1970.1.1.0"
        "auto-1" = some [("objectID", .str "1")] := by
  refine ⟨?_, ?_, ?_⟩ <;> rfl

end Memory

end SearchTenancy

import SearchTenancy.Proofs.Tenant.Runs
import SearchTenancy.Proofs.Tenant.Tables

/-!
# The in-memory backend refines the abstract store

In sequential runs every alias stands for one generation, and every made-up id is new to
the table that it is used in (`Memory.Tabular`). Each request is then a step of the store
(`Tabular.refines`, with one lemma for each kind of act), and a run of requests is a run
of the store (`Memory.run_refines_store`).
-/

namespace SearchTenancy

open Operation

/-- The ids that an act stores documents under. -/
def Act.upserted : Act → List String
  | put objectId _ => objectId.toList
  | batch requests => requests.filterMap fun
    | .upsert objectId _ => some objectId
    | _ => none
  | _ => []

/-- The number of ids that an act has made up before it stores documents under given ones. -/
def Act.created : Act → Nat
  | batch requests => (BulkPayload.group requests .create).length
  | _ => 0

namespace Memory

variable {memory : Memory} {request : Request}

/-- A request stores nothing under an id that is still to be made up, and is not made through the name
of a generation. -/
structure Careful (memory : Memory) (request : Request) : Prop where
  unshadowed : memory.indices.contains request.index.physical = false
  known : ∀ objectId ∈ request.act.upserted, ∀ n, objectId = autoId n → n ≤ memory.nextId + request.act.created

/-- A request is a step of the store: it is answered as the store allows, and leaves what the store
allows. -/
def Refines (memory : Memory) (request : Request) : Prop :=
  Store.Step request.index request.now memory.toStore request.act (memory.answer request)
      (memory.next request).toStore ∧
    (memory.next request).Tabular

theorem refines_of_run {index : TenantIndex} {now : Instant} {act : Act} {result : Except SearchError act.Answer}
    {left : Memory} (run : runOn step (act.operation index now) memory = (result, left))
    (step : Store.Step index now memory.toStore act result left.toStore) (tabular : left.Tabular) :
    memory.Refines ⟨index, now, act⟩ := by
  unfold Refines answer next
  rw [show runOn Memory.step (Request.operation ⟨index, now, act⟩) memory = (result, left) from run]
  exact ⟨step, tabular⟩

variable {index : TenantIndex} {now : Instant}

theorem erase_of_bodyOf {value : Json} {body : Members} (read : IndexedObject.bodyOf value = .ok body) :
    Entries.erase body objectIdAttribute = body := by
  unfold IndexedObject.bodyOf at read
  split at read
  · cases read
    simp [Entries.erase]
  · cases read

/-- A body that has been checked has no id of its own any more. -/
theorem erase_of_checkedBody {objectId : Option String} {value : Json} {body : Members}
    (checked : TenantIndex.checkedBody objectId value = .ok body) : Entries.erase body objectIdAttribute = body := by
  unfold TenantIndex.checkedBody at checked
  split at checked
  · cases checked
  · cases read : IndexedObject.bodyOf value with
    | error flaw =>
      rw [read] at checked
      cases checked
    | ok plain =>
      rw [read] at checked
      cases checked
      exact erase_of_bodyOf read

theorem Tabular.refines_put (h : memory.Tabular) (sound : memory.Sound) {objectId : Option String} {value : Json}
    (careful : memory.Careful ⟨index, now, .put objectId value⟩) :
    memory.Refines ⟨index, now, .put objectId value⟩ := by
  rcases index.runOn_putObject now sound.consistent objectId value with
    ⟨error, failed, run⟩ | ⟨body, ready, concrete, checked, made, resolved, run⟩
  · exact refines_of_run run ⟨failed.imp_right Blocked.toStore, rfl⟩ h
  · have tabular := h.made made
    cases objectId with
    | none =>
      obtain ⟨unused, stored, counted⟩ := store_none tabular.counted concrete body
      rw [erase_of_checkedBody checked] at stored
      exact refines_of_run run ⟨concrete, _, made.toStore resolved, checked, .inr ⟨rfl, unused⟩, stored⟩
        (tabular.inside (.store ..) counted)
    | some objectId =>
      have known : ∀ n, objectId = autoId n → n ≤ ready.nextId := by
        rw [made.nextId_eq]
        exact careful.known objectId (by simp [Act.upserted])
      obtain ⟨stored, counted⟩ := store_some tabular.counted concrete objectId body known
      rw [erase_of_checkedBody checked] at stored
      exact refines_of_run run ⟨concrete, _, made.toStore resolved, checked, .inl rfl, stored⟩
        (tabular.inside (.store ..) counted)

theorem Tabular.refines_delete (h : memory.Tabular) {objectId : String}
    (unshadowed : memory.indices.contains index.physical = false) :
    memory.Refines ⟨index, now, .delete objectId⟩ := by
  have run := index.runOn_deleteObject memory objectId
  rw [resolve_eq_pointer unshadowed] at run
  cases pointed : memory.toStore.pointer index.physical with
  | none =>
    rw [pointed] at run
    refine refines_of_run run ?_ h
    unfold Store.Step
    rw [pointed]
    exact ⟨rfl, rfl⟩
  | some key =>
    simp only [pointed] at run
    by_cases there : (memory.document? key objectId).isSome
    · rw [if_pos there] at run
      refine refines_of_run run ?_ (h.inside (.modify ..) (h.counted.remove key objectId))
      unfold Store.Step
      simp only [pointed, entry?_toStore, Option.isSome_map, there, if_true]
      exact ⟨trivial, toStore_remove memory key objectId⟩
    · rw [if_neg there] at run
      refine refines_of_run run ?_ h
      unfold Store.Step
      simp only [pointed, entry?_toStore, Option.isSome_map, there]
      exact ⟨trivial, trivial⟩

theorem Tabular.refines_get (h : memory.Tabular) {objectId : String}
    (unshadowed : memory.indices.contains index.physical = false) :
    memory.Refines ⟨index, now, .get objectId⟩ := by
  refine refines_of_run (index.runOn_getObject memory objectId) ⟨?_, rfl⟩ h
  unfold Store.get
  rw [resolve_eq_pointer unshadowed]
  cases memory.toStore.pointer index.physical with
  | none => rfl
  | some key =>
    simp only [entry?_toStore]
    cases memory.document? key objectId <;> rfl

theorem Tabular.refines_batch (h : memory.Tabular) (sound : memory.Sound) {requests : List BatchRequest}
    (careful : memory.Careful ⟨index, now, .batch requests⟩) : memory.Refines ⟨index, now, .batch requests⟩ := by
  rcases index.runOn_batch now sound.consistent requests with
    ⟨none, run⟩ | ⟨writes, blocked, error, run⟩ | ⟨-, deletesOnly, unset, run⟩ | ⟨-, ready, concrete, made, deletes, resolved, run⟩
  · exact refines_of_run run (.inl ⟨none, rfl, rfl⟩) h
  · refine refines_of_run run ⟨?_, rfl⟩ h
    rw [if_pos writes]
    exact blocked.toStore
  · refine refines_of_run run ⟨?_, rfl⟩ h
    rw [if_neg (by simp [deletesOnly])]
    exact ⟨pointer_of_unset unset, rfl⟩
  · have tabular := h.made made
    obtain ⟨applies, counted⟩ := applies_ordered tabular.counted concrete requests
      fun objectId body mem n same => by
        rw [made.nextId_eq]
        refine careful.known objectId (List.mem_filterMap.2 ⟨_, mem, rfl⟩) n same
    refine refines_of_run run (.inr ⟨concrete, _, _, made.toStore resolved, fun none => ?_, applies, rfl⟩)
      (tabular.inside (.applyEntries ..) counted)
    rw [deletes none]

theorem Tabular.refines_saveSettings (h : memory.Tabular) (sound : memory.Sound) {spec : SettingsSpec} :
    memory.Refines ⟨index, now, .saveSettings spec⟩ := by
  rcases index.runOn_saveSettings now sound spec with
    ⟨blocked, error, run⟩ | ⟨ready, concrete, content, change, made, resolved, found, settles, run⟩
  · exact refines_of_run run ⟨blocked.toStore, rfl⟩ h
  · have tabular := h.made made
    refine refines_of_run run ⟨concrete, ?_⟩ (tabular.inside (.modify ..) ?_)
    · rw [toStore_settled ready concrete found settles.documents]
      exact made.toStore resolved
    · refine tabular.counted.modify concrete fun other found' n there => .inl ?_
      rw [found] at found'
      cases found'
      rwa [settles.documents] at there

theorem Tabular.refines_moveTo (h : memory.Tabular) (consistent : memory.Consistent) {destination : String} :
    memory.Refines ⟨index, now, .moveTo destination⟩ := by
  have run := index.runOn_moveTo consistent destination
  cases found : memory.aliases.get? index.physical with
  | none =>
    rw [found] at run
    refine refines_of_run run ?_ h
    unfold Store.Step
    rw [pointer_of_unset found]
    exact ⟨rfl, rfl⟩
  | some behind =>
    obtain ⟨key, keys, pointed⟩ := h.exists_pointer found
    rw [found] at run
    refine refines_of_run run ?_ (h.point _ keys)
    unfold Store.Step
    rw [pointed]
    exact ⟨rfl, toStore_point memory _ keys⟩

theorem Tabular.refines_drop (h : memory.Tabular) (consistent : memory.Consistent) :
    memory.Refines ⟨index, now, .drop⟩ := by
  have run := index.runOn_drop consistent
  cases found : memory.aliases.get? index.physical with
  | none =>
    rw [found] at run
    refine refines_of_run run ?_ h
    unfold Store.Step
    rw [pointer_of_unset found]
    exact ⟨rfl, rfl⟩
  | some behind =>
    obtain ⟨key, keys, pointed⟩ := h.exists_pointer found
    simp only [found, keys] at run
    refine refines_of_run run ?_ (h.without consistent key)
    unfold Store.Step
    rw [pointed]
    exact ⟨rfl, h.toStore_without consistent key⟩

/-- Every careful request is a step of the store. -/
theorem Tabular.refines (h : memory.Tabular) (sound : memory.Sound) (careful : memory.Careful request) :
    memory.Refines request := by
  obtain ⟨index, now, act⟩ := request
  have unshadowed := careful.unshadowed
  have reads (is : act.isRead) : memory.next ⟨index, now, act⟩ = memory := next_of_isRead memory is
  cases act with
  | put objectId value => exact h.refines_put sound careful
  | delete objectId => exact h.refines_delete unshadowed
  | get objectId => exact h.refines_get unshadowed
  | batch requests => exact h.refines_batch sound careful
  | saveSettings spec => exact h.refines_saveSettings sound
  | moveTo destination => exact h.refines_moveTo sound.consistent
  | drop => exact h.refines_drop sound.consistent
  | getMany _ | query _ | getSettings | stats =>
    unfold Refines
    rw [reads rfl]
    exact ⟨rfl, h⟩

theorem Tabular.run (h : memory.Tabular) (sound : memory.Sound) {run : List Request}
    (careful : ∀ met request, (met, request) ∈ memory.history run → met.Careful request) :
    Store.Run memory.toStore (memory.trace run) (memory.after run).toStore := by
  induction run generalizing memory with
  | nil => rfl
  | cons request rest ih =>
    -- One request is one step, and leaves a state from which the rest is a run.
    obtain ⟨step, tabular⟩ := h.refines sound (careful memory request List.mem_cons_self)
    refine ⟨(memory.next request).toStore, step, ?_⟩
    exact ih tabular (sound.next request) fun met other mem => careful met other (List.mem_cons_of_mem _ mem)

/-- A sequential run that is careful is a run of the abstract store from the empty store. -/
theorem run_refines_store {run : List Request}
    (careful : ∀ met request, (met, request) ∈ empty.history run → met.Careful request) :
    Store.Run .empty (empty.trace run) (empty.after run).toStore := by
  rw [← toStore_empty]
  exact tabular_empty.run sound_empty careful

/-- A run that makes up an id, moves the index, and upserts the id through the new name. -/
theorem moved_run_refines_store :
    Store.Run .empty
      (empty.trace [.atEpoch "a" "b" (.put none (.obj [("x", .bool true)])), .atEpoch "a" "b" (.moveTo "c"),
        .atEpoch "a" "c" (.put (some "auto-1") (.obj [("x", .bool false)])), .atEpoch "a" "b" (.get "auto-1")])
      (empty.after [.atEpoch "a" "b" (.put none (.obj [("x", .bool true)])), .atEpoch "a" "b" (.moveTo "c"),
        .atEpoch "a" "c" (.put (some "auto-1") (.obj [("x", .bool false)])),
        .atEpoch "a" "b" (.get "auto-1")]).toStore := by
  refine run_refines_store fun met request mem => ?_
  simp only [history, List.mem_cons, Prod.mk.injEq, List.not_mem_nil, or_false] at mem
  rcases mem with ⟨rfl, rfl⟩ | ⟨rfl, rfl⟩ | ⟨rfl, rfl⟩ | ⟨rfl, rfl⟩
  · exact ⟨by rfl, fun _ mem => nomatch mem⟩
  · exact ⟨by rfl, fun _ mem => nomatch mem⟩
  · refine ⟨by rfl, fun objectId mem n same => ?_⟩
    cases List.mem_singleton.1 mem
    cases autoId_inj (show autoId 1 = autoId n from same)
    exact Nat.le_refl 1
  · exact ⟨by rfl, fun _ mem => nomatch mem⟩

end Memory

end SearchTenancy

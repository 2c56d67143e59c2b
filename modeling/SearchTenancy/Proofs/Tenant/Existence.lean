import SearchTenancy.Proofs.Tenant.Runs

/-!
# Indices that were never written

An index exists while an alias is called by its physical id, and only a write through
that id or a move to it makes one. So an index whose physical id was never written to is
not found (`unwritten_not_found`).

The physical id counts, not the pair of tenant and name: pairs that are joined to one id
are one index, and a name may be that of a generation (`pairs_are_not_kept_apart`).
-/

namespace SearchTenancy

open Operation

namespace Act

/-- Whether the act creates the storage of its index if there is none. -/
def isWrite : Act → Bool
  | put _ _ | saveSettings _ => true
  | batch requests => requests.any BatchRequest.isWrite
  | _ => false

/-- Whether the act asks for the alias of its index, and needs it. -/
def needsAlias : Act → Bool
  | batch requests => !requests.isEmpty && !requests.any BatchRequest.isWrite
  | moveTo _ | drop | stats => true
  | _ => false

/-- Whether the act needs something that its index is resolved to, be it without an alias. -/
def needsIndex : Act → Bool
  | get _ | delete _ | query _ | getSettings => true
  | getMany objectIds => !objectIds.isEmpty
  | _ => false

end Act

/-- The request makes storage for a physical id, or makes an alias of that id stand for some. -/
def Request.Makes (request : Request) (physical : String) : Prop :=
  request.act.isWrite ∧ request.index.physical = physical ∨
    ∃ destination, request.act = .moveTo destination ∧ physicalId request.index.tenant destination = physical

namespace Memory

variable {memory after : Memory} {index : TenantIndex} {now : Instant} {physical : String}

/-- An alias that is missing is still missing after a change that does not make it. -/
theorem Change.unset (h : memory.Sound) (unset : memory.aliases.get? physical = none) {act : Act}
    (makes : ¬ (⟨index, now, act⟩ : Request).Makes physical) (change : Change memory index now act after) :
    after.aliases.get? physical = none := by
  have ready {ready : Memory} (made : Ready memory index.physical now ready)
      (other : index.physical ≠ physical ∨ ready = memory) : ready.aliases.get? physical = none := by
    cases made with
    | there _ => exact unset
    | created missing unused =>
      rcases other with other | same
      · rw [provision_aliases missing, if_neg other]
        exact unset
      · rw [same]
        exact unset
  have other (writes : act.isWrite) : index.physical ≠ physical := fun same => makes (.inl ⟨writes, same⟩)
  cases change with
  | put objectId value body made resolved =>
    rw [(ChangesOnly.store ..).aliases]
    exact ready made (.inl (other rfl))
  | @batch _ _ requests made resolved deletes =>
    rw [(ChangesOnly.applyEntries ..).aliases]
    refine ready made ?_
    -- A batch without writes has not made anything ready.
    cases writes : requests.any BatchRequest.isWrite with
    | false => exact .inr (deletes writes)
    | true => exact .inl (other writes)
  | delete objectId resolved =>
    rw [(ChangesOnly.modify ..).aliases]
    exact unset
  | save made resolved found settles =>
    rw [(ChangesOnly.modify ..).aliases]
    exact ready made (.inl (other rfl))
  | move destination found =>
    have elsewhere : physicalId index.tenant destination ≠ physical := by
      intro same
      exact makes (.inr ⟨destination, rfl, same⟩)
    simpa [elsewhere] using unset
  | @drop behind found =>
    -- Deletions only take indices from aliases.
    rw [← Option.not_isSome_iff_eq_none, (h.consistent.without behind.keys).isSome_iff]
    rintro ⟨generation, stands⟩
    have stood := ((without_standsFor h.consistent behind.keys physical generation).1 stands).1
    have there := (h.consistent.isSome_iff physical).2 ⟨generation, stood⟩
    rw [unset] at there
    cases there

/-- An alias that no successful request of a run makes is missing after the run. -/
theorem unset_after (h : memory.Sound) (unset : memory.aliases.get? physical = none) {run : List Request}
    (untouched : ∀ met request, (met, request) ∈ memory.history run → met.Succeeds request →
      ¬ request.Makes physical) : (memory.after run).aliases.get? physical = none := by
  induction run generalizing memory with
  | nil => exact unset
  | cons request rest ih =>
    refine ih (h.next request) ?_ fun met other mem => untouched met other (List.mem_cons_of_mem _ mem)
    rcases next_cases h request with same | ⟨succeeds, change⟩
    · rw [same]
      exact unset
    · exact change.unset h unset (untouched memory request List.mem_cons_self succeeds)

/-! ## Answers without an alias -/

/-- What asks for the alias of an index does not find the index without it. -/
theorem answer_of_needsAlias (h : memory.Consistent) (unset : memory.aliases.get? index.physical = none) {act : Act}
    (needs : act.needsAlias) : memory.answer ⟨index, now, act⟩ = .error (.indexNotFound index.physical) := by
  cases act with
  | stats =>
    have required := runOn_requireExists h index.physical
    rw [unset] at required
    exact congrArg Prod.fst (runOn_bind_error step memory required)
  | moveTo destination =>
    have run := index.runOn_moveTo h destination
    rw [unset] at run
    exact congrArg Prod.fst run
  | drop =>
    have run := index.runOn_drop h
    rw [unset] at run
    exact congrArg Prod.fst run
  | batch requests =>
    simp only [Act.needsAlias, Bool.and_eq_true, Bool.not_eq_true', List.isEmpty_eq_false_iff] at needs
    rcases index.runOn_batch now h requests with
      ⟨none, -⟩ | ⟨writes, -⟩ | ⟨-, -, -, run⟩ | ⟨-, ready, concrete, made, deletes, -, -⟩
    · exact absurd none needs.1
    · rw [needs.2] at writes
      cases writes
    · exact congrArg Prod.fst run
    · -- Storage that is ready without a write was there before.
      obtain ⟨behind, found⟩ := made.exists_behind
      rw [deletes needs.2, unset] at found
      cases found
  | put _ _ | get _ | getMany _ | delete _ | query _ | saveSettings _ | getSettings => cases needs

/-- What needs an index does not find one under a name that is not resolved. -/
theorem answer_of_needsIndex (missing : memory.resolve index.physical = none) {act : Act} (needs : act.needsIndex) :
    memory.answer ⟨index, now, act⟩ = .error (.indexNotFound index.physical) := by
  cases act with
  | get objectId =>
    have run := index.runOn_getObject memory objectId
    rw [missing] at run
    exact congrArg Prod.fst run
  | delete objectId =>
    have run := index.runOn_deleteObject memory objectId
    rw [missing] at run
    exact congrArg Prod.fst run
  | getSettings =>
    exact congrArg Prod.fst (runOn_bind_error step memory (TenantIndex.runOn_readMapping_missing missing))
  | query request =>
    exact congrArg Prod.fst (runOn_bind_error step memory (TenantIndex.runOn_readMapping_missing missing))
  | getMany objectIds =>
    have some : objectIds.isEmpty = false := by simpa [Act.needsIndex] using needs
    have searched (body : Json) : memory.search index.physical body .strict = .error (missingIndex index.physical) := by
      unfold search resolveOrMissing
      rw [missing]
      split <;> rfl
    show (runOn step (index.getObjects objectIds) memory).1 = _
    unfold TenantIndex.getObjects
    simp only [some, Bool.false_eq_true, if_false, runOn_bind, TenantIndex.call, Operation.call, runOn_mk_call, step,
      searched]
    rfl
  | put _ _ | batch _ | saveSettings _ | moveTo _ | drop | stats => cases needs

/-! ## Runs -/

/-- An index whose physical id was never written to nor moved to is not found by what asks for its alias.
Nothing else finds it either, unless a generation that exists is called by that id. -/
theorem unwritten_not_found {run : List Request}
    (untouched : ∀ met request, (met, request) ∈ empty.history run → met.Succeeds request →
      ¬ request.Makes index.physical) (now : Instant) :
    (∀ act : Act, act.needsAlias →
      (empty.after run).answer ⟨index, now, act⟩ = .error (.indexNotFound index.physical)) ∧
    ((empty.after run).indices.contains index.physical = false → ∀ act : Act, act.needsIndex →
      (empty.after run).answer ⟨index, now, act⟩ = .error (.indexNotFound index.physical)) := by
  have unset := unset_after sound_empty rfl untouched
  refine ⟨fun act needs => answer_of_needsAlias (sound_empty.after run).consistent unset needs, ?_⟩
  intro nameless act needs
  refine answer_of_needsIndex ?_ needs
  simp [resolve, unset, nameless]

/-- A document of one index does not make another one. -/
theorem unwritten_among_others :
    (empty.after [.atEpoch "a" "b" (.put (some "1") (.obj [("x", .bool true)]))]).answer (.atEpoch "a" "c" .drop) =
        .error (.indexNotFound "a_c") ∧
      (empty.after [.atEpoch "a" "b" (.put (some "1") (.obj [("x", .bool true)]))]).answer (.atEpoch "a" "c" (.get "1")) =
        .error (.indexNotFound "a_c") := by
  have untouched : ∀ met request,
      (met, request) ∈ empty.history [.atEpoch "a" "b" (.put (some "1") (.obj [("x", .bool true)]))] →
      met.Succeeds request → ¬ request.Makes (physicalId "a" "c") := by
    intro met request mem _
    cases List.mem_singleton.1 mem
    rintro (⟨_, same⟩ | ⟨destination, moves, _⟩)
    · exact absurd same (by decide)
    · cases moves
  obtain ⟨aliased, resolved⟩ := @unwritten_not_found ⟨.default, "a", "c"⟩ _ untouched .epoch
  exact ⟨aliased .drop rfl, resolved (by rfl) (.get "1") rfl⟩

/-- The run has no successful write through the pair of a tenant and a name, and no move of the tenant to
the name. -/
def NeverWritten (run : List Request) (tenant name : String) : Prop :=
  ∀ met request, (met, request) ∈ empty.history run →
    ¬ (met.Succeeds request ∧ request.act.isWrite ∧ request.index.tenant = tenant ∧ request.index.name = name) ∧
    ¬ (request.act = .moveTo name ∧ request.index.tenant = tenant)

/-- A pair that was never written is found if it is joined to the physical id of another pair, or to the
name of a generation. -/
theorem pairs_are_not_kept_apart :
    (NeverWritten [.atEpoch "a" "b_c" (.put (some "1") (.obj [("x", .bool true)]))] "a_b" "c" ∧
      (empty.after [.atEpoch "a" "b_c" (.put (some "1") (.obj [("x", .bool true)]))]).answer
        (.atEpoch "a_b" "c" (.get "1")) = .ok (.obj [("objectID", .str "1"), ("x", .bool true)])) ∧
    NeverWritten [.atEpoch "a" "b" (.put (some "1") (.obj [("x", .bool true)]))] "a" "b_1970.1.1.0" ∧
      (empty.after [.atEpoch "a" "b" (.put (some "1") (.obj [("x", .bool true)]))]).answer
        (.atEpoch "a" "b_1970.1.1.0" (.get "1")) = .ok (.obj [("objectID", .str "1"), ("x", .bool true)]) := by
  refine ⟨⟨?_, by rfl⟩, ?_, by rfl⟩
  · intro met request mem
    cases List.mem_singleton.1 mem
    refine ⟨fun ⟨_, _, tenant, _⟩ => ?_, fun ⟨moves, _⟩ => ?_⟩
    · exact absurd tenant (by decide)
    · cases moves
  · intro met request mem
    cases List.mem_singleton.1 mem
    refine ⟨fun ⟨_, _, _, name⟩ => ?_, fun ⟨moves, _⟩ => ?_⟩
    · exact absurd name (by decide)
    · cases moves

end Memory

end SearchTenancy

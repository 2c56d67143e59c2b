import SearchTenancy.Proofs.Memory.Growth
import SearchTenancy.Proofs.Tenant.Requests

/-!
# What runs keep

`next_cases` sums up the operations: a request leaves the state as it is, or it
succeeds and makes one of six changes (`Memory.Change`). The invariants here are case
analyses over those six, lifted to runs. A property of schemas that growing and
settling keep holds of every mapping after every run (`Every.after`).
-/

namespace SearchTenancy

open Operation

namespace Memory

/-- What a request that succeeds can change. -/
inductive Change (memory : Memory) (index : TenantIndex) (now : Instant) : Act → Memory → Prop where
  | put {ready : Memory} {concrete : String} (objectId : Option String) (value : Json) (body : Members)
      (made : Ready memory index.physical now ready) (resolved : ready.resolve index.physical = some concrete) :
      Change memory index now (.put objectId value) (ready.store concrete objectId body).2
  | batch {ready : Memory} {concrete : String} {requests : List BatchRequest}
      (made : Ready memory index.physical now ready) (resolved : ready.resolve index.physical = some concrete)
      (deletes : requests.any BatchRequest.isWrite = false → ready = memory) :
      Change memory index now (.batch requests) (applyEntries concrete (BulkPayload.ordered requests) ready).2
  | delete {concrete : String} (objectId : String) (resolved : memory.resolve index.physical = some concrete) :
      Change memory index now (.delete objectId) (memory.modify concrete (·.remove objectId))
  | save {ready : Memory} {concrete : String} {content : StoredIndex} {spec : SettingsSpec}
      {change : StoredIndex → StoredIndex} (made : Ready memory index.physical now ready)
      (resolved : ready.resolve index.physical = some concrete) (found : ready.indices.get? concrete = some content)
      (settles : StoredIndex.Settles index.config.keywordSubfield spec content (change content)) :
      Change memory index now (.saveSettings spec) (ready.modify concrete change)
  | move {behind : Names} (destination : String) (found : memory.aliases.get? index.physical = some behind) :
      Change memory index now (.moveTo destination)
        { memory with aliases := memory.aliases.insert (physicalId index.tenant destination) behind }
  | drop {behind : Names} (found : memory.aliases.get? index.physical = some behind) :
      Change memory index now .drop (memory.without behind.keys)

/-- Whether a request succeeds. -/
def Succeeds (memory : Memory) (request : Request) : Prop := ∃ answer, memory.answer request = .ok answer

/-- A request leaves the state as it is, or it succeeds and makes a change. -/
theorem next_cases {memory : Memory} (h : memory.Sound) (request : Request) :
    memory.next request = memory ∨
      memory.Succeeds request ∧ Change memory request.index request.now request.act (memory.next request) := by
  obtain ⟨index, now, act⟩ := request
  have same {result : Except SearchError act.Answer}
      (run : runOn step (act.operation index now) memory = (result, memory)) :
      memory.next ⟨index, now, act⟩ = memory := congrArg Prod.snd run
  have changed {answer : act.Answer} {left : Memory}
      (run : runOn step (act.operation index now) memory = (.ok answer, left))
      (change : Change memory index now act left) :
      memory.Succeeds ⟨index, now, act⟩ ∧ Change memory index now act (memory.next ⟨index, now, act⟩) := by
    have next : memory.next ⟨index, now, act⟩ = left := congrArg Prod.snd run
    rw [next]
    exact ⟨⟨answer, congrArg Prod.fst run⟩, change⟩
  cases act with
  | get _ | getMany _ | query _ | getSettings | stats => exact .inl (next_of_isRead memory rfl)
  | put objectId value =>
    rcases index.runOn_putObject now h.consistent objectId value with
      ⟨error, -, run⟩ | ⟨body, ready, concrete, -, made, resolved, run⟩
    · exact .inl (same run)
    · exact .inr (changed run (.put objectId value body made resolved))
  | delete objectId =>
    have run := index.runOn_deleteObject memory objectId
    cases resolved : memory.resolve index.physical with
    | none =>
      rw [resolved] at run
      exact .inl (same run)
    | some concrete =>
      by_cases there : (memory.document? concrete objectId).isSome
      · simp only [resolved, there, if_true] at run
        exact .inr (changed run (.delete objectId resolved))
      · simp only [resolved, there] at run
        exact .inl (same run)
  | batch requests =>
    rcases index.runOn_batch now h.consistent requests with
      ⟨-, run⟩ | ⟨-, -, error, run⟩ | ⟨-, -, -, run⟩ | ⟨-, ready, concrete, made, deletes, resolved, run⟩
    · exact .inl (same run)
    · exact .inl (same run)
    · exact .inl (same run)
    · exact .inr (changed run (.batch made resolved deletes))
  | saveSettings spec =>
    rcases index.runOn_saveSettings now h spec with
      ⟨-, error, run⟩ | ⟨ready, concrete, content, change, made, resolved, found, settles, run⟩
    · exact .inl (same run)
    · exact .inr (changed run (.save made resolved found settles))
  | moveTo destination =>
    have run := index.runOn_moveTo h.consistent destination
    cases found : memory.aliases.get? index.physical with
    | none =>
      rw [found] at run
      exact .inl (same run)
    | some behind =>
      rw [found] at run
      exact .inr (changed run (.move destination found))
  | drop =>
    have run := index.runOn_drop h.consistent
    cases found : memory.aliases.get? index.physical with
    | none =>
      rw [found] at run
      exact .inl (same run)
    | some behind =>
      rw [found] at run
      exact .inr (changed run (.drop found))

/-! ## Mappings -/

/-- Every mapping is described by a schema with a property. -/
def Every (good : Schema → Prop) (memory : Memory) : Prop :=
  ∀ name content, memory.indices.get? name = some content →
    ∃ schema, Schema.Describes schema content.mappings ∧ good schema

variable {good : Schema → Prop} {memory ready : Memory} {index : TenantIndex} {now : Instant} {act : Act}

theorem Every.made (every : Every good memory) (fresh : good .empty) {physical : String}
    (made : Ready memory physical now ready) : Every good ready := by
  cases made with
  | there _ => exact every
  | created unset unused =>
    intro name content found
    rw [provision_indices] at found
    split at found
    · cases found
      exact ⟨.empty, Schema.describes_empty, fresh⟩
    · exact every name content found

theorem Every.feeds (every : Every good memory)
    (grows : ∀ before after, good before → Schema.Grows before after → good after)
    {concrete : String} {after : Memory} (fed : Feeds concrete memory after) : Every good after := by
  intro name content found
  by_cases same : name = concrete
  · subst same
    have there := fed.contains name
    rw [Dict.contains_eq, Dict.contains_eq, found] at there
    obtain ⟨before, found'⟩ := Option.isSome_iff_exists.1 there.symm
    obtain ⟨grown, found'', growth⟩ := fed.grows before found'
    obtain ⟨schema, described, fine⟩ := every name before found'
    obtain ⟨last, described', grew⟩ := growth schema described
    rw [found] at found''
    cases found''
    exact ⟨last, described', grows _ _ fine grew⟩
  · rw [fed.others name same] at found
    exact every name content found

/-- A property that growing and settling keep holds of every mapping after a change. -/
theorem Every.change (every : Every good memory) (fresh : good .empty)
    (grows : ∀ before after, good before → Schema.Grows before after → good after)
    (settles : ∀ spec before after, act = .saveSettings spec → good before →
      Schema.Settles spec before after → Schema.Equips index.config.keywordSubfield before after → good after)
    {after : Memory} (change : Change memory index now act after) : Every good after := by
  cases change with
  | put objectId value body made resolved => exact (every.made fresh made).feeds grows (.store ..)
  | batch made resolved deletes => exact (every.made fresh made).feeds grows (.applyEntries ..)
  | delete objectId resolved => exact every.feeds grows (.remove ..)
  | move destination found => exact every
  | drop found =>
    intro name content there
    rw [without_indices] at there
    split at there
    · cases there
    · exact every name content there
  | @save ready concrete content spec change made resolved found settled =>
    intro name other there
    simp only [modify, found, Dict.get?_insert] at there
    split at there
    · cases there
      obtain ⟨schema, described, fine⟩ := every.made fresh made concrete content found
      obtain ⟨after, described', changed, equips⟩ := settled.schemas schema described
      exact ⟨after, described', settles spec _ _ rfl fine changed equips⟩
    · exact every.made fresh made name other there

/-! ## Growing states -/

theorem Ready.grows {physical : String} (made : Ready memory physical now ready) : Grows memory ready := by
  cases made with
  | there _ => exact .refl memory
  | created unset unused =>
    refine ⟨fun name behind found => ?_, fun name content found => ⟨content, ?_, .refl content⟩⟩
    · have other : physical ≠ name := by
        rintro rfl
        rw [unset] at found
        cases found
      rw [provision_aliases unset, if_neg other]
      exact found
    · have other : generationName physical now ≠ name := by
        rintro rfl
        simp [Dict.contains_eq, found] at unused
      rw [provision_indices, if_neg other]
      exact found

end Memory

/-- Whether an act may change settings or what a name stands for, other than by creating storage. -/
def Act.isAdministrative : Act → Bool
  | saveSettings _ | moveTo _ | drop => true
  | _ => false

namespace Memory

variable {good : Schema → Prop} {memory : Memory}

/-- Requests about documents make a state grow. -/
theorem Sound.grows (h : memory.Sound) {request : Request} (documents : request.act.isAdministrative = false) :
    Grows memory (memory.next request) := by
  rcases next_cases h request with same | ⟨-, change⟩
  · rw [same]
    exact .refl memory
  · revert documents change
    generalize request.act = act
    generalize memory.next request = after
    intro documents change
    cases change with
    | put objectId value body made resolved => exact made.grows.trans (Feeds.store ..).toGrows
    | batch made resolved deletes => exact made.grows.trans (Feeds.applyEntries ..).toGrows
    | delete objectId resolved => exact (Feeds.remove ..).toGrows
    | save _ _ _ _ | move _ _ | drop _ => cases documents

/-! ## Runs -/

theorem Sound.next (h : memory.Sound) (request : Request) : (memory.next request).Sound := by
  refine ⟨h.consistent.run _, ?_⟩
  rcases next_cases h request with same | ⟨-, change⟩
  · rw [same]
    exact h.described
  · have every : Every (fun _ => True) memory := fun name content found => by simpa using h.described name content found
    have kept := every.change trivial (fun _ _ _ _ => trivial) (fun _ _ _ _ _ _ _ => trivial) change
    exact fun name content found => (kept name content found).imp fun _ described => described.1

theorem Sound.after (h : memory.Sound) (run : List Request) : (memory.after run).Sound := by
  induction run generalizing memory with
  | nil => exact h
  | cons request rest ih => exact ih (h.next request)

theorem Sound.grows_after (h : memory.Sound) {run : List Request}
    (documents : ∀ request ∈ run, request.act.isAdministrative = false) : Grows memory (memory.after run) := by
  induction run generalizing memory with
  | nil => exact .refl memory
  | cons request rest ih =>
    have first := h.grows (documents request List.mem_cons_self)
    exact first.trans (ih (h.next request) fun other mem => documents other (List.mem_cons_of_mem _ mem))

/-- A property that growing keeps, and settling for every spec of the run, holds after the run. -/
theorem Every.after (h : memory.Sound) (every : Every good memory) (fresh : good .empty)
    (grows : ∀ before after, good before → Schema.Grows before after → good after) {run : List Request}
    (settles : ∀ request ∈ run, ∀ spec before after, request.act = .saveSettings spec → good before →
      Schema.Settles spec before after → Schema.Equips request.index.config.keywordSubfield before after →
      good after) :
    Every good (memory.after run) := by
  induction run generalizing memory with
  | nil => exact every
  | cons request rest ih =>
    refine ih (h.next request) ?_ fun other mem => settles other (List.mem_cons_of_mem _ mem)
    rcases next_cases h request with same | ⟨-, change⟩
    · rw [same]
      exact every
    · exact every.change fresh grows (settles request List.mem_cons_self) change

/-! ## Failures -/

/-- A request that fails leaves no trace: the state is as it was, and whatever is requested later goes on as if
the request had not been made. -/
theorem failed_without_trace {run : List Request} {request : Request} {error : SearchError}
    (failed : (empty.after run).answer request = .error error) :
    (empty.after run).next request = empty.after run ∧
      ∀ later, empty.after (run ++ request :: later) = empty.after (run ++ later) := by
  have same : (empty.after run).next request = empty.after run := by
    rcases next_cases (sound_empty.after run) request with same | ⟨⟨answer, succeeded⟩, -⟩
    · exact same
    · rw [failed] at succeeded
      cases succeeded
  refine ⟨same, ?_⟩
  intro later
  unfold after at same ⊢
  rw [List.foldl_append, List.foldl_append, List.foldl_cons, same]

/-- A generation that no alias stands for any more: another one was moved in front of it, and then dropped. -/
def orphaningRun : List Request :=
  [.atEpoch "a" "b" (.put (some "1") .empty), .atEpoch "a" "c" (.put (some "1") .empty),
    .atEpoch "a" "c" (.moveTo "b"), .atEpoch "a" "b" .drop]

/-- The name of new storage may be taken. The write fails after the look-up of the alias, and nothing has
changed. -/
theorem blocked_write_without_trace :
    (∃ error, (empty.after orphaningRun).answer (.atEpoch "a" "b" (.put (some "2") .empty)) = .error error) ∧
      (empty.after orphaningRun).next (.atEpoch "a" "b" (.put (some "2") .empty)) = empty.after orphaningRun := by
  have failed : ∃ error, (empty.after orphaningRun).answer (.atEpoch "a" "b" (.put (some "2") .empty)) =
      .error error := ⟨_, by rfl⟩
  obtain ⟨error, refused⟩ := failed
  exact ⟨⟨error, refused⟩, (failed_without_trace refused).1⟩

end Memory

end SearchTenancy

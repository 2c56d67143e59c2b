import SearchTenancy.Proofs.Conversation
import SearchTenancy.Proofs.Tenant.Existence

/-!
# What is asked of a backend, and when

The rules that the calls of every request follow, whatever the backend replies
(`Disciplined`, `calls_are_disciplined`). Reads only read. Storage is created by writes
only, and only right after the backend has answered that there is none. The call that
changes documents, settings or the alias table is the last one, and nothing is called
after a failure either.

The invariant of a conversation that goes on is `Calm`: nothing has been changed yet, and no call
has failed but for look-ups of aliases that need not be there. Each operation keeps it up
to its last call.
-/

namespace SearchTenancy

open Operation

/-- Whether a call changes documents, settings, or what aliases stand for. -/
def Call.isUpdate : Call → Bool
  | aliasesUpdate _ | documentIndex _ _ _ | documentDelete _ _ | bulk _ _ | mappingPut _ _ => true
  | _ => false

/-- Whether a call is made to create storage. -/
def Call.isProvision : Call → Bool
  | indexCreate _ | aliasPut _ _ => true
  | _ => false

/-- The answer says that there is no alias of that name: it is reported as missing, or nothing is behind it. -/
inductive Exchange.Absent (name : String) : Exchange → Prop
  | nameless {response : Json} (none : Lifecycle.aliasedIndices response = []) :
      Absent name ⟨.aliasGet name, .ok response⟩
  | missing {failure : BackendError} (none : failure.classification = .indexNotFound) :
      Absent name ⟨.aliasGet name, .error failure⟩

/-- The error tells of a failure of the backend. -/
def SearchError.Reports (error : SearchError) (failure : BackendError) : Prop :=
  error = .unclassified failure ∨ ∃ name objectId, error = failure.classify name objectId

namespace Request

/-- An alias that is looked up need not be there: that of an index which is written to, and that of the
destination of a move, which is looked up after the source. -/
def Forgives (request : Request) (before : List Exchange) (lookup : Exchange) : Prop :=
  request.act.isWrite ∧ before = [] ∧ lookup.Absent request.index.physical ∨
  ∃ destination, request.act = .moveTo destination ∧ before ≠ [] ∧
    lookup.Absent (physicalId request.index.tenant destination)

/-- The rules for the conversation of a request, and what they say about its result. -/
structure Disciplined (request : Request) (log : List Exchange) (result : Except SearchError request.act.Answer) :
    Prop where
  reads : request.act.isRead → ∀ exchange ∈ log, exchange.call.Reads request.index.physical
  deletes : ∀ objectId, request.act = .delete objectId →
    ∃ reply, log = [⟨.documentDelete request.index.physical objectId, reply⟩]
  /-- A generation is created right after the alias was absent, and by writes only. -/
  creates : ∀ before generation reply after, log = before ++ ⟨.indexCreate generation, reply⟩ :: after →
    request.act.isWrite ∧ generation = generationName request.index.physical request.now ∧
      ∃ earlier lookup, before = earlier ++ [lookup] ∧ lookup.Absent request.index.physical
  /-- An alias is put right after its generation was created. -/
  aliases : ∀ before generation name reply after, log = before ++ ⟨.aliasPut generation name, reply⟩ :: after →
    name = request.index.physical ∧ ∃ earlier, before = earlier ++ [⟨.indexCreate generation, .ok ()⟩]
  /-- Nothing is called after a change, so that there is at most one. -/
  updates : ∀ before exchange after, log = before ++ exchange :: after → exchange.call.isUpdate → after = []
  /-- Nothing is called after a failure, and the request fails with it. -/
  stops : ∀ before exchange after failure, log = before ++ exchange :: after → exchange.failure? = some failure →
    ¬ request.Forgives before exchange → after = [] ∧ ∃ error, result = .error error ∧ error.Reports failure

/-! ## Conversations that may go on -/

/-- So far nothing was changed, and nothing failed that had to succeed. -/
inductive Calm (request : Request) : List Exchange → Prop
  | start : Calm request []
  | next {past : List Exchange} {exchange : Exchange} (calm : Calm request past)
      (harmless : exchange.call.isUpdate = false)
      (fine : ∀ failure, exchange.failure? = some failure → request.Forgives past exchange) :
      Calm request (past ++ [exchange])

/-- The call may be made after what was said before. -/
structure Allows (request : Request) (past : List Exchange) (c : Call) : Prop where
  calm : request.Calm past
  creates : ∀ generation, c = .indexCreate generation →
    request.act.isWrite ∧ generation = generationName request.index.physical request.now ∧
      ∃ earlier lookup, past = earlier ++ [lookup] ∧ lookup.Absent request.index.physical
  aliases : ∀ generation name, c = .aliasPut generation name →
    name = request.index.physical ∧ ∃ earlier, past = earlier ++ [⟨.indexCreate generation, .ok ()⟩]

/-- The conversation may be over, whatever the result is made of it. -/
inductive Settled (request : Request) : List Exchange → Prop
  | calm {past : List Exchange} (calm : request.Calm past) : Settled request past
  | answered {past : List Exchange} {exchange : Exchange} (calm : request.Calm past)
      (fine : exchange.failure? = none) : Settled request (past ++ [exchange])

/-- The conversation may be over with an error. -/
inductive Fails (request : Request) : List Exchange → SearchError → Prop
  | settled {past : List Exchange} {error : SearchError} (settled : request.Settled past) : Fails request past error
  | refused {past : List Exchange} {exchange : Exchange} {failure : BackendError} {error : SearchError}
      (calm : request.Calm past) (failed : exchange.failure? = some failure) (reports : error.Reports failure) :
      Fails request (past ++ [exchange]) error

/-- From `past` on the operation keeps to the rules of the request. -/
abbrev Heeds {α : Type} (request : Request) (past : List Exchange) (operation : Operation α)
    (done : List Exchange → α → Prop) : Prop :=
  Keeps request.Allows request.Fails past operation done

variable {request : Request} {past before after : List Exchange} {exchange : Exchange}

theorem Calm.at (calm : request.Calm past) (divided : past = before ++ exchange :: after) :
    exchange.call.isUpdate = false ∧ ∀ failure, exchange.failure? = some failure → request.Forgives before exchange := by
  induction calm generalizing after with
  | start => exact absurd divided.symm (by simp)
  | next calm harmless fine ih =>
    rcases eq_of_concat_eq divided with ⟨rfl, rfl, -⟩ | ⟨rest, -, earlier⟩
    · exact ⟨harmless, fine⟩
    · exact ih earlier

theorem Calm.answered (calm : request.Calm past) {c : Call} (harmless : c.isUpdate = false) (answer : c.Answer) :
    request.Calm (past ++ [⟨c, .ok answer⟩]) := by
  apply calm.next harmless
  intro failure failed
  cases failed

/-- Calls that create no storage may be made at any time, before the last one. -/
theorem Calm.allows (calm : request.Calm past) {c : Call} (ordinary : c.isProvision = false) :
    request.Allows past c := by
  refine ⟨calm, ?_, ?_⟩
  · rintro generation rfl
    cases ordinary
  · rintro generation name rfl
    cases ordinary

/-- An answer that an alias is absent does no harm where the alias need not be there. -/
theorem Calm.absent (calm : request.Calm past) {name : String} (absent : exchange.Absent name)
    (forgiven : request.Forgives past exchange) : request.Calm (past ++ [exchange]) := by
  apply calm.next
  · cases absent <;> rfl
  · exact fun _ _ => forgiven

theorem classify_reports (failure : BackendError) (name : String) (objectId : Option String) :
    (failure.classify name objectId).Reports failure := .inr ⟨name, objectId, rfl⟩

/-- An operation whose alias has to be there fails without it. -/
theorem Calm.fails_absent (calm : request.Calm past) {name : String} (absent : exchange.Absent name) :
    request.Fails (past ++ [exchange]) (.indexNotFound name) := by
  cases absent with
  | nameless none => exact .settled (.answered calm rfl)
  | @missing failure none =>
    have classified : failure.classify name Option.none = .indexNotFound name := by
      simp [BackendError.classify, none]
    exact .refused calm rfl (classified ▸ classify_reports failure name _)

/-! ## Calls of the operations -/

/-- A call that creates no storage. -/
theorem heeds_call (calm : request.Calm past) {c : Call} (ordinary : c.isProvision = false)
    {meaning : BackendError → SearchError} (reports : ∀ failure, (meaning failure).Reports failure) {done : List Exchange → c.Answer → Prop}
    (ok : ∀ answer : c.Answer, done (past ++ [⟨c, .ok answer⟩]) answer) :
    request.Heeds past (Operation.call c meaning) done :=
  keeps_call (calm.allows ordinary) ok fun failure => .refused calm rfl (reports failure)

/-- A look-up succeeds unless it fails for another reason than that the alias is missing. -/
theorem heeds_lookup (calm : request.Calm past) (name : String) :
    request.Heeds past (Lifecycle.lookup name) fun now found =>
      ∃ exchange, now = past ++ [exchange] ∧
        ((found.isSome ∧ exchange.failure? = none ∧ exchange.call.isUpdate = false) ∨
          found = none ∧ exchange.Absent name) := by
  unfold Lifecycle.lookup
  have asked : request.Heeds past (attempt (.aliasGet name)) fun now reply => now = past ++ [⟨.aliasGet name, reply⟩] :=
    keeps_attempt (calm.allows rfl) fun reply => rfl
  refine Keeps.bind asked ?_
  rintro _ reply rfl
  cases reply with
  | ok response =>
    refine keeps_pure ⟨_, rfl, ?_⟩
    by_cases none : Lifecycle.aliasedIndices response = []
    · right
      exact ⟨by simp [none], .nameless none⟩
    · left
      simp [none, Exchange.failure?, Call.isUpdate]
  | error failure =>
    dsimp only
    cases meaning : failure.classification with
    | indexNotFound =>
      have classified : failure.classify name none = .indexNotFound name := by simp [BackendError.classify, meaning]
      rw [classified]
      exact keeps_pure ⟨_, rfl, .inr ⟨rfl, .missing meaning⟩⟩
    | objectNotFound =>
      have reports := classify_reports failure name none
      rw [BackendError.classify, meaning] at reports ⊢
      exact keeps_throw (.refused calm rfl reports)
    | unclassified =>
      have reports := classify_reports failure name none
      rw [BackendError.classify, meaning] at reports ⊢
      exact keeps_throw (.refused calm rfl reports)

/-- A result that needs no call may be any. -/
theorem heeds_ofExcept {α : Type} (settled : request.Settled past) (result : Except SearchError α) :
    request.Heeds past (Operation.ofExcept result) fun now _ => now = past :=
  keeps_ofExcept (fun _ _ => rfl) fun _ _ => Fails.settled settled

/-! ## The life of an index -/

/-- Storage is created only where there is none, and the conversation may go on. -/
theorem heeds_ensureExists (writes : request.act.isWrite) :
    request.Heeds [] (Lifecycle.ensureExists request.now request.index.physical) fun now _ => request.Calm now := by
  unfold Lifecycle.ensureExists
  refine Keeps.bind (heeds_lookup .start request.index.physical) ?_
  rintro _ found ⟨lookup, rfl, ⟨some, fine, harmless⟩ | ⟨rfl, absent⟩⟩
  · obtain ⟨generations, rfl⟩ := Option.isSome_iff_exists.1 some
    apply keeps_pure
    exact Calm.start.next harmless (by simp [fine])
  · have calm : request.Calm [lookup] := Calm.start.absent absent (.inl ⟨writes, rfl, absent⟩)
    dsimp only
    generalize named : generationName request.index.physical request.now = generation
    -- The alias has just been answered as absent, so a generation may be created for it.
    have create : request.Allows [lookup] (.indexCreate generation) := by
      refine ⟨calm, ?_, nofun⟩
      rintro _ ⟨⟩
      exact ⟨writes, named.symm, [], lookup, rfl, absent⟩
    have created : request.Calm ([lookup] ++ [⟨.indexCreate generation, .ok ()⟩]) :=
      calm.answered (c := .indexCreate generation) rfl ()
    -- And with the generation created, the alias may be put.
    have put : request.Allows ([lookup] ++ [⟨.indexCreate generation, .ok ()⟩])
        (.aliasPut generation request.index.physical) := by
      refine ⟨created, nofun, ?_⟩
      rintro _ _ ⟨⟩
      exact ⟨rfl, [lookup], rfl⟩
    have creation : request.Heeds [lookup] (Operation.call (.indexCreate generation) .unclassified) fun now _ =>
        now = [lookup] ++ [⟨.indexCreate generation, .ok ()⟩] :=
      keeps_call create (fun _ => rfl) fun failure => .refused calm rfl (.inl rfl)
    refine Keeps.bind creation ?_
    rintro _ _ rfl
    refine keeps_call put (fun _ => ?_) fun failure => .refused created rfl (.inl rfl)
    exact created.answered (c := .aliasPut generation request.index.physical) rfl ()

/-- What has to be there is looked up, and the conversation may go on. -/
theorem heeds_requireExists (calm : request.Calm past) (name : String) :
    request.Heeds past (Lifecycle.requireExists name) fun now _ => request.Calm now ∧ now ≠ [] := by
  unfold Lifecycle.requireExists
  refine Keeps.bind (heeds_lookup calm name) ?_
  rintro _ found ⟨lookup, rfl, ⟨some, fine, harmless⟩ | ⟨rfl, absent⟩⟩
  · obtain ⟨generations, rfl⟩ := Option.isSome_iff_exists.1 some
    apply keeps_pure
    exact ⟨calm.next harmless (by simp [fine]), by simp⟩
  · exact keeps_throw (calm.fails_absent absent)

/-- Deletions stop at the first that fails. -/
theorem heeds_deleteAll (calm : request.Calm past) (physical : String) (generations : List String) :
    request.Heeds past (Lifecycle.deleteAll physical generations) fun now _ => request.Calm now := by
  induction generations generalizing past with
  | nil => exact keeps_pure calm
  | cons generation rest ih =>
    have deleted : request.Heeds past (Operation.call (.indexDelete generation) (·.classify physical none)) fun now _ =>
        request.Calm now :=
      heeds_call calm rfl (fun failure => classify_reports failure physical none) fun answer => calm.answered rfl answer
    exact Keeps.bind deleted fun now _ calm => ih calm

/-- A move looks up its source, then its destination, which need not be there, and then changes the aliases. -/
theorem heeds_moveIndex (source : String) {destination : String}
    (moves : request.act = .moveTo destination) :
    request.Heeds [] (Lifecycle.moveIndex source (physicalId request.index.tenant destination)) fun now _ =>
      request.Settled now := by
  unfold Lifecycle.moveIndex
  refine Keeps.bind (heeds_requireExists .start source) ?_
  rintro now generations ⟨calm, some⟩
  refine Keeps.bind (heeds_lookup calm _) ?_
  rintro _ found ⟨lookup, rfl, outcome⟩
  have calm : request.Calm (now ++ [lookup]) := by
    rcases outcome with ⟨-, fine, harmless⟩ | ⟨-, absent⟩
    · exact calm.next harmless (by simp [fine])
    · exact calm.absent absent (.inr ⟨destination, moves, some, absent⟩)
  dsimp only
  generalize Lifecycle.moveActions _ _ _ = actions
  have updated : request.Heeds (now ++ [lookup]) (Operation.call (.aliasesUpdate actions) .unclassified) fun now _ =>
      request.Settled now :=
    heeds_call calm rfl (fun failure => .inl rfl) fun _ => .answered calm rfl
  exact Keeps.bind updated fun _ _ settled => keeps_pure settled

theorem heeds_dropIndex (physical : String) :
    request.Heeds [] (Lifecycle.dropIndex physical) fun now _ => request.Settled now := by
  unfold Lifecycle.dropIndex
  refine Keeps.bind (heeds_requireExists .start physical) ?_
  intro now generations ⟨calm, _⟩
  exact (heeds_deleteAll calm physical generations).imp fun _ _ => .calm

/-! ## Operations on an index -/

variable {index : TenantIndex}

/-- The conversation may be over after a call on behalf of an index, and it may go on if nothing was changed. -/
theorem heeds_call_of (calm : request.Calm past) {c : Call} (ordinary : c.isProvision = false)
    (objectId : Option String) :
    request.Heeds past (index.call c objectId) fun now _ =>
      request.Settled now ∧ (c.isUpdate = false → request.Calm now) :=
  heeds_call calm ordinary (fun failure => classify_reports failure index.physical objectId)
    fun answer => ⟨.answered calm rfl, fun harmless => calm.answered harmless answer⟩

theorem heeds_readMapping (calm : request.Calm past) (physical : String) :
    request.Heeds past (readMapping physical) fun now _ => request.Calm now := by
  have asked : request.Heeds past (Operation.call (.mappingGet physical) (·.classify physical none)) fun now _ =>
      request.Calm now :=
    heeds_call calm rfl (fun failure => classify_reports failure physical none) fun answer => calm.answered rfl answer
  refine Keeps.bind asked ?_
  intro now response calm
  refine (heeds_ofExcept (.calm calm) _).imp ?_
  rintro _ _ rfl
  exact calm

/-- What is read from an answer at the end needs no further call. -/
theorem heeds_finish {α β : Type} (settled : request.Settled past) (result : Except SearchError α) (value : α → β) :
    request.Heeds past (Operation.ofExcept result >>= fun found => pure (value found)) fun now _ =>
      request.Settled now := by
  refine Keeps.bind (heeds_ofExcept settled result) ?_
  rintro _ _ rfl
  exact keeps_pure settled

theorem heeds_query (asked : SearchRequest) :
    request.Heeds [] (index.query asked) fun now _ => request.Settled now := by
  unfold TenantIndex.query
  refine Keeps.bind (heeds_readMapping .start index.physical) ?_
  intro past mapping calm
  refine Keeps.bind (heeds_ofExcept (.calm calm) _) ?_
  rintro _ compiled rfl
  refine Keeps.bind (heeds_call_of calm rfl none) ?_
  rintro past response ⟨settled, -⟩
  refine Keeps.bind (heeds_ofExcept settled _) ?_
  rintro _ hits rfl
  exact heeds_finish settled _ _

theorem heeds_bulk (calm : request.Calm past) (payload : BulkPayload) :
    request.Heeds past (do
      let response : Json ← index.call (.bulk index.physical payload.lines) none
      Operation.ofExcept (payload.correlate response)) fun now _ => request.Settled now := by
  refine Keeps.bind (heeds_call_of calm rfl none) ?_
  rintro past response ⟨settled, -⟩
  refine (heeds_ofExcept settled _).imp ?_
  rintro _ _ rfl
  exact settled

/-- A batch creates storage only if it stores documents. -/
theorem heeds_batch {requests : List BatchRequest} (batch : request.act = .batch requests) :
    request.Heeds [] (request.index.batch request.now requests) fun now _ => request.Settled now := by
  unfold TenantIndex.batch
  simp only [BulkPayload.hasWrites_ofRequests]
  split
  · exact keeps_pure (.calm .start)
  · split
    · rename_i writes
      have isWrite : request.act.isWrite := by rw [batch]; exact writes
      exact Keeps.bind (heeds_ensureExists isWrite) fun past _ calm => heeds_bulk calm _
    · have required : request.Heeds [] (discard (Lifecycle.requireExists request.index.physical)) fun now _ =>
          request.Calm now :=
        Keeps.discard ((heeds_requireExists .start request.index.physical).imp fun _ _ found => found.1)
      exact Keeps.bind required fun past _ calm => heeds_bulk calm _

/-- Every operation keeps to the rules. -/
theorem heeds_operation (request : Request) :
    request.Heeds [] request.operation fun now _ => request.Settled now := by
  obtain ⟨index, now, act⟩ := request
  cases act with
  | put objectId value =>
    refine Keeps.bind (heeds_ofExcept (.calm .start) _) ?_
    rintro _ body rfl
    refine Keeps.bind (heeds_ensureExists rfl) fun past _ calm => ?_
    exact Keeps.bind (heeds_call_of calm rfl objectId) fun past _ ended => keeps_pure ended.1
  | get objectId => exact Keeps.bind (heeds_call_of .start rfl (some objectId)) fun past _ ended => keeps_pure ended.1
  | getMany objectIds =>
    show Heeds _ _ (index.getObjects objectIds) _
    unfold TenantIndex.getObjects
    split
    · exact keeps_pure (.calm .start)
    · exact Keeps.bind (heeds_call_of .start rfl none) fun past _ ended => heeds_finish ended.1 _ _
  | delete objectId => exact (heeds_call_of .start rfl (some objectId)).imp fun _ _ ended => ended.1
  | query asked => exact heeds_query asked
  | batch requests => exact heeds_batch rfl
  | saveSettings spec =>
    refine Keeps.bind (heeds_ensureExists rfl) fun past _ calm => ?_
    refine Keeps.bind (heeds_readMapping calm index.physical) fun past current calm => ?_
    dsimp only
    split
    · exact keeps_pure (.calm calm)
    · exact Keeps.bind (heeds_call_of calm rfl none) fun past _ ended => keeps_pure ended.1
  | getSettings => exact Keeps.bind (heeds_readMapping .start index.physical) fun past _ calm => keeps_pure (.calm calm)
  | moveTo destination => exact (heeds_moveIndex index.physical rfl).discard
  | drop => exact heeds_dropIndex index.physical
  | stats =>
    refine Keeps.bind (heeds_requireExists .start index.physical) ?_
    rintro past generations ⟨calm, -⟩
    exact Keeps.bind (heeds_call_of calm rfl none) fun past _ ended => keeps_pure ended.1

/-! ## Whole conversations -/

variable {σ : Type}

/-- The last exchange of a conversation that may be over has not failed, or this was forgiven. -/
theorem Settled.forgives (settled : request.Settled (before ++ [exchange])) {failure : BackendError}
    (failed : exchange.failure? = some failure) : request.Forgives before exchange := by
  generalize logged : before ++ [exchange] = log at settled
  cases settled with
  | calm calm => exact (calm.at logged.symm).2 failure failed
  | answered calm fine =>
    obtain ⟨-, ends⟩ := List.append_inj' logged rfl
    cases ends
    rw [failed] at fine
    cases fine

/-- A failure at the end that is not forgiven is reported. -/
theorem Fails.reports {error : SearchError} (fails : request.Fails (before ++ [exchange]) error)
    {failure : BackendError} (failed : exchange.failure? = some failure)
    (unforgiven : ¬ request.Forgives before exchange) : error.Reports failure := by
  generalize logged : before ++ [exchange] = log at fails
  cases fails with
  | settled settled => exact absurd (Settled.forgives (logged ▸ settled) failed) unforgiven
  | refused calm failed' reports =>
    obtain ⟨-, ends⟩ := List.append_inj' logged rfl
    cases ends
    rw [failed] at failed'
    cases failed'
    exact reports

/-- Whatever a backend replies, the calls of a request keep to the rules. -/
theorem calls_are_disciplined (backend : Backend σ) (state : σ) (request : Request) :
    request.Disciplined (request.operation.transcript backend state) (runOn backend request.operation state).1 := by
  obtain ⟨calls, succeeds, fails⟩ := (heeds_operation request).transcript backend state
  -- Whatever is followed by a call has left the conversation calm.
  have followed : ∀ before exchange after, request.operation.transcript backend state = before ++ exchange :: after →
      after ≠ [] → request.Calm (before ++ [exchange]) := by
    intro before exchange after divided some
    obtain ⟨next, rest, rfl⟩ := List.exists_cons_of_ne_nil some
    exact (calls (before ++ [exchange]) next rest (by simpa using divided)).calm
  constructor
  case reads =>
    intro reads
    exact Program.Makes.transcript (Act.makes_reads reads request.index request.now) backend state
  case deletes =>
    obtain ⟨index, now, act⟩ := request
    rintro objectId rfl
    exact ⟨_, rfl⟩
  case creates =>
    intro before generation reply after divided
    exact (calls before _ after divided).creates generation rfl
  case aliases =>
    intro before generation name reply after divided
    exact (calls before _ after divided).aliases generation name rfl
  case updates =>
    intro before exchange after divided update
    by_contra some
    have harmless := ((followed before exchange after divided some).at rfl).1
    rw [update] at harmless
    cases harmless
  case stops =>
    intro before exchange after failure divided failed unforgiven
    have last : after = [] := by
      by_contra some
      exact unforgiven (((followed before exchange after divided some).at rfl).2 failure failed)
    subst last
    refine ⟨rfl, ?_⟩
    rw [List.nil_append, divided] at succeeds fails
    cases outcome : (runOn backend request.operation state).1 with
    | ok answer => exact absurd ((succeeds answer outcome).forgives failed) unforgiven
    | error error => exact ⟨error, rfl, (fails error outcome).reports failed unforgiven⟩

/-- The first write to an index. -/
example : ((Request.atEpoch "a" "b" (.put (some "1") .empty)).operation.transcript Memory.step .empty).map Exchange.call =
    [.aliasGet "a_b", .indexCreate "a_b_1970.1.1.0", .aliasPut "a_b_1970.1.1.0" "a_b",
      .documentIndex "a_b" (some "1") .empty] := by
  rfl

end Request

end SearchTenancy

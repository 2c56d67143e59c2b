import SearchTenancy.Proofs.Tenant.Operations

/-!
# Runs of requests

A request is an act on a logical index at an instant. A run is a list of requests of
any tenants, made one after the other against the in-memory backend, each on the state
that the ones before it left.

A request that reads looks at one name only, so its answer is the same in states that
agree on what the name stands for (`Memory.answer_congr`).
-/

namespace SearchTenancy

open Operation

/-- What can be asked of a logical index. -/
inductive Act where
  | put (objectId : Option String) (value : Json)
  | get (objectId : String)
  | getMany (objectIds : List String)
  | delete (objectId : String)
  | query (request : SearchRequest)
  | batch (requests : List BatchRequest)
  | saveSettings (spec : SettingsSpec)
  | getSettings
  | moveTo (destination : String)
  | drop
  | stats

namespace Act

/-- What an act is answered with. -/
@[reducible]
def Answer : Act → Type
  | put _ _ => IndexedObject
  | get _ => Json
  | getMany _ => List (Option Json)
  | delete _ | moveTo _ | drop => Unit
  | query _ => QueryResult
  | batch _ => BatchResult
  | saveSettings _ | getSettings => SettingsSpec
  | stats => IndexStats

/-- The operation of an act. -/
def operation (index : TenantIndex) (now : Instant) : (act : Act) → Operation act.Answer
  | put objectId value => index.putObject now objectId value
  | get objectId => index.getObject objectId
  | getMany objectIds => index.getObjects objectIds
  | delete objectId => index.deleteObject objectId
  | query request => index.query request
  | batch requests => index.batch now requests
  | saveSettings spec => index.saveSettings now spec
  | getSettings => index.getSettings
  | moveTo destination => index.moveTo destination
  | drop => index.drop
  | stats => index.stats

/-- Whether an act only reads. -/
def isRead : Act → Bool
  | get _ | getMany _ | query _ | getSettings | stats => true
  | _ => false

end Act

/-- The start of the year 1970. -/
def Instant.epoch : Instant := ⟨0, by decide, by decide⟩

/-- An act on a logical index; new storage is named after the instant. -/
structure Request where
  index : TenantIndex
  now : Instant
  act : Act

/-- An act at the start of 1970 on an index of a service with the default configuration. -/
def Request.atEpoch (tenant name : String) (act : Act) : Request := ⟨⟨.default, tenant, name⟩, .epoch, act⟩

/-- The operation of a request. -/
def Request.operation (request : Request) : Operation request.act.Answer :=
  request.act.operation request.index request.now

namespace Memory

/-- What a request is answered with. -/
def answer (memory : Memory) (request : Request) : Except SearchError request.act.Answer :=
  (runOn step request.operation memory).1

/-- The state that a request leaves. -/
def next (memory : Memory) (request : Request) : Memory := (runOn step request.operation memory).2

/-- The state after a run. -/
def after (memory : Memory) (run : List Request) : Memory := run.foldl next memory

/-- The requests of a run, each with the state that it meets. -/
def history (memory : Memory) : List Request → List (Memory × Request)
  | [] => []
  | request :: rest => (memory, request) :: (memory.next request).history rest

end Memory

/-! ## Reading -/

/-- The call reads what a name stands for. -/
def Call.Reads (name : String) : Call → Prop
  | aliasGet asked | documentGet asked _ | search asked _ _ | mappingGet asked | stats asked => asked = name
  | _ => False

theorem Lifecycle.makes_lookup {allowed : Call → Prop} {name : String} (asks : allowed (.aliasGet name)) :
    (lookup name).Makes allowed := by
  refine Makes.bind (makes_attempt asks) fun reply => ?_
  cases reply with
  | ok response => exact makes_pure _
  | error failure =>
    -- A missing alias is no failure of the look-up; all other failures are passed on.
    dsimp only
    split
    · exact makes_pure _
    · exact makes_throw _

theorem Lifecycle.makes_requireExists {allowed : Call → Prop} {name : String} (asks : allowed (.aliasGet name)) :
    (requireExists name).Makes allowed := by
  refine Makes.bind (makes_lookup asks) fun found => ?_
  cases found with
  | none => exact makes_throw _
  | some generations => exact makes_pure _

/-- An act that reads looks at the name of its index only. -/
theorem Act.makes_reads {act : Act} (h : act.isRead) (index : TenantIndex) (now : Instant) :
    (act.operation index now).Makes (Call.Reads index.physical) := by
  have asks (c : Call) (allowed : c.Reads index.physical) (meaning : BackendError → SearchError) :
      Makes (Call.Reads index.physical) (Operation.call c meaning) := makes_call allowed meaning
  have required : (Lifecycle.requireExists index.physical).Makes (Call.Reads index.physical) :=
    Lifecycle.makes_requireExists rfl
  have mapping : (readMapping index.physical).Makes (Call.Reads index.physical) :=
    Makes.bind (asks (.mappingGet index.physical) rfl _) fun _ => makes_ofExcept _
  cases act with
  | get objectId => exact Makes.bind (asks (.documentGet index.physical objectId) rfl _) fun _ => makes_pure _
  | getMany objectIds =>
    show Makes _ (index.getObjects objectIds)
    unfold TenantIndex.getObjects
    split
    · exact makes_pure _
    · refine Makes.bind (asks (.search index.physical (TenantIndex.idsQuery objectIds) .strict) rfl _) fun _ => ?_
      exact Makes.bind (makes_ofExcept _) fun _ => makes_pure _
  | query request =>
    refine Makes.bind mapping fun _ => Makes.bind (makes_ofExcept _) fun compiled => ?_
    refine Makes.bind (asks (.search index.physical compiled.body .strict) rfl _) fun _ => ?_
    exact Makes.bind (makes_ofExcept _) fun _ => Makes.bind (makes_ofExcept _) fun _ => makes_pure _
  | getSettings => exact Makes.bind mapping fun _ => makes_pure _
  | stats => exact Makes.bind required fun _ => Makes.bind (asks (.stats index.physical) rfl _) fun _ => makes_pure _
  | put _ _ | delete _ | batch _ | saveSettings _ | moveTo _ | drop => cases h

namespace Memory

theorem step_of_reads {name : String} (c : Call) (memory : Memory) (h : c.Reads name) : (step memory c).2 = memory := by
  cases c <;> first | rfl | cases h

/-- A name stands for the same in two states. -/
structure SameView (name : String) (one other : Memory) : Prop where
  aliases : other.aliases.get? name = one.aliases.get? name
  resolve : other.resolve name = one.resolve name
  content : ∀ index, one.resolve name = some index → other.indices.get? index = one.indices.get? index

theorem SameView.step {name : String} {one other : Memory} (same : SameView name one other) (c : Call)
    (h : c.Reads name) : (Memory.step one c).1 = (Memory.step other c).1 := by
  have document (index objectId : String) (resolved : one.resolve name = some index) :
      other.document? index objectId = one.document? index objectId := by
    unfold document?
    rw [same.content index resolved]
  cases c with
  | aliasGet asked =>
    cases h
    simp only [Memory.step, aliasGet, same.aliases]
  | documentGet asked objectId =>
    cases h
    simp only [Memory.step, documentGet, resolveOrMissing, same.resolve]
    cases resolved : one.resolve name with
    | none => rfl
    | some index => simp only [bind, Except.bind, document index objectId resolved]
  | search asked body options =>
    cases h
    simp only [Memory.step, Memory.search, resolveOrMissing, same.resolve]
    cases resolved : one.resolve name with
    | none => rfl
    | some index => simp only [bind, Except.bind, same.content index resolved]
  | mappingGet asked =>
    cases h
    simp only [Memory.step, mappingGet, resolveOrMissing, same.resolve]
    cases resolved : one.resolve name with
    | none => rfl
    | some index => simp only [bind, Except.bind, same.content index resolved]
  | stats asked =>
    cases h
    simp only [Memory.step, Memory.stats, resolveOrMissing, same.resolve]
    cases resolved : one.resolve name with
    | none => rfl
    | some index => simp only [bind, Except.bind, same.content index resolved]
  | indexCreate _ | indexDelete _ | aliasPut _ _ | aliasesUpdate _ | documentIndex _ _ _ | documentDelete _ _ | bulk _ _
  | mappingPut _ _ => cases h

/-- A request that reads leaves the state alone. -/
theorem next_of_isRead (memory : Memory) {request : Request} (h : request.act.isRead) :
    memory.next request = memory :=
  Program.run_state_of_makes step_of_reads (Act.makes_reads h request.index request.now) memory

/-- A request that reads is answered alike in states that agree on its name. -/
theorem answer_congr {one other : Memory} {request : Request} (h : request.act.isRead)
    (same : SameView request.index.physical one other) : other.answer request = one.answer request :=
  (Program.run_result_of_makes step_of_reads same.step (Act.makes_reads h request.index request.now)).symm

end Memory

end SearchTenancy

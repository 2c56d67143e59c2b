import SearchTenancy.Proofs.Memory.Aliases
import SearchTenancy.Proofs.Tenant.Discipline

/-!
# What writers call while there is storage

Requests about documents never change settings or the alias table, but the first write
creates storage. It does so only after the backend has answered that the alias is absent.
So while the alias is there, all calls of such a request are about documents
(`Request.calls_documents`), and these make a state grow (`Memory.step_grows`), whichever
other calls are made in between.
-/

namespace SearchTenancy

open Operation

/-- Whether a call may change settings or what a name stands for, other than by creating storage. -/
def Call.isAdministrative : Call → Bool
  | indexDelete _ | aliasesUpdate _ | mappingPut _ _ => true
  | _ => false

/-- The call neither creates storage nor is it administrative. -/
def Call.AboutDocuments (c : Call) : Prop := c.isProvision = false ∧ c.isAdministrative = false

/-- As long as no alias of that name is answered to be absent, all calls of the program are about documents. -/
def Program.CallsDocuments {α : Type} (name : String) : Program α → Prop
  | done _ => True
  | call c next => c.AboutDocuments ∧
      ∀ reply, ¬ Exchange.Absent name ⟨c, reply⟩ → (next reply).CallsDocuments name

namespace Lifecycle

theorem makes_ensureExists (now : Instant) (physical : String) :
    (ensureExists now physical).Makes (·.isAdministrative = false) := by
  have asks (c : Call) (allowed : c.isAdministrative = false) :
      (Operation.call c .unclassified).Makes (·.isAdministrative = false) := makes_call allowed _
  refine Makes.bind (makes_lookup rfl) fun found => ?_
  cases found with
  | some generations => exact makes_pure _
  | none =>
    refine Makes.bind (asks (.indexCreate _) rfl) fun _ => ?_
    exact asks (.aliasPut _ physical) rfl

end Lifecycle

/-- Requests about documents make no administrative call. -/
theorem Act.makes_documents {act : Act} (documents : act.isAdministrative = false) (index : TenantIndex)
    (now : Instant) : (act.operation index now).Makes (·.isAdministrative = false) := by
  have reads (is : act.isRead) : (act.operation index now).Makes (·.isAdministrative = false) := by
    refine Program.Makes.imp (fun c reads => ?_) (Act.makes_reads is index now)
    cases c <;> first | rfl | cases reads
  have asks (c : Call) (allowed : c.isAdministrative = false) (objectId : Option String) :
      (index.call c objectId).Makes (·.isAdministrative = false) := makes_call allowed _
  cases act with
  | get _ | getMany _ | query _ | getSettings | stats => exact reads rfl
  | put objectId value =>
    refine Makes.bind (makes_ofExcept _) fun body => ?_
    refine Makes.bind (Lifecycle.makes_ensureExists now index.physical) fun _ => ?_
    exact Makes.bind (asks (.documentIndex index.physical objectId (.obj body)) rfl _) fun _ => makes_pure _
  | delete objectId => exact asks (.documentDelete index.physical objectId) rfl _
  | batch requests =>
    have sends : Makes (·.isAdministrative = false) (do
        let response : Json ← index.call (.bulk index.physical (BulkPayload.ofRequests requests).lines) none
        Operation.ofExcept ((BulkPayload.ofRequests requests).correlate response)) :=
      Makes.bind (asks (.bulk index.physical (BulkPayload.ofRequests requests).lines) rfl none) fun _ => makes_ofExcept _
    show Makes _ (index.batch now requests)
    unfold TenantIndex.batch
    dsimp only
    split
    · exact makes_pure _
    · split
      · exact Makes.bind (Lifecycle.makes_ensureExists now index.physical) fun _ => sends
      · exact Makes.bind (Makes.discard (Lifecycle.makes_requireExists rfl)) fun _ => sends
  | saveSettings _ | moveTo _ | drop => cases documents

namespace Request

/-- A program that keeps to the rules of a request, after exchanges none of which found the alias absent, creates no
storage as long as the alias is not absent. -/
theorem calls_documents_of_keeps {request : Request} {α : Type} {ended : List Exchange → α → Prop}
    {program : Program α} (makes : program.Makes (·.isAdministrative = false)) {past : List Exchange}
    (keeps : program.Keeps request.Allows ended past)
    (there : ∀ exchange ∈ past, ¬ exchange.Absent request.index.physical ∧ exchange.call.isProvision = false) :
    program.CallsDocuments request.index.physical := by
  induction program generalizing past with
  | done result => trivial
  | call c next ih =>
    obtain ⟨allows, rest⟩ := keeps
    have creates_nothing : c.isProvision = false := by
      cases c with
      | indexCreate generation =>
        obtain ⟨-, -, earlier, lookup, rfl, absent⟩ := allows.creates generation rfl
        exact absurd absent (there lookup (by simp)).1
      | aliasPut generation name =>
        obtain ⟨-, earlier, rfl⟩ := allows.aliases generation name rfl
        have creation := (there ⟨.indexCreate generation, .ok ()⟩ (by simp)).2
        cases creation
      | _ => rfl
    refine ⟨⟨creates_nothing, makes.1⟩, fun reply found => ?_⟩
    refine ih reply (makes.2 reply) (rest reply) ?_
    intro exchange mem
    rcases List.mem_append.1 mem with earlier | last
    · exact there exchange earlier
    · rw [List.mem_singleton.1 last]
      exact ⟨found, creates_nothing⟩

/-- While there is storage, the calls of a request about documents are about documents. -/
theorem calls_documents {request : Request} (documents : request.act.isAdministrative = false) :
    request.operation.run.CallsDocuments request.index.physical :=
  calls_documents_of_keeps (Act.makes_documents documents request.index request.now) (heeds_operation request)
    fun _ none => (nomatch none)

end Request

namespace Memory

/-- An alias that is there is not answered to be absent. -/
theorem not_absent {memory : Memory} (h : memory.Consistent) {name : String}
    (there : (memory.aliases.get? name).isSome) (c : Call) : ¬ Exchange.Absent name ⟨c, (step memory c).1⟩ := by
  obtain ⟨behind, found⟩ := Option.isSome_iff_exists.1 there
  intro absent
  generalize answered : (step memory c).1 = reply at absent
  cases absent with
  | nameless none => exact h.aliasesInOrder.listed name _ answered none
  | missing none =>
    simp only [step, aliasGet, found] at answered
    cases answered

/-- Calls about documents make a state grow. -/
theorem step_grows (memory : Memory) {c : Call} (documents : c.AboutDocuments) : Grows memory (step memory c).2 := by
  have resolved (name : String) : (∃ failure, memory.resolveOrMissing name = .error failure) ∨
      ∃ concrete, memory.resolveOrMissing name = .ok concrete := by
    cases memory.resolveOrMissing name with
    | error failure => exact .inl ⟨failure, rfl⟩
    | ok concrete => exact .inr ⟨concrete, rfl⟩
  cases c with
  | aliasGet _ | documentGet _ _ | search _ _ _ | mappingGet _ | stats _ => exact .refl memory
  | documentIndex name objectId body =>
    rcases resolved name with ⟨failure, missing⟩ | ⟨concrete, found⟩
    · simp only [step, documentIndex, missing]
      exact .refl memory
    · simp only [step, documentIndex, found]
      exact (Feeds.store memory concrete objectId _).toGrows
  | documentDelete name objectId =>
    rcases resolved name with ⟨failure, missing⟩ | ⟨concrete, found⟩
    · simp only [step, documentDelete, missing]
      exact .refl memory
    · simp only [step, documentDelete, found]
      split
      · exact (Feeds.remove memory concrete objectId).toGrows
      · exact .refl memory
  | bulk name lines =>
    rcases resolved name with ⟨failure, missing⟩ | ⟨concrete, found⟩
    · simp only [step, bulk, missing]
      exact .refl memory
    · simp only [step, bulk, found]
      exact (Feeds.bulkLines concrete lines memory).toGrows
  | indexCreate _ | aliasPut _ _ => cases documents.1
  | indexDelete _ | aliasesUpdate _ | mappingPut _ _ => cases documents.2

end Memory

end SearchTenancy

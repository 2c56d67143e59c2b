import SearchTenancy.Http.Exchange
import SearchTenancy.Proofs.Classification
import SearchTenancy.Tenant.Lifecycle
import SearchTenancy.Proofs.Tenant.Requests

/-!
# When storage is created, over HTTP

The first write to an index looks its alias up and creates storage if there is none.
Over HTTP the look-up can be answered with any status and any text, or not at all, and
all that follows depends on what it finds (`Lifecycle.lookup_of_ok`,
`Lifecycle.lookup_of_error`). Storage is created if the alias is reported as missing, or if
a success names nothing behind it; a success that names an index ends the matter, and so
does every other failure, which the caller is told (`Http.storage_created_if_nothing_named`).
-/

namespace SearchTenancy

open Operation

variable {σ α : Type}

/-- A report of a missing index has the status of something missing. -/
theorem BackendError.status_of_indexNotFound {error : BackendError}
    (h : error.classification = .indexNotFound) : error.status = some 404 :=
  (classification_eq_indexNotFound_iff.1 h).1

/-! ## Looking an alias up -/

namespace Lifecycle

variable {backend : Backend σ} {state left : σ} {name : String}

theorem lookup_of_ok {response : Json} (h : backend state (.aliasGet name) = (.ok response, left)) :
    runOn backend (lookup name) state =
      (.ok (if (aliasedIndices response).isEmpty then none else some (aliasedIndices response)), left) := by
  unfold lookup
  simp only [runOn_bind, attempt, runOn_mk_call, h]
  rfl

/-- A missing alias is no failure of a look-up, and any other report is one. -/
theorem lookup_of_error {failure : BackendError} (h : backend state (.aliasGet name) = (.error failure, left)) :
    runOn backend (lookup name) state =
      (if failure.classification = .indexNotFound then .ok none else .error (failure.classify name none), left) := by
  unfold lookup
  simp only [runOn_bind, attempt, runOn_mk_call, h]
  unfold BackendError.classify
  cases failure.classification <;> rfl

end Lifecycle

namespace Http

/-! ## The requests that are sent -/

/-- What carries requests, keeping those that were sent, in their order. -/
def recorded (carry : σ → Request → Response × σ) :
    σ × List Request → Request → Response × (σ × List Request) := fun state request =>
  let (response, inner) := carry state.1 request
  (response, inner, state.2 ++ [request])

variable (carry : σ → Request → Response × σ) (state : σ)

/-- The result of an operation over HTTP, and the requests that it sends. -/
def perform (operation : Operation α) : Except SearchError α × List Request :=
  ((runOn (step carry) operation state).1, (runOn (step (recorded carry)) operation (state, [])).2.2)

/-- Keeping the requests changes nothing else, and none is forgotten. -/
theorem run_recorded (program : Program α) (sent : List Request) :
    (program.run (step (recorded carry)) (state, sent)).1 = (program.run (step carry) state).1 ∧
      sent <+: (program.run (step (recorded carry)) (state, sent)).2.2 := by
  induction program generalizing state sent with
  | done result => exact ⟨rfl, List.prefix_rfl⟩
  | call c next ih =>
    obtain ⟨result, kept⟩ := ih (reply (carry state (request c)).1 c) (carry state (request c)).2 (sent ++ [request c])
    exact ⟨result, (List.prefix_append ..).trans kept⟩

variable {carry state}

theorem perform_of_run {operation : Operation α} {result : Except SearchError α} {left : σ} {sent : List Request}
    (h : runOn (step (recorded carry)) operation (state, []) = (result, left, sent)) :
    perform carry state operation = (result, sent) := by
  have same := (run_recorded carry state operation.run []).1
  change (runOn (step (recorded carry)) operation (state, [])).1 = _ at same
  rw [h] at same
  exact Prod.ext same.symm (by rw [perform, h])

theorem step_recorded {call : Call} {answer : Reply call} (h : reply (carry state (request call)).1 call = answer) :
    step (recorded carry) (state, []) call = (answer, (carry state (request call)).2, [request call]) := Prod.ext h rfl

/-! ## Before a first write -/

variable {now : Instant} {physical : String}

/-- A success that names an index ends the matter. -/
theorem perform_ensureExists_of_named {body : Json}
    (answer : valueOf (carry state (request (.aliasGet physical))).1 = .ok body)
    (named : Lifecycle.aliasedIndices body ≠ []) :
    perform carry state (Lifecycle.ensureExists now physical) = (.ok (), [request (.aliasGet physical)]) := by
  have looked := Lifecycle.lookup_of_ok (step_recorded answer)
  rw [if_neg (by simpa using named)] at looked
  exact perform_of_run (runOn_bind_ok _ _ looked)

/-- A report of anything but a missing index is passed on. -/
theorem perform_ensureExists_of_refused {failure : BackendError}
    (answer : valueOf (carry state (request (.aliasGet physical))).1 = .error failure)
    (other : failure.classification ≠ .indexNotFound) :
    perform carry state (Lifecycle.ensureExists now physical) =
      (.error (failure.classify physical none), [request (.aliasGet physical)]) := by
  have looked := Lifecycle.lookup_of_error (step_recorded answer)
  rw [if_neg other] at looked
  exact perform_of_run (runOn_bind_error _ _ looked)

/-- Storage is created once a look-up has found nothing. -/
theorem creates_of_lookup {left : σ}
    (looked : runOn (step (recorded carry)) (Lifecycle.lookup physical) (state, []) =
      (.ok none, left, [request (.aliasGet physical)])) :
    [request (.aliasGet physical), request (.indexCreate (generationName physical now))] <+:
      (perform carry state (Lifecycle.ensureExists now physical)).2 := by
  -- The creation is sent next, whatever comes of it.
  have created (next : Reply (.indexCreate (generationName physical now)) → Program (Except SearchError Unit)) :
      [request (.aliasGet physical), request (.indexCreate (generationName physical now))] <+:
        ((Program.call _ next).run (step (recorded carry)) (left, [request (.aliasGet physical)])).2.2 :=
    (run_recorded carry _ (next _) _).2
  show _ <+: (runOn (step (recorded carry)) (Lifecycle.ensureExists now physical) (state, [])).2.2
  unfold Lifecycle.ensureExists
  rw [runOn_bind_ok _ _ looked]
  exact created _

/-- A success that names nothing is taken for an absent alias. -/
theorem creates_of_nameless {body : Json} (answer : valueOf (carry state (request (.aliasGet physical))).1 = .ok body)
    (nameless : Lifecycle.aliasedIndices body = []) :
    [request (.aliasGet physical), request (.indexCreate (generationName physical now))] <+:
      (perform carry state (Lifecycle.ensureExists now physical)).2 := by
  have looked := Lifecycle.lookup_of_ok (step_recorded answer)
  rw [if_pos (by simp [nameless])] at looked
  exact creates_of_lookup looked

/-- So is the report of a missing index. -/
theorem creates_of_missing {failure : BackendError}
    (answer : valueOf (carry state (request (.aliasGet physical))).1 = .error failure)
    (missing : failure.classification = .indexNotFound) :
    [request (.aliasGet physical), request (.indexCreate (generationName physical now))] <+:
      (perform carry state (Lifecycle.ensureExists now physical)).2 := by
  have looked := Lifecycle.lookup_of_error (step_recorded answer)
  rw [if_pos missing] at looked
  exact creates_of_lookup looked

/-! ## What the answer to the look-up decides -/

/-- The body of an answer is an object that names an index. -/
def namesIndex (text : String) : Bool :=
  match bodyOf? text with
  | some (.obj members) => !members.isEmpty
  | _ => false

theorem namesIndex_iff (text : String) :
    namesIndex text ↔ Lifecycle.aliasedIndices ((bodyOf? text).getD .null) ≠ [] := by
  unfold namesIndex Lifecycle.aliasedIndices
  split <;> rename_i body
  · simp [body, Json.asObject?]
  · cases read : bodyOf? text with
    | none => simp [Json.asObject?]
    | some value =>
      cases value with
      | obj members => exact absurd read (body members)
      | _ => simp [Json.asObject?]

theorem valueOf_success {status : Nat} (success : isSuccess status) (text : String) :
    valueOf (.answered status text) = .ok ((bodyOf? text).getD .null) := if_pos success

theorem valueOf_refused {status : Nat} (refused : ¬isSuccess status) (text : String) :
    valueOf (.answered status text) = .error (.refused status (bodyOf? text)) := if_neg refused

/-- A request to create an index is no look-up. -/
theorem not_creates_of_lookup_only {sent : List Request} (only : sent = [request (.aliasGet physical)]) :
    ¬∃ index, request (.indexCreate index) ∈ sent := by
  rintro ⟨index, mem⟩
  rw [only, List.mem_singleton] at mem
  exact nomatch congrArg Request.method mem

/-- Before the first write to an index, storage is created if its alias is reported as missing, or if a success
is the empty object, and only if one of the two is so or a success has a body that names no index. A success
that names an index ends the matter, and every other failure is passed on as what it means. -/
theorem storage_created_if_nothing_named (carry : σ → Request → Response × σ) (state : σ) (now : Instant)
    (physical : String) :
    let lookup := request (.aliasGet physical)
    let creation := request (.indexCreate (generationName physical now))
    let outcome := perform carry state (Lifecycle.ensureExists now physical)
    (∀ reason, (carry state lookup).1 = .lost reason →
      outcome = (.error (.unclassified (.transport reason)), [lookup])) ∧
    ∀ status text, (carry state lookup).1 = .answered status text →
      let report := BackendError.refused status (bodyOf? text)
      ((∃ index, request (.indexCreate index) ∈ outcome.2) →
        status = 404 ∧ report.classification = .indexNotFound ∨ isSuccess status ∧ ¬namesIndex text) ∧
      (status = 404 → report.classification = .indexNotFound → [lookup, creation] <+: outcome.2) ∧
      (isSuccess status → bodyOf? text = some (.obj []) → [lookup, creation] <+: outcome.2) ∧
      (isSuccess status → namesIndex text → outcome = (.ok (), [lookup])) ∧
      (¬isSuccess status → report.classification ≠ .indexNotFound →
        outcome = (.error (report.classify physical none), [lookup])) := by
  intro lookup creation outcome
  refine ⟨?_, ?_⟩
  · intro reason lost
    have told : valueOf (carry state lookup).1 = .error (.transport reason) := congrArg valueOf lost
    exact perform_ensureExists_of_refused told nofun
  intro status text answered report
  have value := congrArg valueOf answered
  have named (success : isSuccess status) (names : namesIndex text) : outcome = (.ok (), [lookup]) :=
    perform_ensureExists_of_named (value.trans (valueOf_success success text)) ((namesIndex_iff text).1 names)
  have refused (failed : ¬isSuccess status) (other : report.classification ≠ .indexNotFound) :
      outcome = (.error (report.classify physical none), [lookup]) :=
    perform_ensureExists_of_refused (value.trans (valueOf_refused failed text)) other
  refine ⟨?_, ?_, ?_, named, refused⟩
  · intro created
    by_cases success : isSuccess status
    · exact .inr ⟨success, fun names => not_creates_of_lookup_only (congrArg Prod.snd (named success names)) created⟩
    · refine .inl (Decidable.byContradiction fun other => ?_)
      have told : report.classification ≠ .indexNotFound := fun missing =>
        other ⟨Option.some.inj (BackendError.status_of_indexNotFound missing), missing⟩
      exact not_creates_of_lookup_only (congrArg Prod.snd (refused success told)) created
  · rintro rfl missing
    exact creates_of_missing (value.trans (valueOf_refused (by decide) text)) missing
  · intro success empty
    exact creates_of_nameless (value.trans (valueOf_success success text)) (by rw [empty]; rfl)

/-- What answers requests with given responses, in turn. -/
def replay : List Response → Request → Response × List Response
  | [], _ => (.lost "no response is left", [])
  | response :: rest, _ => (response, rest)

/-- A missing alias, one that stands for `g`, and a report of another failure. -/
theorem storage_created_on_replay :
    let outcome (response : Response) := perform replay [response] (Lifecycle.ensureExists .epoch "acme_products")
    [request (.aliasGet "acme_products"), request (.indexCreate (generationName "acme_products" .epoch))] <+:
      (outcome (.answered 404 "")).2 ∧
    outcome (.answered 200 "\x7b\"g\":\x7b\x7d\x7d") = (.ok (), [request (.aliasGet "acme_products")]) ∧
    outcome (.answered 503 "") =
      (.error (.unclassified (.refused 503 none)), [request (.aliasGet "acme_products")]) := by
  intro outcome
  have decided := fun response => (storage_created_if_nothing_named replay [response] .epoch "acme_products").2
  exact ⟨(decided (.answered 404 "") 404 "" rfl).2.1 rfl (by decide),
    (decided (.answered 200 _) 200 _ rfl).2.2.2.1 (by decide) (by decide +kernel),
    (decided (.answered 503 "") 503 "" rfl).2.2.2.2 (by decide) (by decide)⟩

/-- The empty object comes with a status of success, and storage is created all the same. -/
theorem empty_success_creates :
    let lookup := request (.aliasGet "acme_products")
    let response := Response.answered 200 "\x7b\x7d"
    (replay [response] lookup).1 = response ∧ isSuccess 200 ∧
      request (.indexCreate (generationName "acme_products" .epoch)) ∈
        (perform replay [response] (Lifecycle.ensureExists .epoch "acme_products")).2 := by
  intro lookup response
  have answer : valueOf (replay [response] lookup).1 = .ok (.obj []) := rfl
  have creates : [lookup, request (.indexCreate (generationName "acme_products" .epoch))] <+:
      (perform replay [response] (Lifecycle.ensureExists .epoch "acme_products")).2 := creates_of_nameless answer rfl
  exact ⟨rfl, by decide, creates.subset (by simp)⟩

end Http

end SearchTenancy

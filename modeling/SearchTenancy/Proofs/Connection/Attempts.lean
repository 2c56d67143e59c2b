import Mathlib.Data.Nat.Find
import Mathlib.Logic.Function.Iterate
import SearchTenancy.Connection.Connect

/-!
# Whether connecting ends

Connecting is a loop without a bound, and every failed attempt is treated alike. What
the loop has come to after a number of attempts is `Connection.progress`. An attempt at a
usable address sends one ping, so while all pings fail there are as many pings as attempts,
and the first ping that is answered ends the loop (`Connection.progress_retry_of_failures`).
An attempt at an unusable address sends none, and no later one does better: giving up
ends at once, and trying again never does.
-/

namespace SearchTenancy.Connection

/-- How far connecting has come: what it has ended with, if it has, and the number of pings sent. -/
structure Progress where
  ended : Option (Except ConfigFault Address)
  sent : Nat

variable {mode : ConnectionMode} {address : Except AddressFault Address} {response : Nat → Http.Response}

/-- One more attempt, unless connecting has ended. -/
def Progress.next (mode : ConnectionMode) (address : Except AddressFault Address) (response : Nat → Http.Response)
    (progress : Progress) : Progress :=
  match progress.ended with
  | some _ => progress
  | none =>
    match attempt address (response progress.sent) with
    | .ok address => ⟨some (.ok address), progress.sent + 1⟩
    | .error fault =>
      match mode with
      | .failFast => ⟨some (.error (.connect fault)), progress.sent + pingsOf address⟩
      | .retry => ⟨none, progress.sent + pingsOf address⟩

/-- How far connecting to an address has come after a number of attempts. -/
def progress (mode : ConnectionMode) (address : String) (response : Nat → Http.Response) (attempts : Nat) : Progress :=
  (Progress.next mode (Address.read address) response)^[attempts] ⟨none, 0⟩

/-! ## One attempt -/

theorem attempt_of_unusable (fault : AddressFault) (response : Http.Response) :
    attempt (.error fault) response = .error (.address fault) := rfl

theorem attempt_of_answer (address : Address) {response : Http.Response} (answer : Http.pingResult response = .ok ()) :
    attempt (.ok address) response = .ok address := by
  simp [attempt, answer, Except.mapError, bind, Except.bind, pure, Except.pure]

theorem attempt_of_failure (address : Address) {response : Http.Response} {error : SearchError}
    (failed : Http.pingResult response = .error error) : attempt (.ok address) response = .error (.ping error) := by
  simp [attempt, failed, Except.mapError, bind, Except.bind]

theorem next_of_ok {sent : Nat} {found : Address} (reached : attempt address (response sent) = .ok found) :
    Progress.next mode address response ⟨none, sent⟩ = ⟨some (.ok found), sent + 1⟩ := by
  simp [Progress.next, reached]

theorem next_failFast_of_error {sent : Nat} {fault : ConnectFault}
    (failed : attempt address (response sent) = .error fault) :
    Progress.next .failFast address response ⟨none, sent⟩ =
      ⟨some (.error (.connect fault)), sent + pingsOf address⟩ := by
  simp [Progress.next, failed]

theorem next_retry_of_error {sent : Nat} {fault : ConnectFault}
    (failed : attempt address (response sent) = .error fault) :
    Progress.next .retry address response ⟨none, sent⟩ = ⟨none, sent + pingsOf address⟩ := by
  simp [Progress.next, failed]

/-! ## Runs of attempts -/

/-- Nothing is attempted once connecting has ended. -/
theorem iterate_next_of_ended (result : Except ConfigFault Address) (sent attempts : Nat) :
    (Progress.next mode address response)^[attempts] ⟨some result, sent⟩ = ⟨some result, sent⟩ :=
  Function.iterate_fixed rfl attempts

theorem connectFrom_eq (sent attempts : Nat) :
    connectFrom mode address response sent attempts =
      let progress := (Progress.next mode address response)^[attempts] ⟨none, sent⟩
      progress.ended.map (·, progress.sent) := by
  induction attempts generalizing sent with
  | zero => rfl
  | succ attempts ih =>
    rw [Function.iterate_succ_apply]
    unfold connectFrom
    cases tried : attempt address (response sent) with
    | ok found =>
      rw [next_of_ok tried, iterate_next_of_ended]
      rfl
    | error fault =>
      cases mode with
      | failFast =>
        rw [next_failFast_of_error tried, iterate_next_of_ended]
        rfl
      | retry =>
        rw [next_retry_of_error tried]
        exact ih _

/-- What connecting ends with is what its progress tells. -/
theorem connect_eq (mode : ConnectionMode) (address : String) (response : Nat → Http.Response) (attempts : Nat) :
    connect mode address response attempts =
      (progress mode address response attempts).ended.map (·, (progress mode address response attempts).sent) :=
  connectFrom_eq 0 attempts

/-- While attempts fail, each sends its pings and none ends the loop. -/
theorem iterate_next_retry_of_failures {attempts : Nat}
    (failed : ∀ m < attempts, ∃ fault, attempt address (response (m * pingsOf address)) = .error fault) :
    (Progress.next .retry address response)^[attempts] ⟨none, 0⟩ = ⟨none, attempts * pingsOf address⟩ := by
  induction attempts with
  | zero => simp
  | succ attempts ih =>
    obtain ⟨fault, last⟩ := failed attempts attempts.lt_succ_self
    rw [Function.iterate_succ_apply', ih fun m before => failed m (Nat.lt_succ_of_lt before), next_retry_of_error last,
      Nat.succ_mul]

/-! ## Connecting -/

variable {url : String} {found : Address} {fault : AddressFault}

/-- Trying an unusable address again comes to nothing, and sends nothing. -/
theorem progress_retry_of_unusable (unusable : Address.read url = .error fault) (attempts : Nat) :
    progress .retry url response attempts = ⟨none, 0⟩ := by
  unfold progress
  rw [unusable, iterate_next_retry_of_failures fun m _ => ⟨_, attempt_of_unusable fault _⟩]
  rfl

/-- While pings to a usable address fail there are as many of them as attempts. -/
theorem progress_retry_of_failures (usable : Address.read url = .ok found) {attempts : Nat}
    (failed : ∀ m < attempts, Http.pingResult (response m) ≠ .ok ()) :
    progress .retry url response attempts = ⟨none, attempts⟩ := by
  unfold progress
  rw [usable, iterate_next_retry_of_failures]
  · simp [pingsOf]
  · intro m before
    cases result : Http.pingResult (response m) with
    | ok answer => exact absurd result (failed m before)
    | error error => exact ⟨_, attempt_of_failure found (by simpa [pingsOf] using result)⟩

/-- The first ping that is answered ends the loop. -/
theorem progress_retry_of_answer (usable : Address.read url = .ok found) {n : Nat}
    (failed : ∀ m < n, Http.pingResult (response m) ≠ .ok ()) (answer : Http.pingResult (response n) = .ok ())
    {attempts : Nat} (enough : n < attempts) :
    progress .retry url response attempts = ⟨some (.ok found), n + 1⟩ := by
  have before := progress_retry_of_failures usable failed
  obtain ⟨more, rfl⟩ := Nat.exists_eq_add_of_lt enough
  unfold progress at before ⊢
  rw [show n + more + 1 = more + (n + 1) by omega, Function.iterate_add_apply, Function.iterate_succ_apply', before,
    usable, next_of_ok (attempt_of_answer found answer), iterate_next_of_ended]

/-- Giving up takes one attempt. -/
theorem progress_failFast (url : String) (response : Nat → Http.Response) (more : Nat) :
    progress .failFast url response (more + 1) =
      match attempt (Address.read url) (response 0) with
      | .ok address => ⟨some (.ok address), 1⟩
      | .error fault => ⟨some (.error (.connect fault)), pingsOf (Address.read url)⟩ := by
  unfold progress
  rw [Function.iterate_succ_apply]
  cases tried : attempt (Address.read url) (response 0) with
  | ok address => rw [next_of_ok tried, iterate_next_of_ended]
  | error fault => rw [next_failFast_of_error tried, iterate_next_of_ended, Nat.zero_add]

/-- Connecting ends if some ping is answered, but for the retrying of an unusable address. No ping is sent to an
unusable address; giving up on it ends at once with its fault, and retrying it never ends. With a usable address
retrying ends at the first ping that is answered, after one ping for each attempt, and giving up after one ping,
with a failure exactly if that ping fails. -/
theorem connecting_ends (url : String) (response : Nat → Http.Response)
    (answered : ∃ n, Http.pingResult (response n) = .ok ()) :
    (∀ fault, Address.read url = .error fault →
      (∀ more, connect .failFast url response (more + 1) = some (.error (.connect (.address fault)), 0)) ∧
      ∀ attempts, connect .retry url response attempts = none ∧ (progress .retry url response attempts).sent = 0) ∧
    ∀ address, Address.read url = .ok address →
      (∃ n, Http.pingResult (response n) = .ok () ∧ (∀ m < n, Http.pingResult (response m) ≠ .ok ()) ∧
        ∀ attempts, connect .retry url response attempts = if n < attempts then some (.ok address, n + 1) else none) ∧
      ∀ more, connect .failFast url response (more + 1) =
        match Http.pingResult (response 0) with
        | .ok () => some (.ok address, 1)
        | .error error => some (.error (.connect (.ping error)), 1) := by
  refine ⟨fun fault unusable => ⟨fun more => ?_, fun attempts => ?_⟩, fun address usable => ⟨?_, fun more => ?_⟩⟩
  · rw [connect_eq, progress_failFast, unusable]
    rfl
  · rw [connect_eq, progress_retry_of_unusable unusable]
    exact ⟨rfl, rfl⟩
  · classical
    refine ⟨Nat.find answered, Nat.find_spec answered, fun m => Nat.find_min answered, fun attempts => ?_⟩
    rw [connect_eq]
    split
    · rename_i enough
      rw [progress_retry_of_answer usable (fun m => Nat.find_min answered) (Nat.find_spec answered) enough]
      rfl
    · rename_i early
      rw [progress_retry_of_failures usable fun m before =>
        Nat.find_min answered (Nat.lt_of_lt_of_le before (Nat.not_lt.1 early))]
      rfl
  · rw [connect_eq, progress_failFast, usable]
    cases result : Http.pingResult (response 0) with
    | ok answer => rw [attempt_of_answer address result]; rfl
    | error error => rw [attempt_of_failure address result]; rfl

/-- Two pings fail and the third is answered; at an unusable address none would be sent. -/
theorem third_ping_is_answered :
    let response (n : Nat) : Http.Response := if n < 2 then .answered 503 "" else .answered 200 ""
    ((∃ n, Http.pingResult (response n) = .ok ()) ∧ Address.read "http://[::1]" = .ok ⟨"http", "[::1]", none, ""⟩) ∧
    connect .retry "http://[::1]" response 2 = none ∧
    connect .retry "http://[::1]" response 3 = some (.ok ⟨"http", "[::1]", none, ""⟩, 3) ∧
    (progress .retry "not a url" response 3).sent = 0 := by
  intro response
  have answered : ∃ n, Http.pingResult (response n) = .ok () := ⟨2, rfl⟩
  have usable : Address.read "http://[::1]" = .ok ⟨"http", "[::1]", none, ""⟩ := rfl
  have unusable : Address.read "not a url" = .error .withoutScheme := rfl
  obtain ⟨⟨n, answer, failed, ends⟩, -⟩ := (connecting_ends "http://[::1]" response answered).2 _ usable
  have third : n = 2 := by
    rcases Nat.lt_trichotomy n 2 with early | third | late
    · rw [show response n = .answered 503 "" from if_pos early] at answer
      cases answer
    · exact third
    · exact absurd rfl (failed 2 late)
  subst third
  refine ⟨⟨answered, usable⟩, ?_, ?_, (((connecting_ends "not a url" response answered).1 _ unusable).2 3).2⟩
  · rw [ends, if_neg (by decide)]
  · rw [ends, if_pos (by decide)]

/-- An unusable address is retried for ever, though every ping would be answered. -/
theorem unusable_address_never_given_up :
    let response (_ : Nat) : Http.Response := .answered 200 ""
    Address.read "not a url" = .error .withoutScheme ∧ (∀ n, Http.pingResult (response n) = .ok ()) ∧
      ∀ attempts, connect .retry "not a url" response attempts = none := by
  intro response
  have unusable : Address.read "not a url" = .error .withoutScheme := rfl
  refine ⟨unusable, fun _ => rfl, fun attempts => ?_⟩
  rw [connect_eq, progress_retry_of_unusable unusable]
  rfl

end SearchTenancy.Connection

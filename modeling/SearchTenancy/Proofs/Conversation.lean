import SearchTenancy.Proofs.Operation

/-!
# Conversations with a backend

The calls that a program makes, each with the reply that it gets, are its transcript
(`Program.transcript`). What a program may ask can depend on what was said before, and
its result on the whole conversation. Both are looked at on the program itself, for all
replies at once (`Program.Keeps`), and then hold of the transcript on every backend
(`Keeps.transcript`).

Operations that may fail have one rule for each way in which they are put together. In a
sequence the second part only has to deal with the success of the first
(`Operation.Keeps.bind`).
-/

namespace SearchTenancy

/-- A call with the reply that it got. -/
structure Exchange where
  call : Call
  reply : Reply call

/-- The failure that was reported, if any was. -/
def Exchange.failure? (exchange : Exchange) : Option BackendError :=
  match exchange.reply with
  | .ok _ => none
  | .error failure => some failure

/-- The ways to divide a list with a last item at one of its items: at the last one, or before. -/
theorem eq_of_concat_eq {α : Type} {past before after : List α} {last item : α}
    (divided : past ++ [last] = before ++ item :: after) :
    (before = past ∧ item = last ∧ after = []) ∨ ∃ rest, after = rest ++ [last] ∧ past = before ++ item :: rest := by
  rcases List.eq_nil_or_concat after with none | ⟨rest, final, listed⟩
  · subst none
    obtain ⟨same, ends⟩ := List.append_inj' divided rfl
    cases ends
    exact .inl ⟨same.symm, rfl, rfl⟩
  · rw [List.concat_eq_append] at listed
    subst listed
    rw [← List.cons_append, ← List.append_assoc] at divided
    obtain ⟨same, ends⟩ := List.append_inj' divided rfl
    cases ends
    exact .inr ⟨rest, rfl, same⟩

variable {σ α β : Type}

namespace Program

/-- The conversation of a program with a backend. -/
def transcript (backend : Backend σ) : Program α → σ → List Exchange
  | done _, _ => []
  | call c next, state =>
    ⟨c, (backend state c).1⟩ :: (next (backend state c).1).transcript backend (backend state c).2

/-- A backend that logs its calls logs those of the conversation. -/
theorem run_logged (backend : Backend σ) (program : Program α) (state : σ) (log : List Call) :
    program.run backend.logged (state, log) =
      ((program.run backend state).1, (program.run backend state).2,
        log ++ (program.transcript backend state).map Exchange.call) := by
  induction program generalizing state log with
  | done result => simp [transcript]
  | call c next ih =>
    rw [run_call, run_call, transcript]
    show (next (backend state c).1).run backend.logged ((backend state c).2, log ++ [c]) = _
    rw [ih]
    simp

/-- What a program can call at all is what it calls in a conversation. -/
theorem Makes.transcript {allowed : Call → Prop} {program : Program α} (h : program.Makes allowed)
    (backend : Backend σ) (state : σ) : ∀ exchange ∈ program.transcript backend state, allowed exchange.call := by
  induction program generalizing state with
  | done result => simp [Program.transcript]
  | call c next ih =>
    intro exchange mem
    rcases List.mem_cons.1 mem with rfl | later
    · exact h.1
    · exact ih _ (h.2 _) _ exchange later

variable {allowed : List Exchange → Call → Prop} {ended : List Exchange → α → Prop}

/-- Whatever the replies are, each call is allowed after the exchanges before it, of which `past` were made
already, and the result is allowed after all of them. -/
def Keeps (allowed : List Exchange → Call → Prop) (ended : List Exchange → α → Prop) :
    List Exchange → Program α → Prop
  | past, done result => ended past result
  | past, call c next => allowed past c ∧ ∀ reply, (next reply).Keeps allowed ended (past ++ [⟨c, reply⟩])

theorem Keeps.imp {other : List Exchange → α → Prop} (weaker : ∀ past result, ended past result → other past result)
    {past : List Exchange} {program : Program α} (h : program.Keeps allowed ended past) :
    program.Keeps allowed other past := by
  induction program generalizing past with
  | done result => exact weaker past result h
  | call c next ih => exact ⟨h.1, fun reply => ih reply (h.2 reply)⟩

theorem Keeps.bind {final : List Exchange → β → Prop} {past : List Exchange} {program : Program α}
    {next : α → Program β} (h : program.Keeps allowed (fun past value => (next value).Keeps allowed final past) past) :
    (program.bind next).Keeps allowed final past := by
  induction program generalizing past with
  | done result => exact h
  | call c continuation ih => exact ⟨h.1, fun reply => ih reply (h.2 reply)⟩

/-- What a program keeps holds of its conversation with every backend. -/
theorem Keeps.transcript {past : List Exchange} {program : Program α} (h : program.Keeps allowed ended past)
    (backend : Backend σ) (state : σ) :
    (∀ before exchange after, program.transcript backend state = before ++ exchange :: after →
      allowed (past ++ before) exchange.call) ∧
    ended (past ++ program.transcript backend state) (program.run backend state).1 := by
  induction program generalizing past state with
  | done result =>
    have ends : ended past result := h
    refine ⟨?_, by simpa [Program.transcript] using ends⟩
    intro before exchange after divided
    exact absurd divided.symm (by simp [Program.transcript])
  | call c next ih =>
    obtain ⟨calls, result⟩ := ih _ (h.2 (backend state c).1) (backend state c).2
    rw [List.append_assoc] at result
    refine ⟨?_, result⟩
    intro before exchange after divided
    -- The call is the first one, or it is a call of the rest.
    cases before with
    | nil =>
      cases divided
      simpa using h.1
    | cons first earlier =>
      simp only [Program.transcript, List.cons_append, List.cons.injEq] at divided
      obtain ⟨rfl, rest⟩ := divided
      have later := calls earlier exchange after rest
      rwa [List.append_assoc] at later

end Program

namespace Operation

/-- The conversation of an operation with a backend. -/
def transcript (backend : Backend σ) (operation : Operation α) (state : σ) : List Exchange :=
  Program.transcript backend operation.run state

variable {allowed : List Exchange → Call → Prop} {failed : List Exchange → SearchError → Prop}

/-- Each call of the operation is allowed after what was said before it. If the operation succeeds, `done`
holds at the end, and `failed` if it fails. -/
def Keeps (allowed : List Exchange → Call → Prop) (failed : List Exchange → SearchError → Prop)
    (past : List Exchange) (operation : Operation α) (done : List Exchange → α → Prop) : Prop :=
  Program.Keeps allowed (fun past result =>
    match result with
    | .ok value => done past value
    | .error error => failed past error) past operation.run

variable {past : List Exchange} {done : List Exchange → α → Prop}

theorem keeps_pure {value : α} (h : done past value) : Keeps allowed failed past (pure value) done := h

theorem keeps_throw {error : SearchError} (h : failed past error) :
    Keeps allowed failed past (throw error : Operation α) done := h

theorem keeps_ofExcept {result : Except SearchError α} (ok : ∀ value, result = .ok value → done past value)
    (refused : ∀ error, result = .error error → failed past error) :
    Keeps allowed failed past (ofExcept result) done := by
  cases result with
  | ok value => exact ok value rfl
  | error error => exact refused error rfl

theorem keeps_call {c : Call} {meaning : BackendError → SearchError} {done : List Exchange → c.Answer → Prop}
    (allows : allowed past c) (ok : ∀ answer : c.Answer, done (past ++ [⟨c, .ok answer⟩]) answer)
    (refused : ∀ failure, failed (past ++ [⟨c, .error failure⟩]) (meaning failure)) :
    Keeps allowed failed past (call c meaning) done := by
  refine ⟨allows, fun reply => ?_⟩
  cases reply with
  | ok answer => exact ok answer
  | error failure => exact refused failure

theorem keeps_attempt {c : Call} {done : List Exchange → Reply c → Prop} (allows : allowed past c)
    (answered : ∀ reply : Reply c, done (past ++ [⟨c, reply⟩]) reply) :
    Keeps allowed failed past (attempt c) done := ⟨allows, answered⟩

theorem Keeps.imp {operation : Operation α} {other : List Exchange → α → Prop} (h : Keeps allowed failed past operation done)
    (weaker : ∀ past value, done past value → other past value) : Keeps allowed failed past operation other := by
  refine Program.Keeps.imp ?_ h
  intro past result h
  cases result with
  | ok value => exact weaker past value h
  | error error => exact h

theorem Keeps.bind {operation : Operation α} {next : α → Operation β} {middle : List Exchange → α → Prop}
    {done : List Exchange → β → Prop} (first : Keeps allowed failed past operation middle)
    (rest : ∀ past value, middle past value → Keeps allowed failed past (next value) done) :
    Keeps allowed failed past (operation >>= next) done := by
  refine Program.Keeps.bind (Program.Keeps.imp ?_ first)
  intro past result h
  cases result with
  | ok value => exact rest past value h
  | error error => exact h

theorem Keeps.discard {operation : Operation α} {done : List Exchange → Unit → Prop}
    (h : Keeps allowed failed past operation fun past _ => done past ()) :
    Keeps allowed failed past (discard operation) done := by
  refine Program.Keeps.bind (Program.Keeps.imp ?_ h)
  intro past result h
  cases result with
  | ok value => exact h
  | error error => exact h

/-- What an operation keeps holds of its conversation with every backend. -/
theorem Keeps.transcript {operation : Operation α} (h : Keeps allowed failed past operation done)
    (backend : Backend σ) (state : σ) :
    (∀ before exchange after, operation.transcript backend state = before ++ exchange :: after →
      allowed (past ++ before) exchange.call) ∧
    (∀ value, (runOn backend operation state).1 = .ok value → done (past ++ operation.transcript backend state) value) ∧
    ∀ error, (runOn backend operation state).1 = .error error →
      failed (past ++ operation.transcript backend state) error := by
  obtain ⟨calls, result⟩ := Program.Keeps.transcript h backend state
  refine ⟨calls, ?_, ?_⟩
  · intro value succeeded
    change (Program.run backend operation.run state).1 = _ at succeeded
    rw [succeeded] at result
    exact result
  · intro error refused
    change (Program.run backend operation.run state).1 = _ at refused
    rw [refused] at result
    exact result

end Operation

end SearchTenancy

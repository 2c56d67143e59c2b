import SearchTenancy.Backend.Call

/-!
# Running operations

What an operation does on a backend (`Operation.runOn`), with one law for each way
in which operations are put together. The calls that an operation can make are
looked at apart from any backend (`Operation.Makes`): a property of all of them holds
whatever the replies are.
-/

namespace SearchTenancy

variable {σ α β : Type}

namespace Program

/-- Every call that the program can make satisfies `allowed`, whatever the replies are. -/
def Makes (allowed : Call → Prop) : Program α → Prop
  | done _ => True
  | call c next => allowed c ∧ ∀ reply, (next reply).Makes allowed

theorem Makes.imp {allowed other : Call → Prop} (weaker : ∀ c, allowed c → other c) {program : Program α}
    (h : program.Makes allowed) : program.Makes other := by
  induction program with
  | done result => trivial
  | call c next ih => exact ⟨weaker c h.1, fun reply => ih reply (h.2 reply)⟩

theorem Makes.bind {allowed : Call → Prop} {program : Program α} {next : α → Program β}
    (first : program.Makes allowed) (rest : ∀ value, (next value).Makes allowed) :
    (program.bind next).Makes allowed := by
  induction program with
  | done result => exact rest result
  | call c continuation ih => exact ⟨first.1, fun reply => ih reply (first.2 reply)⟩

/-- A program whose calls leave every state alone leaves the state alone. -/
theorem run_state_of_makes {backend : Backend σ} {allowed : Call → Prop}
    (still : ∀ c state, allowed c → (backend state c).2 = state) {program : Program α}
    (h : program.Makes allowed) (state : σ) : (program.run backend state).2 = state := by
  induction program generalizing state with
  | done result => rfl
  | call c next ih =>
    rw [run_call, still c state h.1]
    exact ih _ (h.2 _) state

/-- A program cannot tell states apart that its calls leave alone and answer alike. -/
theorem run_result_of_makes {backend : Backend σ} {allowed : Call → Prop} {one other : σ}
    (still : ∀ c state, allowed c → (backend state c).2 = state)
    (alike : ∀ c, allowed c → (backend one c).1 = (backend other c).1) {program : Program α}
    (h : program.Makes allowed) : (program.run backend one).1 = (program.run backend other).1 := by
  induction program with
  | done result => rfl
  | call c next ih =>
    rw [run_call, run_call, still c one h.1, still c other h.1, alike c h.1]
    exact ih _ (h.2 _)

end Program

namespace Operation

/-- The result of an operation on a backend, and the state it leaves. -/
def runOn (backend : Backend σ) (operation : Operation α) (state : σ) : Except SearchError α × σ :=
  Program.run backend operation.run state

variable (backend : Backend σ) (state : σ)

@[simp]
theorem runOn_pure (value : α) : runOn backend (pure value) state = (.ok value, state) := rfl

@[simp]
theorem runOn_throw (error : SearchError) :
    runOn backend (throw error : Operation α) state = (.error error, state) := rfl

@[simp]
theorem runOn_ofExcept (result : Except SearchError α) :
    runOn backend (ofExcept result) state = (result, state) := rfl

/-- One call: the reply is given a meaning. The type of the answer is left open, since it is
known only once the call is. -/
@[simp]
theorem runOn_mk_call (c : Call) (next : Reply c → Except SearchError α) :
    runOn backend (ExceptT.mk (.call c fun reply => .done (next reply)) : Operation α) state =
      (next (backend state c).1, (backend state c).2) := rfl

/-- One operation after the other: the second runs only if the first succeeds. -/
theorem runOn_bind (operation : Operation α) (next : α → Operation β) :
    runOn backend (operation >>= next) state =
      match runOn backend operation state with
      | (.ok value, state) => runOn backend (next value) state
      | (.error failure, state) => (.error failure, state) := by
  show Program.run backend (operation.run.bind (ExceptT.bindCont next)) state = _
  rw [Program.run_bind]
  unfold runOn
  generalize operation.run.run backend state = outcome
  obtain ⟨result, left⟩ := outcome
  cases result <;> rfl

theorem runOn_bind_ok {operation : Operation α} {next : α → Operation β} {value : α} {left : σ}
    (h : runOn backend operation state = (.ok value, left)) :
    runOn backend (operation >>= next) state = runOn backend (next value) left := by
  rw [runOn_bind, h]

theorem runOn_bind_error {operation : Operation α} {next : α → Operation β} {failure : SearchError} {left : σ}
    (h : runOn backend operation state = (.error failure, left)) :
    runOn backend (operation >>= next) state = (.error failure, left) := by
  rw [runOn_bind, h]

/-- The result of an operation, with its value left out. -/
theorem runOn_discard (operation : Operation α) :
    runOn backend (discard operation) state =
      ((runOn backend operation state).1.map fun _ => (), (runOn backend operation state).2) := by
  show Program.run backend (operation.run.bind _) state = _
  rw [Program.run_bind]
  unfold runOn
  generalize operation.run.run backend state = outcome
  obtain ⟨result, left⟩ := outcome
  cases result <;> rfl

/-! ## The calls of an operation -/

/-- Every call that the operation can make satisfies `allowed`, whatever the replies are. -/
def Makes (allowed : Call → Prop) (operation : Operation α) : Prop := operation.run.Makes allowed

variable {allowed : Call → Prop}

theorem makes_pure (value : α) : Makes allowed (pure value) := trivial

theorem makes_throw (error : SearchError) : Makes allowed (throw error : Operation α) := trivial

theorem makes_ofExcept (result : Except SearchError α) : Makes allowed (ofExcept result) := trivial

theorem makes_call {c : Call} (h : allowed c) (meaning : BackendError → SearchError) :
    Makes allowed (call c meaning) := ⟨h, fun _ => trivial⟩

theorem makes_attempt {c : Call} (h : allowed c) : Makes allowed (attempt c) := ⟨h, fun _ => trivial⟩

theorem Makes.bind {operation : Operation α} {next : α → Operation β} (first : Makes allowed operation)
    (rest : ∀ value, Makes allowed (next value)) : Makes allowed (operation >>= next) := by
  refine Program.Makes.bind first fun result => ?_
  cases result with
  | ok value => exact rest value
  | error failure => trivial

theorem Makes.discard {operation : Operation α} (h : Makes allowed operation) :
    Makes allowed (discard operation) := h.bind fun _ => makes_pure ()

end Operation

end SearchTenancy

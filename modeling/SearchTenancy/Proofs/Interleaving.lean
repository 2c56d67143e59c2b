import Mathlib.Logic.Function.Basic
import SearchTenancy.Backend.Call

/-!
# Programs that take turns

The programs of a family that run at the same time on one backend make their calls in
turns. Any order of the turns is possible (`Program.Interleaved`). What every single call
keeps holds when all programs are done (`Interleaved.keeps`), and what is left in the end
depends on the calls and their order alone, whoever makes them (`Interleaved.final_eq`).
Two programs are the family of two sides (`Program.Together`).
-/

namespace SearchTenancy

/-- One of two programs. -/
inductive Side where
  | one
  | other
  deriving DecidableEq

namespace Side

/-- One of two values. -/
def pick {α : Type} (first second : α) : Side → α
  | one => first
  | other => second

/-- The side across. -/
def peer : Side → Side
  | one => other
  | other => one

theorem peer_ne (side : Side) : side.peer ≠ side := by
  cases side <;> decide

theorem eq_or_peer (side first : Side) : side = first ∨ side = first.peer := by
  cases side <;> cases first <;> decide

end Side

namespace Program

variable {σ α β : Type} {backend : Backend σ}

/-- The program makes a call first, and with the reply in `state` it goes on as `rest`. -/
def Asks (program : Program α) (backend : Backend σ) (state : σ) (c : Call) (rest : Program α) : Prop :=
  ∃ next, program = .call c next ∧ next (backend state c).1 = rest

theorem Asks.bind {state : σ} {program rest : Program α} {c : Call} (asks : program.Asks backend state c rest)
    (next : α → Program β) : (program.bind next).Asks backend state c (rest.bind next) := by
  obtain ⟨continuation, rfl, rfl⟩ := asks
  exact ⟨_, rfl, rfl⟩

/-- The call that a program makes is the one that it asks for. -/
theorem Asks.of_call {state : σ} {program rest : Program α} {asked c : Call} {next : Reply c → Program α}
    (asks : program.Asks backend state asked rest) (calls : program = .call c next) :
    asked = c ∧ next (backend state c).1 = rest := by
  obtain ⟨next', is, after⟩ := asks
  rw [is] at calls
  cases calls
  exact ⟨rfl, after⟩

end Program

/-! ## Families of programs -/

/-- The state that calls leave, made one after the other. -/
def Backend.after {σ : Type} (backend : Backend σ) (state : σ) (calls : List Call) : σ :=
  calls.foldl (fun state c => (backend state c).2) state

theorem Backend.after_concat {σ : Type} (backend : Backend σ) (state : σ) (calls : List Call) (c : Call) :
    backend.after state (calls ++ [c]) = (backend (backend.after state calls) c).2 :=
  List.foldl_append

/-- What every call keeps holds after all calls. -/
theorem Backend.keeps_after {σ : Type} {backend : Backend σ} {Inv : σ → Prop}
    (call_keeps : ∀ state c, Inv state → Inv (backend state c).2) {state : σ} (start : Inv state)
    (calls : List Call) : Inv (backend.after state calls) := by
  induction calls generalizing state with
  | nil => exact start
  | cons c rest ih =>
    apply ih
    exact call_keeps state c start

namespace Program

variable {σ ι : Type} [DecidableEq ι] {α : ι → Type} {backend : Backend σ}

/-- The programs of a family make their calls in turns until all of them are done. The calls in their
order, with the program that makes each, the results, and the state that is left. -/
inductive Interleaved (backend : Backend σ) :
    ((i : ι) → Program (α i)) → σ → List (ι × Call) → ((i : ι) → α i) → σ → Prop where
  | done {programs : (i : ι) → Program (α i)} {results : (i : ι) → α i} (state : σ)
      (ended : ∀ i, programs i = .done (results i)) : Interleaved backend programs state [] results state
  | turn {programs : (i : ι) → Program (α i)} {state final : σ} {log : List (ι × Call)} {results : (i : ι) → α i}
      (i : ι) {c : Call} {next : Reply c → Program (α i)} (calls : programs i = .call c next)
      (rest : Interleaved backend (Function.update programs i (next (backend state c).1)) (backend state c).2
        log results final) : Interleaved backend programs state ((i, c) :: log) results final

namespace Interleaved

variable {programs : (i : ι) → Program (α i)} {state final : σ} {log past : List (ι × Call)}
  {results : (i : ι) → α i}

/-- What the calls of all programs keep, together with the calls made so far, holds at the end. -/
theorem keeps (Inv : ((i : ι) → Program (α i)) → σ → List (ι × Call) → Prop)
    (turn_keeps : ∀ programs state past i c next, programs i = .call c next → Inv programs state past →
      Inv (Function.update programs i (next (backend state c).1)) (backend state c).2 (past ++ [(i, c)]))
    (h : Interleaved backend programs state log results final) (start : Inv programs state past) :
    Inv (fun i => .done (results i)) final (past ++ log) := by
  induction h generalizing past with
  | @done programs results state ended =>
    have same : programs = fun i => .done (results i) := funext ended
    rw [List.append_nil, ← same]
    exact start
  | @turn programs state final log results i c next calls rest ih =>
    have kept := ih (turn_keeps programs state past i c next calls start)
    rwa [List.append_assoc] at kept

/-- The state that is left depends on the calls and their order alone. -/
theorem final_eq (h : Interleaved backend programs state log results final) :
    final = backend.after state (log.map Prod.snd) := by
  induction h with
  | done state ended => rfl
  | turn i calls rest ih => exact ih

end Interleaved

/-- Two programs make their calls in turns until both are done. The calls in their order, with the
side that makes each, the two results, and the state that is left. -/
def Together {α : Type} (backend : Backend σ) (one other : Program α) (state : σ) (log : List (Side × Call)) (a b : α)
    (final : σ) : Prop :=
  Interleaved backend (fun side => Side.pick one other side) state log (fun side => Side.pick a b side) final

end Program

end SearchTenancy

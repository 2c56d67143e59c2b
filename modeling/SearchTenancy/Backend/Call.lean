import SearchTenancy.Alias
import SearchTenancy.Error

/-!
# Calls to a backend

The requests that this library makes of a search backend, and what each is answered
with. A program of calls is a tree: it ends with a result, or it makes a call and
goes on depending on the reply. The same program runs against any backend, which is
a function from a state and a call to a reply and a state (`Program.run`).
-/

namespace SearchTenancy

/-- How a search treats the name of its index. -/
structure SearchOptions where
  /-- A name is not taken for a pattern. -/
  expandWildcardsNone : Bool
  /-- A name without an index is no error. -/
  allowNoIndices : Bool
  deriving DecidableEq

/-- A name stands for itself and has to exist. -/
def SearchOptions.strict : SearchOptions := ⟨true, false⟩

/-- A call to a backend. -/
inductive Call where
  | indexCreate (index : String)
  | indexDelete (index : String)
  | aliasGet (aliasName : String)
  | aliasPut (index aliasName : String)
  | aliasesUpdate (actions : List AliasAction)
  /-- Stores a document; without an id the backend chooses one. -/
  | documentIndex (index : String) (objectId : Option String) (body : Json)
  | documentGet (index objectId : String)
  | documentDelete (index objectId : String)
  | bulk (index : String) (lines : List Json)
  | search (index : String) (body : Json) (options : SearchOptions)
  | mappingGet (index : String)
  | mappingPut (index : String) (body : Json)
  | stats (index : String)

/-- What the storage of a document is answered with. -/
structure DocumentWrite where
  objectId : String
  version : Int

/-- A document as a backend has it. -/
structure StoredDocument where
  objectId : String
  source : Members

/-- What a call is answered with. -/
@[reducible]
def Call.Answer : Call → Type
  | aliasGet _ | bulk _ _ | search _ _ _ | mappingGet _ | stats _ => Json
  | documentIndex _ _ _ => DocumentWrite
  | documentGet _ _ => StoredDocument
  | indexCreate _ | indexDelete _ | aliasPut _ _ | aliasesUpdate _ | documentDelete _ _ | mappingPut _ _ => Unit

/-- The reply to a call: an answer, or a report of a failure. -/
abbrev Reply (call : Call) := Except BackendError call.Answer

/-- A backend with states of type `σ`. -/
abbrev Backend (σ : Type) := σ → (call : Call) → Reply call × σ

/-- A program of calls. -/
inductive Program (α : Type) where
  | done (result : α)
  | call (call : Call) (next : Reply call → Program α)

namespace Program

variable {σ α β : Type}

/-- One program after the other. -/
def bind : Program α → (α → Program β) → Program β
  | done result, next => next result
  | call c continuation, next => call c fun reply => (continuation reply).bind next

instance : Monad Program where
  pure := done
  bind := bind

/-- The result of a program on a backend, and the state it leaves. -/
def run (backend : Backend σ) : Program α → σ → α × σ
  | done result, state => (result, state)
  | call c next, state =>
    let (reply, state) := backend state c
    (next reply).run backend state

@[simp]
theorem run_done (backend : Backend σ) (result : α) (state : σ) :
    (done result).run backend state = (result, state) := rfl

@[simp]
theorem run_call (backend : Backend σ) (c : Call) (next : Reply c → Program α) (state : σ) :
    (call c next).run backend state = (next (backend state c).1).run backend (backend state c).2 := rfl

/-- Running one program after the other runs the second from the state the first leaves. -/
theorem run_bind (backend : Backend σ) (program : Program α) (next : α → Program β) (state : σ) :
    (program.bind next).run backend state =
      (next (program.run backend state).1).run backend (program.run backend state).2 := by
  induction program generalizing state with
  | done result => rfl
  | call c continuation ih => exact ih _ _

end Program

/-- The backend that also keeps the calls it has answered, in their order. -/
def Backend.logged {σ : Type} (backend : Backend σ) : Backend (σ × List Call) := fun state call =>
  let (reply, inner) := backend state.1 call
  (reply, inner, state.2 ++ [call])

/-- A program that may fail. -/
abbrev Operation (α : Type) := ExceptT SearchError Program α

namespace Operation

variable {α : Type}

/-- A call whose failure is given a meaning. -/
def call (c : Call) (meaning : BackendError → SearchError) : Operation c.Answer :=
  ExceptT.mk (.call c fun reply => .done (reply.mapError meaning))

/-- A call whose reply is looked at as it is. -/
def attempt (c : Call) : Operation (Reply c) := ExceptT.mk (.call c fun reply => .done (.ok reply))

/-- A result that needs no call. -/
def ofExcept (result : Except SearchError α) : Operation α := ExceptT.mk (.done result)

/-- What is read from an answer. -/
def reading (result : Except AnswerFault α) : Operation α := ofExcept (result.mapError .unreadable)

end Operation

end SearchTenancy

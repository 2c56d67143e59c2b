import SearchTenancy.Backend.Call
import SearchTenancy.Generation

/-!
# Life of an index

A logical index exists while an alias of its physical id exists. Its storage is
created by the first write: a generation, and then the alias that stands for it. A
move makes one alias stand for what another stands for, in a single update of the
alias table. A drop deletes the storage, and with it the alias.
-/

namespace SearchTenancy.Lifecycle

/-- The indices that an answer about an alias lists, in key order. -/
def aliasedIndices (response : Json) : List String := (response.asObject?.getD []).map (·.1)

/-- The generations behind an alias, `none` if there is no alias or nothing behind it. -/
def lookup (aliasName : String) : Operation (Option (List String)) := do
  match ← Operation.attempt (.aliasGet aliasName) with
  | .ok response =>
    let generations := aliasedIndices response
    return if generations.isEmpty then none else some generations
  | .error failure =>
    match failure.classify aliasName none with
    | .indexNotFound _ => return none
    | other => throw other

/-- The generations behind an index that has to exist. -/
def requireExists (physical : String) : Operation (List String) := do
  match ← lookup physical with
  | some generations => return generations
  | none => throw (.indexNotFound physical)

/-- Creates the storage of an index unless there is one; a new generation is named after `now`. -/
def ensureExists (now : Instant) (physical : String) : Operation Unit := do
  match ← lookup physical with
  | some _ => return ()
  | none =>
    let generation := generationName physical now
    Operation.call (.indexCreate generation) .unclassified
    Operation.call (.aliasPut generation physical) .unclassified

/-- The changes that make `destination` stand for exactly the generations of a source. -/
def moveActions (destination : String) (replaced generations : List String) : List AliasAction :=
  (replaced.filter fun generation => !generations.contains generation).map (.remove · destination) ++
    generations.map (.add · destination)

/-- Makes `destination` stand for what `source` stands for; the changes that were made. -/
def moveIndex (source destination : String) : Operation (List AliasAction) := do
  let generations ← requireExists source
  let replaced := (← lookup destination).getD []
  let actions := moveActions destination replaced generations
  Operation.call (.aliasesUpdate actions) .unclassified
  return actions

/-- Deletes generations one after the other. -/
def deleteAll (physical : String) : List String → Operation Unit
  | [] => return ()
  | generation :: rest => do
    Operation.call (.indexDelete generation) (·.classify physical none)
    deleteAll physical rest

/-- Deletes the storage of an index. -/
def dropIndex (physical : String) : Operation Unit := do
  deleteAll physical (← requireExists physical)

end SearchTenancy.Lifecycle

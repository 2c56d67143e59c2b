import SearchTenancy.Backend.Call

/-!
# The scripted backend

A backend that replies with given replies in their order, whatever the calls are. An
answer is given as JSON and is read as the answer of the call that it meets.
-/

namespace SearchTenancy.Script

/-- The replies that are left. -/
abbrev State := List (Except BackendError Json)

/-- The report that no reply is left. -/
def exhausted : BackendError := .transport "script exhausted"

/-- A given answer as the answer of a call; what is missing has a default. -/
def answer (value : Json) : (call : Call) → call.Answer
  | .aliasGet _ | .bulk _ _ | .search _ _ _ | .mappingGet _ | .stats _ => value
  | .documentIndex _ _ _ =>
    let version := (value.get? "version").bind fun
      | .num n => n.toInt64?
      | _ => none
    (⟨((value.get? "id").bind Json.asString?).getD "", version.getD 1⟩ : DocumentWrite)
  | .documentGet _ _ =>
    (⟨((value.get? "id").bind Json.asString?).getD "",
      ((value.get? "source").bind Json.asObject?).getD []⟩ : StoredDocument)
  | .indexCreate _ | .indexDelete _ | .aliasPut _ _ | .aliasesUpdate _ | .documentDelete _ _
  | .mappingPut _ _ => ()

/-- Replies with the next reply. -/
def step : Backend State
  | [], _ => (.error exhausted, [])
  | .error failure :: rest, _ => (.error failure, rest)
  | .ok value :: rest, call => (.ok (answer value call), rest)

end SearchTenancy.Script

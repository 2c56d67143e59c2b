import SearchTenancy.Proofs.Tenant.Requests

/-!
# Two moves at the same time

A move looks up the generations behind its source and those behind its destination, and
then updates the alias table once. What it has seen may be out of date by then. Here two
moves with one destination are followed through all orders in which their calls can be
made (`MoveStage.Moves`, `Phase`). The move that is applied first replaces what was behind
the destination. What the other one leaves there depends on how many of its look-ups are
made after that (`MoveStage.Late`), and `moves_to_one_destination` tells what that is.
-/

namespace SearchTenancy

open Operation

namespace Memory

/-- The actions of a move have been applied: the destination has the generations that were found, and those of
its own that were not to be replaced. -/
structure Moved (destination : String) (found replaced : List String) (before after : Memory) : Prop where
  there : ∀ index ∈ replaced, index ∉ found → index ∈ before.generations destination
  mem_iff : ∀ index, index ∈ after.generations destination ↔
    index ∈ found ∨ index ∈ before.generations destination ∧ index ∉ replaced
  others : ∀ name, name ≠ destination → after.generations name = before.generations name

/-- The actions of a move are applied, or refused without a change. -/
theorem aliasesUpdate_moveActions (memory : Memory) (destination : String) {replaced : List String}
    (distinct : replaced.Nodup) (found : List String) :
    (∃ after, memory.aliasesUpdate (Lifecycle.moveActions destination replaced found) = (.ok (), after) ∧
      Moved destination found replaced memory after) ∨
    ∃ failure, memory.aliasesUpdate (Lifecycle.moveActions destination replaced found) = (.error failure, memory) := by
  rcases memory.aliasesUpdate_cases (Lifecycle.moveActions destination replaced found) with
    ⟨all, changed, applied, stands⟩ | ⟨-, refused⟩
  · left
    obtain ⟨there, -⟩ := (allApply_moveActions _ _ _ distinct found).1 all
    have effect (name index : String) : StandsFor changed name index ↔
        if name = destination then index ∈ found ∨ StandsFor memory.aliases name index ∧ index ∉ replaced
        else StandsFor memory.aliases name index := by
      rw [stands, effect_moveActions]
    refine ⟨_, applied, fun index mem other => mem_generations.2 (there index mem other), ?_, ?_⟩
    · intro index
      rw [mem_generations, mem_generations]
      simpa using effect destination index
    · intro name other
      apply generations_congr
      intro index
      simpa [other] using effect name index
  · right
    exact refused

end Memory

/-! ## Stages of a move -/

/-- How far a move has come, and which generations it has seen behind its source and its destination. -/
inductive MoveStage where
  | begun
  | found (generations : List String)
  | ready (generations replaced : List String)
  | ended (result : Except SearchError Unit)

namespace MoveStage

open Memory

/-- The last part of a move: the update of the alias table. -/
def finish (destination : String) (generations replaced : List String) : Operation (List AliasAction) := do
  let actions := Lifecycle.moveActions destination replaced generations
  Operation.call (.aliasesUpdate actions) .unclassified
  return actions

/-- What is left to do of a move. -/
def program (source destination : String) : MoveStage → Program (Except SearchError Unit)
  | begun => ExceptT.run (discard (Lifecycle.moveIndex source destination))
  | found generations => ExceptT.run (discard (do
      finish destination generations ((← Lifecycle.lookup destination).getD [])))
  | ready generations replaced => ExceptT.run (discard (finish destination generations replaced))
  | ended result => .done result

/-- One call of a move. -/
inductive Moves (source destination : String) (memory : Memory) : MoveStage → Call → MoveStage → Memory → Prop where
  | find : Moves source destination memory .begun (.aliasGet source) (.found (memory.generations source)) memory
  | miss : Moves source destination memory .begun (.aliasGet source) (.ended (.error (.indexNotFound source))) memory
  | see (found : List String) : Moves source destination memory (.found found) (.aliasGet destination)
      (.ready found (memory.generations destination)) memory
  | apply {found replaced : List String} {after : Memory} (moved : Moved destination found replaced memory after) :
      Moves source destination memory (.ready found replaced)
        (.aliasesUpdate (Lifecycle.moveActions destination replaced found)) (.ended (.ok ())) after
  | refuse (found replaced : List String) (failure : SearchError) : Moves source destination memory
      (.ready found replaced) (.aliasesUpdate (Lifecycle.moveActions destination replaced found))
      (.ended (.error failure)) memory

variable {source destination : String} {memory : Memory}

/-- With the generations of the source at hand, a move looks up those of the destination. -/
theorem found_asks (found : List String) :
    (program source destination (.found found)).Asks step memory (.aliasGet destination)
      (program source destination (.ready found (memory.generations destination))) := by
  obtain ⟨seen, asks, same⟩ : ∃ seen, (Lifecycle.lookup destination).run.Asks step memory (.aliasGet destination)
      (.done (.ok seen)) ∧ seen.getD [] = memory.generations destination := by
    refine ⟨_, lookup_asks memory destination, ?_⟩
    cases memory.generations destination <;> rfl
  rw [← same]
  exact (asks.bind _).bind _

/-- A move looks up the generations of its source first. -/
theorem begun_asks :
    (program source destination .begun).Asks step memory (.aliasGet source)
      (program source destination (if memory.generations source = [] then .ended (.error (.indexNotFound source))
        else .found (memory.generations source))) := by
  have asks := lookup_asks memory source
  cases found : memory.generations source with
  | nil =>
    rw [found] at asks
    exact ((asks.bind _).bind _).bind _
  | cons first rest =>
    rw [found] at asks
    exact ((asks.bind _).bind _).bind _

/-- Every call of a move takes it to its next stage. -/
theorem moves_of_call {stage : MoveStage} {c : Call} {next : Reply c → Program (Except SearchError Unit)}
    (distinct : ∀ found replaced, stage = .ready found replaced → replaced.Nodup)
    (calls : stage.program source destination = .call c next) :
    ∃ stage', Moves source destination memory stage c stage' (step memory c).2 ∧
      next (step memory c).1 = stage'.program source destination := by
  cases stage with
  | begun =>
    obtain ⟨rfl, after⟩ := begun_asks.of_call calls
    split at after
    · exact ⟨_, .miss, after⟩
    · exact ⟨_, .find, after⟩
  | found generations =>
    obtain ⟨rfl, after⟩ := (found_asks generations).of_call calls
    exact ⟨_, .see generations, after⟩
  | ready found replaced =>
    cases calls
    rcases memory.aliasesUpdate_moveActions destination (distinct found replaced rfl) found with
      ⟨after, applied, moved⟩ | ⟨failure, refused⟩
    · have answered : step memory (.aliasesUpdate (Lifecycle.moveActions destination replaced found)) =
          (.ok (), after) := applied
      rw [answered]
      exact ⟨_, .apply moved, rfl⟩
    · have answered : step memory (.aliasesUpdate (Lifecycle.moveActions destination replaced found)) =
          (.error failure, memory) := refused
      rw [answered]
      exact ⟨_, .refuse found replaced _, rfl⟩
  | ended result => cases calls

/-- A move that makes no more calls has ended. -/
theorem ended_of_done {stage : MoveStage} {result : Except SearchError Unit}
    (done : stage.program source destination = .done result) : stage = .ended result := by
  cases stage with
  | ended other =>
    cases done
    rfl
  | begun | found _ | ready _ _ => cases done

/-- What a move has seen is still so. -/
def Fresh (memory : Memory) (source destination : String) : MoveStage → Prop
  | begun => True
  | found generations => generations = memory.generations source
  | ready generations replaced =>
    generations = memory.generations source ∧ replaced = memory.generations destination
  | ended _ => False

/-- What a move has seen in two states, and the look-ups that it has made in the second one. -/
inductive Late (start middle : Memory) (source destination : String) (side : Side) :
    MoveStage → List (Side × Call) → Prop where
  | begun : Late start middle source destination side .begun []
  | found : Late start middle source destination side (.found (start.generations source)) []
  | foundAnew : Late start middle source destination side (.found (middle.generations source))
      [(side, .aliasGet source)]
  | ready : Late start middle source destination side
      (.ready (start.generations source) (start.generations destination)) []
  | readyAnew : Late start middle source destination side
      (.ready (start.generations source) (middle.generations destination)) [(side, .aliasGet destination)]
  | allAnew : Late start middle source destination side
      (.ready (middle.generations source) (middle.generations destination))
      [(side, .aliasGet source), (side, .aliasGet destination)]

theorem Fresh.late {start middle : Memory} {source destination : String} {stage : MoveStage}
    (fresh : stage.Fresh start source destination) (side : Side) :
    Late start middle source destination side stage [] := by
  cases stage with
  | begun => exact .begun
  | found generations =>
    cases fresh
    exact .found
  | ready generations replaced =>
    obtain ⟨rfl, rfl⟩ := fresh
    exact .ready
  | ended result => exact fresh.elim

end MoveStage

/-! ## Both moves -/

open Memory MoveStage

/-- What both moves have done together, without a failure: nothing to the alias table, or one of them was applied,
or both. -/
inductive Phase (start : Memory) (source : Side → String) (destination : String) :
    (Side → MoveStage) → Memory → List (Side × Call) → Prop where
  | unchanged {stages : Side → MoveStage} {past : List (Side × Call)}
      (fresh : ∀ side, (stages side).Fresh start (source side) destination) :
      Phase start source destination stages start past
  | overtaken {stages : Side → MoveStage} {middle : Memory} (first : Side) (before : List (Side × Call))
      {lookups : List (Side × Call)} (actions : List AliasAction) (ended : stages first = .ended (.ok ()))
      (moved : Moved destination (start.generations (source first)) (start.generations destination) start middle)
      (late : Late start middle (source first.peer) destination first.peer (stages first.peer) lookups) :
      Phase start source destination stages middle (before ++ (first, .aliasesUpdate actions) :: lookups)
  | applied {stages : Side → MoveStage} {middle final : Memory} (first : Side) (before : List (Side × Call))
      {lookups : List (Side × Call)} (actions actions' : List AliasAction) {found replaced : List String}
      (ended : ∀ side, stages side = .ended (.ok ()))
      (moved : Moved destination (start.generations (source first)) (start.generations destination) start middle)
      (late : Late start middle (source first.peer) destination first.peer (.ready found replaced) lookups)
      (moved' : Moved destination found replaced middle final) :
      Phase start source destination stages final
        (before ++ (first, .aliasesUpdate actions) :: (lookups ++ [(first.peer, .aliasesUpdate actions')]))

namespace Phase

variable {start memory memory' : Memory} {source : Side → String} {destination : String} {stages : Side → MoveStage}
  {past : List (Side × Call)} {side : Side}

/-- A move that is ready has seen the destination in one of two states. -/
theorem nodup (phase : Phase start source destination stages memory past) {found replaced : List String}
    (ready : stages side = .ready found replaced) : replaced.Nodup := by
  cases phase with
  | unchanged fresh =>
    have seen := fresh side
    rw [ready] at seen
    rw [seen.2]
    exact start.nodup_generations destination
  | overtaken first before actions ended moved late =>
    rcases side.eq_or_peer first with rfl | rfl
    · rw [ended] at ready
      cases ready
    · rw [ready] at late
      cases late with
      | ready => exact start.nodup_generations destination
      | readyAnew | allAnew => exact memory.nodup_generations destination
  | applied first before actions actions' ended moved late moved' =>
    rw [ended side] at ready
    cases ready

/-- A call of one move takes both to their next phase, unless it fails. -/
theorem after (phase : Phase start source destination stages memory past) {c : Call} {stage : MoveStage}
    (moves : Moves (source side) destination memory (stages side) c stage memory') :
    (∃ failure, stage = .ended (.error failure)) ∨
      Phase start source destination (Function.update stages side stage) memory' (past ++ [(side, c)]) := by
  have others {side' : Side} (different : side' ≠ side) : Function.update stages side stage side' = stages side' :=
    Function.update_of_ne different ..
  generalize at_side : stages side = current at moves
  cases phase with
  | unchanged fresh =>
    have seen := fresh side
    rw [at_side] at seen
    -- A look-up of either move leaves what both have seen as it is.
    have still (fresh' : stage.Fresh start (source side) destination) :
        Phase start source destination (Function.update stages side stage) start (past ++ [(side, c)]) := by
      refine .unchanged fun side' => ?_
      by_cases is : side' = side
      · subst is
        rw [Function.update_self]
        exact fresh'
      · rw [others is]
        exact fresh side'
    cases moves with
    | find => exact .inr (still rfl)
    | miss => exact .inl ⟨_, rfl⟩
    | see found => exact .inr (still ⟨seen, rfl⟩)
    | apply moved =>
      obtain ⟨rfl, rfl⟩ := seen
      right
      refine .overtaken side past _ (Function.update_self ..) moved ?_
      rw [others side.peer_ne]
      exact (fresh side.peer).late side.peer
    | refuse found replaced failure => exact .inl ⟨failure, rfl⟩
  | @overtaken _ first before lookups actions ended moved late =>
    rcases side.eq_or_peer first with rfl | rfl
    · rw [ended] at at_side
      subst at_side
      cases moves
    · rw [at_side] at late
      have first_ended : Function.update stages first.peer stage first = .ended (.ok ()) := by
        rw [others (Ne.symm first.peer_ne), ended]
      rw [List.append_assoc, List.cons_append]
      -- A look-up of the second move adds to those that it has made since.
      have looked (late' : Late start memory (source first.peer) destination first.peer stage
          (lookups ++ [(first.peer, c)])) :
          Phase start source destination (Function.update stages first.peer stage) memory
            (before ++ (first, .aliasesUpdate actions) :: (lookups ++ [(first.peer, c)])) := by
        refine .overtaken first before actions first_ended moved ?_
        rw [Function.update_self]
        exact late'
      cases moves with
      | find =>
        cases late
        exact .inr (looked .foundAnew)
      | miss => exact .inl ⟨_, rfl⟩
      | see found =>
        cases late with
        | found => exact .inr (looked .readyAnew)
        | foundAnew => exact .inr (looked .allAnew)
      | @apply found replaced _ moved' =>
        right
        refine .applied first before actions _ (fun side' => ?_) moved late moved'
        rcases side'.eq_or_peer first with rfl | rfl
        · exact first_ended
        · exact Function.update_self ..
      | refuse found replaced failure => exact .inl ⟨failure, rfl⟩
  | applied first before actions actions' ended moved late moved' =>
    rw [ended side] at at_side
    subst at_side
    cases moves

end Phase

/-- Both moves are in a phase, or one of them has failed. -/
def InPhase (start : Memory) (source : Side → String) (destination : String)
    (programs : Side → Program (Except SearchError Unit)) (memory : Memory) (past : List (Side × Call)) : Prop :=
  (∃ side failure, programs side = .done (.error failure)) ∨
    ∃ stages, (∀ side, programs side = (stages side).program (source side) destination) ∧
      Phase start source destination stages memory past

theorem InPhase.turn {start memory : Memory} {source : Side → String} {destination : String}
    {programs : Side → Program (Except SearchError Unit)} {past : List (Side × Call)}
    (h : InPhase start source destination programs memory past) {side : Side} {c : Call}
    {next : Reply c → Program (Except SearchError Unit)} (calls : programs side = .call c next) :
    InPhase start source destination (Function.update programs side (next (step memory c).1)) (step memory c).2
      (past ++ [(side, c)]) := by
  rcases h with ⟨failed, failure, ended⟩ | ⟨stages, are, phase⟩
  · left
    have other : failed ≠ side := by
      rintro rfl
      rw [ended] at calls
      cases calls
    exact ⟨failed, failure, by rw [Function.update_of_ne other, ended]⟩
  · rw [are] at calls
    obtain ⟨stage, moves, after⟩ := moves_of_call (fun _ _ ready => phase.nodup ready) calls
    rw [after]
    rcases phase.after moves with ⟨failure, rfl⟩ | phase'
    · exact .inl ⟨side, failure, Function.update_self ..⟩
    · refine .inr ⟨_, fun side' => ?_, phase'⟩
      by_cases is : side' = side
      · subst is
        rw [Function.update_self, Function.update_self]
      · rw [Function.update_of_ne is, Function.update_of_ne is, are]

/-- Two moves that have both succeeded were applied one after the other. -/
theorem Phase.of_interleaved {start final : Memory} {source : Side → String} {destination : String}
    {log : List (Side × Call)} {results : Side → Except SearchError Unit}
    (interleaved : Program.Interleaved step
      (fun side => (MoveStage.begun).program (source side) destination) start log results final)
    (succeeded : ∀ side, results side = .ok ()) :
    ∃ stages, (∀ side, stages side = .ended (.ok ())) ∧ Phase start source destination stages final log := by
  have begun : InPhase start source destination (fun side => (MoveStage.begun).program (source side) destination) start
      [] := .inr ⟨fun _ => .begun, fun _ => rfl, .unchanged fun _ => trivial⟩
  rcases interleaved.keeps (InPhase start source destination)
    (fun _ _ _ _ _ _ calls h => h.turn calls) begun with ⟨side, failure, failed⟩ | ⟨stages, are, phase⟩
  · cases (succeeded side).symm.trans (Program.done.inj failed)
  · refine ⟨stages, fun side => ?_, phase⟩
    rw [← succeeded side]
    exact ended_of_done (are side).symm

namespace Memory

theorem generations_eq_singleton {memory : Memory} {name index : String}
    (same : ∀ other, other ∈ memory.generations name ↔ other = index) : memory.generations name = [index] := by
  apply eq_of_pairwise_lt (fun _ _ => String.lt_asymm) (memory.pairwise_generations name)
    (List.pairwise_singleton _ index)
  intro other
  rw [same, List.mem_singleton]

/-- Two moves at the same time that both succeed, from sources of one generation each to one destination of at most
one. The later of them makes some look-ups after the earlier one was applied (`lookups`). The destination ends with
the generation that the later one has found behind its source: its own one, or that of the earlier one if it looks
up the destination itself so late. Only if it made both of its look-ups too early, and saw nothing behind the
destination that it had to replace, does the destination end with the generations of both. -/
theorem moves_to_one_destination {memory final : Memory} {mover : Side → TenantIndex} {name : Side → String}
    {destination : String} (meet : ∀ side, physicalId (mover side).tenant (name side) = destination)
    {origin : Side → String} (backed : ∀ side, memory.generations (mover side).physical = [origin side])
    (different : origin .one ≠ origin .other) (few : (memory.generations destination).length ≤ 1)
    {log : List (Side × Call)} {results : Side → Except SearchError Unit}
    (interleaved : Program.Interleaved step (fun side => ((mover side).moveTo (name side)).run) memory log results final)
    (succeeded : ∀ side, results side = .ok ()) :
    ∃ first before lookups actions actions',
      log = before ++ (first, .aliasesUpdate actions) :: (lookups ++ [(first.peer, .aliasesUpdate actions')]) ∧
      (lookups = [] ∨ lookups = [(first.peer, .aliasGet destination)] ∨
        lookups = [(first.peer, .aliasGet (mover first.peer).physical), (first.peer, .aliasGet destination)]) ∧
      if lookups = [] ∧ (memory.generations destination = [] ∨ memory.generations destination = [origin first.peer]) then
        (final.generations destination).Perm [origin first, origin first.peer]
      else if lookups.length = 2 ∧ (mover first.peer).physical = destination then
        final.generations destination = [origin first]
      else final.generations destination = [origin first.peer] := by
  have programs : (fun side => ((mover side).moveTo (name side)).run) =
      fun side => (MoveStage.begun).program (mover side).physical destination := by
    funext side
    rw [← meet side]
    rfl
  rw [programs] at interleaved
  obtain ⟨stages, ended, phase⟩ := Phase.of_interleaved interleaved succeeded
  cases phase with
  | unchanged fresh =>
    have seen := fresh .one
    rw [ended] at seen
    exact seen.elim
  | overtaken first before actions _ moved late =>
    rw [ended] at late
    cases late
  | @applied middle _ first before lookups actions actions' found replaced _ moved late moved' =>
    have distinct : origin first ≠ origin first.peer := by
      cases first with
      | one => exact different
      | other => exact different.symm
    have replaced_first : middle.generations destination = [origin first] := by
      apply generations_eq_singleton
      intro index
      rw [moved.mem_iff, backed]
      simp
    refine ⟨first, before, lookups, actions, actions', rfl, ?_⟩
    cases late with
    | ready =>
      refine ⟨.inl rfl, ?_⟩
      have mem_final (index : String) : index ∈ final.generations destination ↔
          index = origin first.peer ∨ index = origin first ∧ index ∉ memory.generations destination := by
        rw [moved'.mem_iff, backed, replaced_first, List.mem_singleton, List.mem_singleton]
      split
      · rename_i nothing
        have both : [origin first, origin first.peer].Nodup := by simpa using distinct
        refine (List.perm_ext_iff_of_nodup (final.nodup_generations destination) both).2 fun index => ?_
        have kept : index = origin first → index ∉ memory.generations destination := by
          rintro rfl
          rcases nothing.2 with unset | own
          · simp [unset]
          · simpa [own] using distinct
        rw [mem_final]
        simp only [List.mem_cons, List.not_mem_nil, or_false]
        tauto
      · rename_i something
        -- What was behind the destination could only be taken away because the earlier move had put it there.
        have own : memory.generations destination = [origin first] := by
          rcases is : memory.generations destination with _ | ⟨only, _ | ⟨second, rest⟩⟩
          · exact absurd ⟨rfl, .inl is⟩ something
          · have stale : only ∉ [origin first.peer] := by
              intro same
              rw [List.mem_singleton] at same
              exact something ⟨rfl, .inr (by rw [is, same])⟩
            have there := moved'.there only (by simp [is]) (by rwa [backed])
            rw [replaced_first, List.mem_singleton] at there
            rw [there]
          · rw [is] at few
            simp at few
        rw [if_neg (by simp)]
        apply generations_eq_singleton
        intro index
        rw [mem_final, own]
        simp
    | readyAnew =>
      refine ⟨.inr (.inl rfl), ?_⟩
      rw [if_neg (by simp), if_neg (by simp)]
      apply generations_eq_singleton
      intro index
      rw [moved'.mem_iff, backed, replaced_first]
      simp
    | allAnew =>
      refine ⟨.inr (.inr rfl), ?_⟩
      rw [if_neg (by simp)]
      split
      · rename_i own
        apply generations_eq_singleton
        intro index
        rw [moved'.mem_iff, own.2, replaced_first]
        simp
      · rename_i other
        have apart : (mover first.peer).physical ≠ destination := fun same => other ⟨rfl, same⟩
        apply generations_eq_singleton
        intro index
        rw [moved'.mem_iff, moved.others _ apart, backed, replaced_first]
        simp

/-- Two indices with storage of their own. -/
def pairRun : List Request :=
  [.atEpoch "acme" "old" (.put (some "1") (.obj [])), .atEpoch "acme" "new" (.put (some "1") (.obj []))]

/-- A move that begins after another one has ended replaces what that one has left. -/
theorem moves_in_turn_replace :
    ∃ log final, Program.Interleaved step
        (fun side => ((Side.pick ⟨.default, "acme", "old"⟩ ⟨.default, "acme", "new"⟩ side : TenantIndex).moveTo "live").run)
        (empty.after pairRun) log (fun _ => .ok ()) final ∧
      log.map Prod.fst = [.one, .one, .one, .other, .other, .other] ∧
      final.generations "acme_live" = ["acme_new_1970.1.1.0"] := by
  obtain ⟨log, final, interleaved, turns⟩ : ∃ log final, Program.Interleaved step
      (fun side => ((Side.pick ⟨.default, "acme", "old"⟩ ⟨.default, "acme", "new"⟩ side : TenantIndex).moveTo "live").run)
      (empty.after pairRun) log (fun _ => .ok ()) final ∧
      log.map Prod.fst = [.one, .one, .one, .other, .other, .other] := by
    refine ⟨_, _, .turn .one rfl (.turn .one rfl (.turn .one rfl (.turn .other rfl (.turn .other rfl (.turn .other rfl
      (.done _ ?_)))))), rfl⟩
    rintro (_ | _)
    · rfl
    · rfl
  refine ⟨log, final, interleaved, turns, ?_⟩
  have meet : ∀ side : Side, physicalId
      (Side.pick ⟨.default, "acme", "old"⟩ ⟨.default, "acme", "new"⟩ side : TenantIndex).tenant "live" = "acme_live" := by
    rintro (_ | _) <;> decide
  have backed : ∀ side : Side, (empty.after pairRun).generations
      (Side.pick ⟨.default, "acme", "old"⟩ ⟨.default, "acme", "new"⟩ side : TenantIndex).physical =
        [Side.pick "acme_old_1970.1.1.0" "acme_new_1970.1.1.0" side] := by
    rintro (_ | _) <;> decide +kernel
  have few : ((empty.after pairRun).generations "acme_live").length ≤ 1 := by decide +kernel
  obtain ⟨first, before, lookups, actions, actions', shape, made, left⟩ :=
    moves_to_one_destination meet backed (by decide) few interleaved (fun _ => rfl)
  have backwards := congrArg (fun calls => (calls.map Prod.fst).reverse) shape
  simp only [turns, List.map_append, List.map_cons, List.reverse_append, List.reverse_cons] at backwards
  rcases made with rfl | rfl | rfl
  · cases first <;> simp [Side.peer] at backwards
  · cases first <;> simp [Side.peer] at backwards
  · cases first with
    | one => simpa [TenantIndex.physical, physicalId, Side.pick, Side.peer] using left
    | other => simp [Side.peer] at backwards

/-- When both moves make their look-ups before either of them is applied, neither replaces what the other one
adds. -/
theorem moves_at_once_are_joined :
    (∀ side, (empty.after pairRun).generations (Side.pick "acme_old" "acme_new" side) =
      [Side.pick "acme_old_1970.1.1.0" "acme_new_1970.1.1.0" side]) ∧
    (empty.after pairRun).generations "acme_live" = [] ∧
    ∃ log final, Program.Interleaved step
        (fun side => ((Side.pick ⟨.default, "acme", "old"⟩ ⟨.default, "acme", "new"⟩ side : TenantIndex).moveTo "live").run)
        (empty.after pairRun) log (fun _ => .ok ()) final ∧
      log.map Prod.fst = [.one, .one, .other, .other, .one, .other] ∧
      final.generations "acme_live" = ["acme_new_1970.1.1.0", "acme_old_1970.1.1.0"] := by
  refine ⟨?_, by decide +kernel, _, _, .turn .one rfl (.turn .one rfl (.turn .other rfl (.turn .other rfl
    (.turn .one rfl (.turn .other rfl (.done _ ?_)))))), rfl, ?_⟩
  · rintro (_ | _) <;> decide +kernel
  · rintro (_ | _)
    · rfl
    · rfl
  · rfl

end Memory

end SearchTenancy

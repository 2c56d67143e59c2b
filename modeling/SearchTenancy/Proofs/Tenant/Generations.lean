import SearchTenancy.Proofs.Conversation
import SearchTenancy.Proofs.Tenant.Lifecycle

/-!
# What moves and drops leave

In every consistent state, whatever generations its aliases share, a move makes one alias
stand for exactly what another stands for (`Memory.Serves`), by a single update of the
alias table (`Memory.calls_moveIndex`). A drop deletes the generations behind a name, and
takes nothing else from the other aliases (`Memory.Drops`). Both fail without a change on
a name that is no alias.
-/

namespace SearchTenancy

open Operation

variable {σ α β : Type} (backend : Backend σ)

namespace Program

/-- A sequence of programs has one conversation after the other. -/
theorem transcript_bind (program : Program α) (next : α → Program β) (state : σ) :
    (program.bind next).transcript backend state = program.transcript backend state ++
      (next (program.run backend state).1).transcript backend (program.run backend state).2 := by
  induction program generalizing state with
  | done result => rfl
  | call c continuation ih => exact congrArg (_ :: ·) (ih _ _)

end Program

namespace Operation

/-- The calls that an operation makes, in their order. -/
def calls (operation : Operation α) (state : σ) : List Call := (operation.transcript backend state).map Exchange.call

/-- A backend that logs its calls logs those of the operation. -/
theorem runOn_logged (operation : Operation α) (state : σ) :
    runOn backend.logged operation (state, []) =
      ((runOn backend operation state).1, (runOn backend operation state).2, operation.calls backend state) :=
  Program.run_logged backend operation.run state []

/-- The second operation makes its calls only if the first succeeds. -/
theorem calls_bind (operation : Operation α) (next : α → Operation β) (state : σ) :
    (operation >>= next).calls backend state = operation.calls backend state ++
      match runOn backend operation state with
      | (.ok value, left) => (next value).calls backend left
      | (.error _, _) => [] := by
  show (Program.transcript backend (operation.run.bind (ExceptT.bindCont next)) state).map Exchange.call = _
  rw [Program.transcript_bind, List.map_append]
  unfold runOn calls transcript
  generalize operation.run.run backend state = outcome
  obtain ⟨result, left⟩ := outcome
  cases result <;> rfl

end Operation

namespace Memory

variable {memory : Memory}

/-! ## Moves -/

theorem calls_lookup (memory : Memory) (name : String) : (Lifecycle.lookup name).calls step memory = [.aliasGet name] := by
  obtain ⟨next, asks, answered⟩ := lookup_asks memory name
  unfold Operation.calls transcript
  rw [asks, Program.transcript, answered]
  rfl

theorem calls_requireExists (h : memory.Consistent) (name : String) :
    (Lifecycle.requireExists name).calls step memory = [.aliasGet name] := by
  unfold Lifecycle.requireExists
  rw [calls_bind, calls_lookup, runOn_lookup h]
  cases memory.aliases.get? name <;> rfl

/-- A move looks up its source, and if that is an alias, its destination, and then updates the alias table
once. -/
theorem calls_moveIndex (h : memory.Consistent) (source destination : String) :
    (Lifecycle.moveIndex source destination).calls step memory =
      .aliasGet source :: match memory.aliases.get? source with
        | some behind => [.aliasGet destination,
            .aliasesUpdate (Lifecycle.moveActions destination (memory.generations destination) behind.keys)]
        | none => [] := by
  unfold Lifecycle.moveIndex
  rw [calls_bind, calls_requireExists h, runOn_requireExists h]
  cases memory.aliases.get? source with
  | none => rfl
  | some behind =>
    show [Call.aliasGet source] ++ Operation.calls step (Lifecycle.lookup destination >>= _) memory = _
    rw [calls_bind, calls_lookup, runOn_lookup h]
    dsimp only
    rw [calls_bind]
    -- Whatever the update is answered with, no call follows it.
    generalize runOn step (Operation.call (.aliasesUpdate _) _) memory = updated
    obtain ⟨_ | _, left⟩ := updated <;> rfl

/-- The destination has come to stand for what the source stands for. Nothing else has changed. -/
structure Serves (source destination : String) (before after : Memory) : Prop where
  taken : after.aliases.get? destination = before.aliases.get? source
  stays : after.aliases.get? source = before.aliases.get? source
  others : ∀ name, name ≠ destination → after.aliases.get? name = before.aliases.get? name
  indices : after.indices = before.indices
  nextId : after.nextId = before.nextId

theorem serves_insert {source destination : String} {behind : Names}
    (found : memory.aliases.get? source = some behind) :
    Serves source destination memory { memory with aliases := memory.aliases.insert destination behind } where
  taken := by rw [found, Dict.get?_insert_self]
  stays := by
    rw [Dict.get?_insert, found]
    split <;> rfl
  others name other := Dict.get?_insert_of_ne _ _ (Ne.symm other)
  indices := rfl
  nextId := rfl

/-- A move of a name that is an alias succeeds with one update of the alias table, and leaves the destination
with exactly the generations of the source. To move again changes nothing more. A move of any other name fails. -/
theorem move_serves_source (h : memory.Consistent) (source destination : String) :
    ((memory.aliases.get? source).isSome → ∃ actions left,
      runOn step.logged (Lifecycle.moveIndex source destination) (memory, []) =
        (.ok actions, left, [.aliasGet source, .aliasGet destination, .aliasesUpdate actions]) ∧
      Serves source destination memory left ∧
      ∃ again, runOn step (Lifecycle.moveIndex source destination) left = (.ok again, left)) ∧
    (memory.aliases.get? source = none →
      runOn step.logged (Lifecycle.moveIndex source destination) (memory, []) =
        (.error (.indexNotFound source), memory, [.aliasGet source])) := by
  have moved := runOn_moveIndex h source destination
  rw [runOn_logged, calls_moveIndex h]
  constructor
  · intro isAlias
    obtain ⟨behind, found⟩ := Option.isSome_iff_exists.1 isAlias
    rw [found] at moved
    have serves : Serves source destination memory _ := serves_insert found
    -- The state that is left is consistent, too, and its destination has nothing to be replaced.
    have consistent : Consistent { memory with aliases := memory.aliases.insert destination behind } := by
      have kept := h.run (Lifecycle.moveIndex source destination).run
      unfold runOn at moved
      rwa [moved] at kept
    have again := runOn_moveIndex consistent source destination
    rw [serves.stays.trans found] at again
    have same : (memory.aliases.insert destination behind).insert destination behind =
        memory.aliases.insert destination behind := by
      apply Dict.ext_get?
      intro name
      simp only [Dict.get?_insert]
      split <;> rfl
    dsimp only at again
    rw [same] at again
    exact ⟨_, _, by rw [moved, found], serves, _, again⟩
  · intro missing
    rw [missing] at moved
    rw [moved, missing]

/-- Two aliases that share a generation, an alias that shares all of its own with the first one, and a
generation that no alias stands for. -/
def sharing : Memory :=
  Backend.after step empty [.indexCreate "g1", .indexCreate "g2", .indexCreate "g3", .indexCreate "g4",
    .aliasPut "g1" "shop", .aliasPut "g2" "shop", .aliasPut "g2" "archive", .aliasPut "g3" "archive",
    .aliasPut "g1" "sale"]

theorem consistent_sharing : Consistent sharing := by
  have kept (memory : Memory) (c : Call) (h : memory.Consistent) : (step memory c).2.Consistent := h.step c
  exact Backend.keeps_after kept consistent_empty _

/-- A move between aliases that share one generation and differ in others. -/
theorem archive_serves_shop :
    (Consistent sharing ∧ (sharing.aliases.get? "shop").isSome ∧ sharing.aliases.get? "cellar" = none) ∧
    (∃ left, runOn step.logged (Lifecycle.moveIndex "shop" "archive") (sharing, []) =
        (.ok [.remove "g3" "archive", .add "g1" "archive", .add "g2" "archive"], left,
          [.aliasGet "shop", .aliasGet "archive",
            .aliasesUpdate [.remove "g3" "archive", .add "g1" "archive", .add "g2" "archive"]]) ∧
      Serves "shop" "archive" sharing left ∧ left.generations "archive" = ["g1", "g2"]) ∧
    runOn step.logged (Lifecycle.moveIndex "cellar" "archive") (sharing, []) =
      (.error (.indexNotFound "cellar"), sharing, [.aliasGet "cellar"]) := by
  have isAlias : (sharing.aliases.get? "shop").isSome := by decide
  have missing : sharing.aliases.get? "cellar" = none := by decide
  obtain ⟨actions, left, moved, serves, -⟩ := (move_serves_source consistent_sharing "shop" "archive").1 isAlias
  have lists : actions = [.remove "g3" "archive", .add "g1" "archive", .add "g2" "archive"] := by
    have answered := congrArg Prod.fst moved
    have computed : (runOn step.logged (Lifecycle.moveIndex "shop" "archive") (sharing, [])).1 =
        .ok [.remove "g3" "archive", .add "g1" "archive", .add "g2" "archive"] := by rfl
    exact Except.ok.inj (answered.symm.trans computed)
  subst lists
  have taken : left.generations "archive" = sharing.generations "shop" := by
    unfold generations
    rw [serves.taken]
  exact ⟨⟨consistent_sharing, isAlias, missing⟩, ⟨left, moved, serves, taken⟩,
    (move_serves_source consistent_sharing "cellar" "archive").2 missing⟩

/-! ## Drops -/

/-- The indices behind a name are gone, and nothing else has changed: the other aliases keep what is left of
theirs, and are no aliases any more if that is nothing. -/
structure Drops (physical : String) (before after : Memory) : Prop where
  gone : ∀ index ∈ before.generations physical, after.indices.get? index = none
  kept : ∀ index, index ∉ before.generations physical → after.indices.get? index = before.indices.get? index
  aliases : ∀ name, after.generations name =
    (before.generations name).filter fun index => index ∉ before.generations physical
  unbacked : ∀ name, after.generations name = [] → after.aliases.get? name = none
  nextId : after.nextId = before.nextId

theorem nextId_without (memory : Memory) (names : List String) : (memory.without names).nextId = memory.nextId := by
  induction names generalizing memory with
  | nil => rfl
  | cons name rest ih =>
    show ((memory.indexDelete name).2.without rest).nextId = memory.nextId
    rw [ih]
    unfold indexDelete
    split <;> rfl

theorem generations_without (h : memory.Consistent) (names : List String) (name : String) :
    (memory.without names).generations name = (memory.generations name).filter fun index => index ∉ names := by
  apply eq_of_pairwise_lt (fun _ _ => String.lt_asymm) (pairwise_generations _ name)
    ((memory.pairwise_generations name).filter _)
  intro index
  rw [mem_generations, without_standsFor h, List.mem_filter, mem_generations]
  simp

theorem Consistent.get?_eq_none (h : memory.Consistent) {name : String} (nothing : memory.generations name = []) :
    memory.aliases.get? name = none := by
  cases found : memory.aliases.get? name with
  | none => rfl
  | some behind =>
    have some := h.keys_isEmpty found
    rw [← generations_of_found found, nothing] at some
    cases some

theorem drops_without (h : memory.Consistent) (physical : String) :
    Drops physical memory (memory.without (memory.generations physical)) where
  gone index mem := by rw [without_indices, if_pos mem]
  kept index other := by rw [without_indices, if_neg other]
  aliases := generations_without h _
  unbacked _ := (h.without _).get?_eq_none
  nextId := nextId_without memory _

/-- A drop of a name that is an alias succeeds and takes exactly the storage behind the name, whatever other
aliases share it. To drop it again fails, as it does for any other name. -/
theorem drop_removes_storage (h : memory.Consistent) (physical : String) :
    ((memory.aliases.get? physical).isSome → ∃ left,
      runOn step (Lifecycle.dropIndex physical) memory = (.ok (), left) ∧ Drops physical memory left ∧
      runOn step (Lifecycle.dropIndex physical) left = (.error (.indexNotFound physical), left)) ∧
    (memory.aliases.get? physical = none →
      runOn step (Lifecycle.dropIndex physical) memory = (.error (.indexNotFound physical), memory)) := by
  have dropped := runOn_dropIndex h physical
  constructor
  · intro isAlias
    obtain ⟨behind, found⟩ := Option.isSome_iff_exists.1 isAlias
    rw [found] at dropped
    dsimp only at dropped
    rw [← generations_of_found found] at dropped
    have drops := drops_without h physical
    refine ⟨_, dropped, drops, ?_⟩
    -- The name is no alias any more, since all of its generations are gone.
    have nothing : (memory.without (memory.generations physical)).generations physical = [] := by
      rw [drops.aliases]
      simp
    have again := runOn_dropIndex (h.without (memory.generations physical)) physical
    rwa [drops.unbacked physical nothing] at again
  · intro missing
    rwa [missing] at dropped

/-- One of the other aliases keeps one generation, the other one disappears. -/
theorem shop_is_dropped :
    (Consistent sharing ∧ (sharing.aliases.get? "shop").isSome ∧ sharing.aliases.get? "cellar" = none) ∧
    (∃ left, runOn step (Lifecycle.dropIndex "shop") sharing = (.ok (), left) ∧ Drops "shop" sharing left ∧
      left.generations "archive" = ["g3"] ∧ left.aliases.get? "sale" = none ∧
      runOn step (Lifecycle.dropIndex "shop") left = (.error (.indexNotFound "shop"), left)) ∧
    runOn step (Lifecycle.dropIndex "cellar") sharing = (.error (.indexNotFound "cellar"), sharing) := by
  have isAlias : (sharing.aliases.get? "shop").isSome := by decide
  have missing : sharing.aliases.get? "cellar" = none := by decide
  obtain ⟨left, dropped, drops, again⟩ := (drop_removes_storage consistent_sharing "shop").1 isAlias
  have archive : left.generations "archive" = ["g3"] := drops.aliases "archive"
  have sale : left.generations "sale" = [] := drops.aliases "sale"
  exact ⟨⟨consistent_sharing, isAlias, missing⟩, ⟨left, dropped, drops, archive, drops.unbacked "sale" sale, again⟩,
    (drop_removes_storage consistent_sharing "cellar").2 missing⟩

end Memory

end SearchTenancy

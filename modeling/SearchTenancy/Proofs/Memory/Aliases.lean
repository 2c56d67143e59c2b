import Mathlib.Tactic.Tauto
import SearchTenancy.Proofs.Interleaving
import SearchTenancy.Proofs.Memory.Consistency
import SearchTenancy.Proofs.Sorting
import SearchTenancy.Tenant.Lifecycle

/-!
# The alias table

What names stand for is a relation between names and indices, and an action adds a pair
to it or takes one away (`AliasAction.effect`). An update of the alias table applies all
of its actions, each to what those before it leave, or it changes nothing at all
(`aliasesUpdate_cases`).

Since every call keeps consistency, the alias table is in order in every state that calls
lead to, whichever programs make them (`aliases_in_order`).
-/

namespace SearchTenancy

/-- An alias stands for an index. -/
def Memory.StandsFor (aliases : Dict Names) (name index : String) : Prop :=
  ∃ behind, aliases.get? name = some behind ∧ behind.contains index

namespace AliasAction

/-- What the names stand for once the action is applied. -/
def effect (behind : String → String → Prop) : AliasAction → String → String → Prop
  | add index aliasName, name, other => name = aliasName ∧ other = index ∨ behind name other
  | remove index aliasName, name, other => behind name other ∧ ¬(name = aliasName ∧ other = index)

/-- An index can be added if it is there, and removed if it is behind the alias. -/
def Applies (indices : Dict StoredIndex) (behind : String → String → Prop) : AliasAction → Prop
  | add index _ => indices.contains index
  | remove index aliasName => behind aliasName index

/-- Every action can be applied to what those before it leave. -/
def AllApply (indices : Dict StoredIndex) : (String → String → Prop) → List AliasAction → Prop
  | _, [] => True
  | behind, action :: rest => action.Applies indices behind ∧ AllApply indices (effect behind action) rest

variable (indices : Dict StoredIndex) (behind : String → String → Prop) (aliasName : String)

theorem allApply_append (first rest : List AliasAction) :
    AllApply indices behind (first ++ rest) ↔
      AllApply indices behind first ∧ AllApply indices (first.foldl effect behind) rest := by
  induction first generalizing behind with
  | nil => simp [AllApply]
  | cons action others ih => simp [AllApply, ih, and_assoc]

theorem effect_adds (names : List String) (name index : String) :
    (names.map (add · aliasName)).foldl effect behind name index ↔
      name = aliasName ∧ index ∈ names ∨ behind name index := by
  induction names generalizing behind with
  | nil => simp
  | cons first rest ih =>
    rw [List.map_cons, List.foldl_cons, ih, List.mem_cons]
    simp only [effect]
    tauto

theorem effect_removes (names : List String) (name index : String) :
    (names.map (remove · aliasName)).foldl effect behind name index ↔
      behind name index ∧ ¬(name = aliasName ∧ index ∈ names) := by
  induction names generalizing behind with
  | nil => simp
  | cons first rest ih =>
    rw [List.map_cons, List.foldl_cons, ih, List.mem_cons]
    simp only [effect]
    tauto

theorem allApply_add (names : List String) :
    AllApply indices behind (names.map (add · aliasName)) ↔ ∀ index ∈ names, indices.contains index := by
  induction names generalizing behind with
  | nil => simp [AllApply]
  | cons first rest ih => simp [AllApply, Applies, ih]

theorem allApply_remove {names : List String} (distinct : names.Nodup) :
    AllApply indices behind (names.map (remove · aliasName)) ↔ ∀ index ∈ names, behind aliasName index := by
  induction names generalizing behind with
  | nil => simp [AllApply]
  | cons first rest ih =>
    obtain ⟨fresh, distinct⟩ := List.nodup_cons.1 distinct
    simp only [List.map_cons, AllApply, Applies, ih _ distinct, effect, List.forall_mem_cons]
    -- The name that is removed first does not come again, so the others stand as before.
    refine and_congr_right fun _ => forall₂_congr fun index mem => ?_
    have other : index ≠ first := fun same => fresh (same ▸ mem)
    simp [other]

end AliasAction

open AliasAction

namespace Memory

/-! ## Generations -/

/-- The generations behind a name, in increasing order. -/
def generations (memory : Memory) (name : String) : List String :=
  ((memory.aliases.get? name).map Dict.keys).getD []

theorem mem_generations {memory : Memory} {name index : String} :
    index ∈ memory.generations name ↔ StandsFor memory.aliases name index := by
  unfold generations StandsFor
  cases memory.aliases.get? name with
  | none => simp
  | some behind => simp [Dict.mem_keys, Dict.contains_eq]

theorem generations_of_found {memory : Memory} {name : String} {behind : Names}
    (found : memory.aliases.get? name = some behind) : memory.generations name = behind.keys := by
  unfold generations
  rw [found]
  rfl

theorem pairwise_generations (memory : Memory) (name : String) : (memory.generations name).Pairwise (· < ·) := by
  unfold generations
  cases memory.aliases.get? name with
  | none => exact List.Pairwise.nil
  | some behind => exact List.pairwise_map.2 behind.sorted

theorem nodup_generations (memory : Memory) (name : String) : (memory.generations name).Nodup :=
  (memory.pairwise_generations name).imp fun {_ _} below => String.ne_of_lt below

/-- The generations behind a name are determined by what it stands for. -/
theorem generations_congr {one other : Memory} {name name' : String}
    (same : ∀ index, StandsFor one.aliases name index ↔ StandsFor other.aliases name' index) :
    one.generations name = other.generations name' := by
  apply eq_of_pairwise_lt (fun _ _ => String.lt_asymm) (one.pairwise_generations name)
    (other.pairwise_generations name')
  intro index
  rw [mem_generations, mem_generations, same]

/-! ## Actions -/

theorem standsFor_insert (aliases : Dict Names) (aliasName : String) (set : Names) (name index : String) :
    StandsFor (aliases.insert aliasName set) name index ↔
      if name = aliasName then set.contains index = true else StandsFor aliases name index := by
  unfold StandsFor
  rw [Dict.get?_insert]
  by_cases same : name = aliasName
  · subst same
    simp
  · rw [if_neg (Ne.symm same), if_neg same]

theorem standsFor_getD (aliases : Dict Names) (name index : String) :
    ((aliases.get? name).getD .empty).contains index = true ↔ StandsFor aliases name index := by
  unfold StandsFor
  cases aliases.get? name with
  | none => simp [Dict.contains_eq]
  | some behind => simp

theorem standsFor_addAlias (aliases : Dict Names) (index aliasName : String) :
    StandsFor (addAlias aliases index aliasName) = effect (StandsFor aliases) (.add index aliasName) := by
  funext name other
  apply propext
  simp only [addAlias, effect, standsFor_insert]
  by_cases same : name = aliasName
  · subst same
    rw [if_pos rfl, ← standsFor_getD, Dict.contains_eq, Dict.contains_eq, Dict.get?_insert]
    by_cases added : index = other
    · simp [added]
    · simp [added, Ne.symm added]
  · simp [same]

theorem standsFor_removed {aliases : Dict Names} {aliasName : String} {behind : Names}
    (found : aliases.get? aliasName = some behind) (index : String) :
    StandsFor (aliases.insert aliasName (behind.erase index)) =
      effect (StandsFor aliases) (.remove index aliasName) := by
  funext name other
  apply propext
  simp only [effect, standsFor_insert]
  by_cases same : name = aliasName
  · subst same
    have before : StandsFor aliases name other ↔ behind.contains other = true := by simp [StandsFor, found]
    rw [if_pos rfl, before, Dict.contains_eq, Dict.contains_eq, Dict.get?_erase]
    by_cases removed : index = other
    · simp [removed]
    · simp [removed, Ne.symm removed]
  · simp [same]

/-- An action that applies has its effect, and one that does not is refused. -/
theorem applyAction_cases (indices : Dict StoredIndex) (aliases : Dict Names) (action : AliasAction) :
    (action.Applies indices (StandsFor aliases) ∧ ∃ changed, applyAction indices aliases action = .ok changed ∧
      StandsFor changed = effect (StandsFor aliases) action) ∨
    (¬action.Applies indices (StandsFor aliases) ∧ ∃ failure, applyAction indices aliases action = .error failure) := by
  cases action with
  | add index aliasName =>
    by_cases there : indices.contains index
    · left
      exact ⟨there, _, if_pos there, standsFor_addAlias aliases index aliasName⟩
    · right
      exact ⟨there, _, if_neg there⟩
  | remove index aliasName =>
    simp only [AliasAction.Applies, applyAction]
    cases found : aliases.get? aliasName with
    | none =>
      right
      exact ⟨by simp [StandsFor, found], _, rfl⟩
    | some behind =>
      have before : StandsFor aliases aliasName index ↔ behind.contains index = true := by simp [StandsFor, found]
      rw [before]
      by_cases mem : behind.contains index
      · left
        exact ⟨mem, _, if_pos mem, standsFor_removed found index⟩
      · right
        exact ⟨mem, _, if_neg mem⟩

/-- Actions take effect one after the other if all of them apply, and are refused otherwise. -/
theorem foldlM_applyAction_cases (indices : Dict StoredIndex) (aliases : Dict Names) (actions : List AliasAction) :
    (AllApply indices (StandsFor aliases) actions ∧ ∃ changed,
      actions.foldlM (applyAction indices) aliases = .ok changed ∧
      StandsFor changed = actions.foldl effect (StandsFor aliases)) ∨
    (¬AllApply indices (StandsFor aliases) actions ∧ ∃ failure,
      actions.foldlM (applyAction indices) aliases = .error failure) := by
  induction actions generalizing aliases with
  | nil =>
    left
    exact ⟨trivial, aliases, rfl, rfl⟩
  | cons action rest ih =>
    rw [List.foldlM_cons, List.foldl_cons]
    rcases applyAction_cases indices aliases action with
      ⟨applies, middle, applied, stands⟩ | ⟨refused, failure, failed⟩
    · rw [applied, ← stands]
      simp only [AllApply, ← stands, applies, true_and]
      exact ih middle
    · right
      rw [failed]
      exact ⟨fun all => refused all.1, failure, rfl⟩

/-! ## Updates -/

theorem standsFor_prune (aliases : Dict Names) : StandsFor (prune aliases) = StandsFor aliases := by
  funext name index
  apply propext
  constructor
  · rintro ⟨behind, found, mem⟩
    exact ⟨behind, (prune_backed found).1, mem⟩
  · rintro ⟨behind, found, mem⟩
    refine ⟨behind, ?_, mem⟩
    have some : behind.isEmpty = false := Dict.isEmpty_eq_false_iff.2 ⟨index, mem⟩
    simp [prune_get?, found, Option.filter, some]

/-- An update applies all of its actions in their order, or it fails and leaves everything as it was. -/
theorem aliasesUpdate_cases (memory : Memory) (actions : List AliasAction) :
    (AllApply memory.indices (StandsFor memory.aliases) actions ∧ ∃ changed,
      memory.aliasesUpdate actions = (.ok (), { memory with aliases := changed }) ∧
      StandsFor changed = actions.foldl effect (StandsFor memory.aliases)) ∨
    (¬AllApply memory.indices (StandsFor memory.aliases) actions ∧ ∃ failure,
      memory.aliasesUpdate actions = (.error failure, memory)) := by
  unfold aliasesUpdate
  rcases foldlM_applyAction_cases memory.indices memory.aliases actions with
    ⟨all, changed, applied, stands⟩ | ⟨refused, failure, failed⟩
  · left
    refine ⟨all, prune changed, ?_, ?_⟩
    · rw [applied]
    · rw [standsFor_prune, stands]
  · right
    refine ⟨refused, failure, ?_⟩
    rw [failed]

/-! ## Every sequence of calls -/

/-- The answer about an alias lists what is behind it. -/
theorem aliasedIndices_answer (behind : Names) (name : String) :
    Lifecycle.aliasedIndices (.obj (behind.keys.map fun index =>
      (index, .obj [("aliases", .obj [(name, .empty)])]))) = behind.keys := by
  simp [Lifecycle.aliasedIndices, Json.asObject?, Function.comp_def]

theorem Consistent.keys_isEmpty {memory : Memory} (h : memory.Consistent) {name : String} {behind : Names}
    (found : memory.aliases.get? name = some behind) : behind.keys.isEmpty = false := by
  obtain ⟨first, head⟩ := Dict.exists_head_keys (h.backed name behind found)
  cases keys : behind.keys with
  | nil =>
    rw [keys] at head
    cases head
  | cons => rfl

/-- Aliases stand for indices that are there, names resolve to indices that are there, no answer about an
alias lists nothing, and updates of the alias table apply all of their actions in their order or none. -/
structure AliasesInOrder (memory : Memory) : Prop where
  backed : ∀ name behind, memory.aliases.get? name = some behind →
    behind.isEmpty = false ∧ ∀ index, behind.contains index → memory.indices.contains index
  resolves : ∀ name index, memory.resolve name = some index → memory.indices.contains index
  listed : ∀ name response, (step memory (.aliasGet name)).1 = .ok response → Lifecycle.aliasedIndices response ≠ []
  updates : ∀ actions,
    (AllApply memory.indices (StandsFor memory.aliases) actions ∧ ∃ changed,
      step memory (.aliasesUpdate actions) = (.ok (), { memory with aliases := changed }) ∧
      StandsFor changed = actions.foldl effect (StandsFor memory.aliases)) ∨
    (¬AllApply memory.indices (StandsFor memory.aliases) actions ∧ ∃ failure,
      step memory (.aliasesUpdate actions) = (.error failure, memory))

theorem Consistent.aliasesInOrder {memory : Memory} (h : memory.Consistent) : memory.AliasesInOrder where
  backed := fun name behind found => ⟨h.backed name behind found, h.present name behind found⟩
  resolves := fun _ _ resolved => h.contains_of_resolve resolved
  listed := by
    intro name response answered listing
    change memory.aliasGet name = .ok response at answered
    unfold aliasGet at answered
    split at answered
    · rename_i behind found
      cases answered
      rw [aliasedIndices_answer] at listing
      have some := h.keys_isEmpty found
      rw [listing] at some
      cases some
    · cases answered
  updates := memory.aliasesUpdate_cases

/-- The alias table is in order after any calls, and after any programs that make theirs in turns. -/
theorem aliases_in_order :
    (∀ calls, (Backend.after step empty calls).AliasesInOrder) ∧
    ∀ {ι : Type} [DecidableEq ι] {α : ι → Type} {programs : (i : ι) → Program (α i)} {log : List (ι × Call)}
      {results : (i : ι) → α i} {final : Memory}, Program.Interleaved step programs empty log results final →
      final.AliasesInOrder := by
  have reached (calls : List Call) : (Backend.after step empty calls).AliasesInOrder := by
    have kept (memory : Memory) (c : Call) (h : memory.Consistent) : (step memory c).2.Consistent := h.step c
    exact (Backend.keeps_after kept consistent_empty calls).aliasesInOrder
  refine ⟨reached, ?_⟩
  intro ι _ α programs log results final interleaved
  rw [interleaved.final_eq]
  exact reached (log.map Prod.snd)

/-- Storage that is dropped as soon as its generation has an alias. -/
theorem aliases_in_order_after_drop :
    ∃ (log : List (Side × Call)) (final : Memory),
      Program.Interleaved step (Side.pick (Lifecycle.ensureExists ⟨0, by decide, by decide⟩ "a").run
        (Lifecycle.dropIndex "a").run) empty log (fun _ => .ok ()) final ∧
      log.map Prod.fst = [.one, .one, .one, .other, .other] ∧ final.AliasesInOrder := by
  obtain ⟨log, final, interleaved, turns⟩ : ∃ (log : List (Side × Call)) (final : Memory),
      Program.Interleaved step (Side.pick (Lifecycle.ensureExists ⟨0, by decide, by decide⟩ "a").run
        (Lifecycle.dropIndex "a").run) empty log (fun _ => .ok ()) final ∧
      log.map Prod.fst = [.one, .one, .one, .other, .other] := by
    refine ⟨_, _, .turn .one rfl (.turn .one rfl (.turn .one rfl (.turn .other rfl (.turn .other rfl
      (.done _ ?_))))), rfl⟩
    rintro (_ | _)
    · rfl
    · rfl
  exact ⟨log, final, interleaved, turns, aliases_in_order.2 interleaved⟩

end Memory

end SearchTenancy

import SearchTenancy.Backend.Memory
import SearchTenancy.Proofs.Dict
import SearchTenancy.Proofs.Operation

/-!
# Consistent states of the in-memory backend

An alias of the in-memory backend stands for at least one index, and all indices that
it stands for are there (`Memory.Consistent`). Every call keeps this (`Consistent.step`),
and so does every program of calls. Calls on documents and mappings change the
contents of one index only (`Memory.ChangesOnly`).
-/

namespace SearchTenancy.Memory

/-- The indices of an alias table are there. -/
def Present (indices : Dict StoredIndex) (aliases : Dict Names) : Prop :=
  ∀ name behind, aliases.get? name = some behind → ∀ index, behind.contains index → indices.contains index

/-- Every alias stands for some index, and only for indices that are there. -/
structure Consistent (memory : Memory) : Prop where
  backed : ∀ name behind, memory.aliases.get? name = some behind → behind.isEmpty = false
  present : Present memory.indices memory.aliases

theorem consistent_empty : Consistent .empty := ⟨fun _ _ h => (nomatch h), fun _ _ h => (nomatch h)⟩

/-- A name that resolves to an index resolves to one that is there. -/
theorem Consistent.contains_of_resolve {memory : Memory} (h : memory.Consistent) {name index : String}
    (found : memory.resolve name = some index) : memory.indices.contains index := by
  unfold resolve at found
  cases behind : memory.aliases.get? name with
  | some indices =>
    rw [behind] at found
    exact h.present name indices behind index (Dict.mem_keys.1 (List.mem_of_head? found))
  | none =>
    simp only [behind] at found
    split at found
    · cases found; assumption
    · cases found

theorem Consistent.exists_content {memory : Memory} (h : memory.Consistent) {name index : String}
    (resolved : memory.resolve name = some index) : ∃ content, memory.indices.get? index = some content :=
  Option.isSome_iff_exists.1 (h.contains_of_resolve resolved)

/-- An alias resolves. -/
theorem Consistent.exists_resolve {memory : Memory} (h : memory.Consistent) {name : String} {behind : Names}
    (found : memory.aliases.get? name = some behind) : ∃ index, memory.resolve name = some index := by
  obtain ⟨index, first⟩ := Dict.exists_head_keys (h.backed name behind found)
  exact ⟨index, by simp [resolve, found, first]⟩

/-- What relates a state to those that storing and removing documents leave relates it to what the lines of a
bulk call leave. -/
theorem bulkLines_keeps {index : String} {kept : Memory → Memory → Prop} (refl : ∀ memory, kept memory memory)
    (trans : ∀ {before middle after}, kept before middle → kept middle after → kept before after)
    (store : ∀ memory objectId source, kept memory (memory.store index objectId source).2)
    (remove : ∀ memory objectId, kept memory (memory.modify index (·.remove objectId))) (lines : List Json)
    (memory : Memory) : kept memory (bulkLines index lines memory).2 := by
  fun_induction bulkLines index lines memory with
  | case1 memory => exact refl memory
  | case2 header memory written _ item left h =>
    have stored := store memory ((written.get? "_id").bind Json.asString?) []
    simp only [bulkIndex, Prod.mk.injEq] at h
    rw [← h.2]
    exact stored
  | case3 header memory written _ source rest item middle h items left hl ih =>
    have stored := store memory ((written.get? "_id").bind Json.asString?) (source.asObject?.getD [])
    simp only [bulkIndex, Prod.mk.injEq] at h
    rw [hl, ← h.2] at ih
    exact trans stored ih
  | case4 header rest memory _ written _ item middle h items left hl ih =>
    have removed := remove memory (((written.get? "_id").bind Json.asString?).getD "")
    simp only [bulkDelete, Prod.mk.injEq] at h
    rw [hl, ← h.2] at ih
    exact trans removed ih
  | case5 header rest memory _ _ ih => exact ih

/-! ## Changes inside one index -/

/-- At most the contents of one index have changed. -/
structure ChangesOnly (index : String) (before after : Memory) : Prop where
  aliases : after.aliases = before.aliases
  others : ∀ name, name ≠ index → after.indices.get? name = before.indices.get? name
  same : after.indices.contains index = before.indices.contains index

namespace ChangesOnly

variable {index : String} {before middle after : Memory}

theorem refl (index : String) (memory : Memory) : ChangesOnly index memory memory := ⟨rfl, fun _ _ => rfl, rfl⟩

theorem trans (first : ChangesOnly index before middle) (rest : ChangesOnly index middle after) :
    ChangesOnly index before after where
  aliases := rest.aliases.trans first.aliases
  others name h := (rest.others name h).trans (first.others name h)
  same := rest.same.trans first.same

theorem contains (h : ChangesOnly index before after) (name : String) :
    after.indices.contains name = before.indices.contains name := by
  by_cases same : name = index
  · subst same; exact h.same
  · simp only [Dict.contains_eq, h.others name same]

theorem resolve (h : ChangesOnly index before after) (name : String) :
    after.resolve name = before.resolve name := by
  unfold Memory.resolve
  rw [h.aliases, h.contains]

theorem consistent (h : ChangesOnly index before after) (hc : before.Consistent) : after.Consistent where
  backed := by rw [h.aliases]; exact hc.backed
  present := by
    rw [h.aliases]
    intro name behind found other mem
    rw [h.contains]
    exact hc.present name behind found other mem

theorem counter (memory : Memory) (next : Nat) : ChangesOnly index memory { memory with nextId := next } :=
  ⟨rfl, fun _ _ => rfl, rfl⟩

theorem modify (memory : Memory) (index : String) (change : StoredIndex → StoredIndex) :
    ChangesOnly index memory (memory.modify index change) := by
  unfold Memory.modify
  split
  · rename_i found
    refine ⟨rfl, fun name h => Dict.get?_insert_of_ne _ _ (Ne.symm h), ?_⟩
    simp [Dict.contains_eq, found]
  · exact refl index memory

theorem store (memory : Memory) (index : String) (objectId : Option String) (source : Members) :
    ChangesOnly index memory (memory.store index objectId source).2 := by
  cases objectId with
  | some id => exact modify ..
  | none => exact (counter memory _).trans (modify ..)

theorem bulkLines (index : String) (lines : List Json) (memory : Memory) :
    ChangesOnly index memory (Memory.bulkLines index lines memory).2 :=
  bulkLines_keeps (refl index) trans (store · index) (fun memory _ => modify memory index _) lines memory

end ChangesOnly

/-- A change that leaves the content of an index as it is changes nothing. -/
theorem modify_eq_self {memory : Memory} {concrete : String} {content : StoredIndex}
    (found : memory.indices.get? concrete = some content)
    {change : StoredIndex → StoredIndex} (same : change content = content) :
    memory.modify concrete change = memory := by
  have indices : memory.indices.insert concrete content = memory.indices := by
    refine Dict.ext_get? fun name => ?_
    rw [Dict.get?_insert]
    split
    · subst_vars
      exact found.symm
    · rfl
  simp [modify, found, same, indices]

/-! ## Changes of the alias table -/

theorem prune_get? (aliases : Dict Names) (name : String) :
    (prune aliases).get? name = (aliases.get? name).filter fun indices => !indices.isEmpty :=
  Dict.get?_filter ..

theorem prune_backed {aliases : Dict Names} {name : String} {behind : Names}
    (h : (prune aliases).get? name = some behind) : aliases.get? name = some behind ∧ behind.isEmpty = false := by
  rw [prune_get?, Option.filter_eq_some_iff] at h
  simpa using h

theorem Present.with_alias {indices : Dict StoredIndex} {aliases : Dict Names} (h : Present indices aliases)
    {index : String} (there : indices.contains index) (aliasName : String) :
    Present indices (addAlias aliases index aliasName) := by
  intro name behind found other mem
  unfold addAlias at found
  rw [Dict.get?_insert] at found
  split at found
  · cases found
    rw [Dict.contains_eq, Dict.get?_insert] at mem
    split at mem
    · subst_vars; exact there
    · cases old : aliases.get? aliasName with
      | none => rw [old] at mem; cases mem
      | some set => rw [old] at mem; exact h aliasName set old other mem
  · exact h name behind found other mem

theorem Present.after_action {indices : Dict StoredIndex} {aliases changed : Dict Names}
    (h : Present indices aliases) {action : AliasAction}
    (applied : applyAction indices aliases action = .ok changed) : Present indices changed := by
  cases action with
  | add index aliasName =>
    simp only [applyAction] at applied
    split at applied
    · cases applied; exact h.with_alias ‹_› aliasName
    · cases applied
  | remove index aliasName =>
    simp only [applyAction] at applied
    split at applied
    · rename_i behind found
      split at applied
      · cases applied
        intro name set got other mem
        rw [Dict.get?_insert] at got
        split at got
        · cases got
          rw [Dict.contains_eq, Dict.get?_erase] at mem
          split at mem
          · cases mem
          · exact h aliasName behind found other mem
        · exact h name set got other mem
      · cases applied
    · cases applied

theorem Present.after_actions {indices : Dict StoredIndex} {aliases changed : Dict Names} {actions : List AliasAction}
    (h : Present indices aliases) (applied : actions.foldlM (applyAction indices) aliases = .ok changed) :
    Present indices changed := by
  induction actions generalizing aliases with
  | nil => cases applied; exact h
  | cons action rest ih =>
    rw [List.foldlM_cons] at applied
    cases first : applyAction indices aliases action with
    | error failure => rw [first] at applied; cases applied
    | ok middle =>
      rw [first] at applied
      exact ih (h.after_action first) applied

/-! ## Every call keeps consistency -/

variable {memory : Memory}

theorem Consistent.indexCreate (h : memory.Consistent) (name : String) : (memory.indexCreate name).2.Consistent := by
  unfold Memory.indexCreate
  split
  · exact h
  · refine ⟨h.backed, fun other behind found index mem => ?_⟩
    have there := h.present other behind found index mem
    simp only [Dict.contains_eq, Dict.get?_insert] at there ⊢
    split
    · rfl
    · exact there

theorem Consistent.indexDelete (h : memory.Consistent) (name : String) : (memory.indexDelete name).2.Consistent := by
  unfold Memory.indexDelete
  split
  · refine ⟨fun other behind found => (prune_backed found).2, fun other behind found index mem => ?_⟩
    obtain ⟨old, got, rfl⟩ : ∃ old, memory.aliases.get? other = some old ∧ old.erase name = behind := by
      simpa using (prune_backed found).1
    rw [Dict.contains_eq, Dict.get?_erase] at mem ⊢
    split at mem
    · cases mem
    · rw [if_neg ‹_›]
      exact h.present other old got index mem
  · exact h

theorem Consistent.aliasPut (h : memory.Consistent) (index aliasName : String) :
    (memory.aliasPut index aliasName).2.Consistent := by
  unfold Memory.aliasPut
  split
  · refine ⟨fun name behind found => ?_, h.present.with_alias ‹_› aliasName⟩
    simp only [addAlias, Dict.get?_insert] at found
    split at found
    · cases found; exact Dict.isEmpty_insert ..
    · exact h.backed name behind found
  · exact h

theorem Consistent.aliasesUpdate (h : memory.Consistent) (actions : List AliasAction) :
    (memory.aliasesUpdate actions).2.Consistent := by
  unfold Memory.aliasesUpdate
  split
  · rename_i changed applied
    refine ⟨fun name behind found => (prune_backed found).2, fun name behind found => ?_⟩
    exact Present.after_actions h.present applied name behind (prune_backed found).1
  · exact h

/-- What a call on the documents or the mapping of an index changes lies in the index that its
name resolves to. -/
theorem step_changesOnly (memory : Memory) {c : Call} {name : String}
    (h : (∃ objectId body, c = .documentIndex name objectId body) ∨ (∃ objectId, c = .documentDelete name objectId) ∨
      (∃ lines, c = .bulk name lines) ∨ ∃ body, c = .mappingPut name body) :
    (step memory c).2 = memory ∨
      ∃ index, memory.resolve name = some index ∧ ChangesOnly index memory (step memory c).2 := by
  cases found : memory.resolve name with
  | none =>
    left
    rcases h with ⟨objectId, body, rfl⟩ | ⟨objectId, rfl⟩ | ⟨lines, rfl⟩ | ⟨body, rfl⟩ <;>
      simp [step, documentIndex, documentDelete, bulk, mappingPut, resolveOrMissing, found]
  | some index =>
    right
    refine ⟨index, rfl, ?_⟩
    rcases h with ⟨objectId, body, rfl⟩ | ⟨objectId, rfl⟩ | ⟨lines, rfl⟩ | ⟨body, rfl⟩
    · simp only [step, documentIndex, resolveOrMissing, found]
      exact .store ..
    · simp only [step, documentDelete, resolveOrMissing, found]
      split
      · exact .modify ..
      · exact .refl ..
    · simp only [step, bulk, resolveOrMissing, found]
      exact .bulkLines ..
    · simp only [step, mappingPut, resolveOrMissing, found]
      split
      · split
        · exact .modify ..
        · exact .refl ..
      · exact .refl ..

/-- Every call keeps consistency. -/
theorem Consistent.step (h : memory.Consistent) (c : Call) : (step memory c).2.Consistent := by
  have inside {name : String} (kind : (∃ objectId body, c = .documentIndex name objectId body) ∨
      (∃ objectId, c = .documentDelete name objectId) ∨ (∃ lines, c = .bulk name lines) ∨
      ∃ body, c = .mappingPut name body) : (Memory.step memory c).2.Consistent := by
    rcases step_changesOnly memory kind with same | ⟨index, -, changed⟩
    · rw [same]; exact h
    · exact changed.consistent h
  cases c with
  | indexCreate index => exact h.indexCreate index
  | indexDelete index => exact h.indexDelete index
  | aliasPut index aliasName => exact h.aliasPut index aliasName
  | aliasesUpdate actions => exact h.aliasesUpdate actions
  | documentIndex index objectId body => exact inside (.inl ⟨objectId, body, rfl⟩)
  | documentDelete index objectId => exact inside (.inr (.inl ⟨objectId, rfl⟩))
  | bulk index lines => exact inside (.inr (.inr (.inl ⟨lines, rfl⟩)))
  | mappingPut index body => exact inside (.inr (.inr (.inr ⟨body, rfl⟩)))
  | aliasGet _ | documentGet _ _ | search _ _ _ | mappingGet _ | stats _ => exact h

/-- Every program of calls keeps consistency. -/
theorem Consistent.run {α : Type} (h : memory.Consistent) (program : Program α) :
    (program.run Memory.step memory).2.Consistent := by
  induction program generalizing memory with
  | done result => exact h
  | call c next ih => exact ih _ (h.step c)

end SearchTenancy.Memory

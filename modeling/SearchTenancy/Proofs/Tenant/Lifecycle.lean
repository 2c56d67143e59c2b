import SearchTenancy.Proofs.Memory.Aliases

/-!
# Life of an index on the in-memory backend

What the operations on aliases and generations do to a consistent state. Storage is
ready after `ensureExists`: it was there, or it is a fresh generation
(`Memory.Ready`). A move makes the destination stand for exactly what the source stands
for (`runOn_moveIndex`), and a drop deletes every generation behind a name
(`runOn_dropIndex`).
-/

namespace SearchTenancy

open Operation
open AliasAction

@[simp]
theorem BackendError.classify_missingIndex (name index : String) (objectId : Option String) :
    (Memory.missingIndex name).classify index objectId = .indexNotFound index := rfl

@[simp]
theorem BackendError.classify_missingAlias (text index : String) (objectId : Option String) :
    (Memory.missingAlias text).classify index objectId = .indexNotFound index := rfl

namespace Memory

/-! ## Storage that is ready -/

/-- A fresh generation behind an alias. -/
def provision (memory : Memory) (generation aliasName : String) : Memory :=
  { memory with
    indices := memory.indices.insert generation .empty
    aliases := addAlias memory.aliases generation aliasName }

/-- The storage of `physical` is ready: it was there, or it has been created at `now`. -/
inductive Ready (memory : Memory) (physical : String) (now : Instant) : Memory → Prop where
  | there (h : (memory.aliases.get? physical).isSome) : Ready memory physical now memory
  | created (h : memory.aliases.get? physical = none)
      (unused : memory.indices.contains (generationName physical now) = false) :
      Ready memory physical now (memory.provision (generationName physical now) physical)

/-- The storage of `physical` cannot be made ready at `now`: there is none, and a generation is called as
the new one would be. -/
def Blocked (memory : Memory) (physical : String) (now : Instant) : Prop :=
  memory.aliases.get? physical = none ∧ memory.indices.contains (generationName physical now)

variable {memory ready : Memory} {physical : String} {now : Instant}

/-- Ready storage has an alias. -/
theorem Ready.exists_behind (h : Ready memory physical now ready) :
    ∃ behind, ready.aliases.get? physical = some behind := by
  cases h with
  | there h => exact Option.isSome_iff_exists.1 h
  | created h unused => exact ⟨_, Dict.get?_insert_self ..⟩

theorem Ready.nextId_eq (h : Ready memory physical now ready) : ready.nextId = memory.nextId := by
  cases h <;> rfl

/-- Storage that is there needs not be made ready. -/
theorem Ready.eq_of_isSome {physical : String} (there : (memory.aliases.get? physical).isSome)
    (made : Ready memory physical now ready) : ready = memory := by
  cases made with
  | there _ => rfl
  | created unset unused =>
    rw [unset] at there
    cases there

/-- A name without storage stands for its first generation alone. -/
theorem provision_aliases (unset : memory.aliases.get? physical = none) (generation name : String) :
    (memory.provision generation physical).aliases.get? name =
      if physical = name then some (Dict.empty.insert generation ()) else memory.aliases.get? name := by
  simp only [provision, addAlias, unset, Option.getD_none, Dict.get?_insert]

theorem provision_indices (memory : Memory) (generation aliasName name : String) :
    (memory.provision generation aliasName).indices.get? name =
      if generation = name then some .empty else memory.indices.get? name := Dict.get?_insert ..

theorem resolve_provision (unset : memory.aliases.get? physical = none) (generation : String) :
    (memory.provision generation physical).resolve physical = some generation := by
  unfold resolve
  rw [provision_aliases unset, if_pos rfl]
  rfl

/-! ## Deleted indices -/

/-- The state after the deletion of indices. -/
def without (memory : Memory) (names : List String) : Memory :=
  names.foldl (fun memory name => (memory.indexDelete name).2) memory

theorem Consistent.without {memory : Memory} (h : memory.Consistent) (names : List String) :
    (memory.without names).Consistent := by
  induction names generalizing memory with
  | nil => exact h
  | cons name rest ih => exact ih (h.indexDelete name)

theorem indexDelete_indices (memory : Memory) (name other : String) :
    (memory.indexDelete name).2.indices.get? other =
      if name = other then none else memory.indices.get? other := by
  unfold indexDelete
  split
  · exact Dict.get?_erase ..
  · rename_i absent
    split
    · subst_vars
      simpa [Dict.contains_eq] using absent
    · rfl

theorem indexDelete_standsFor (h : memory.Consistent) (name aliasName index : String) :
    StandsFor (memory.indexDelete name).2.aliases aliasName index ↔
      StandsFor memory.aliases aliasName index ∧ index ≠ name := by
  unfold indexDelete StandsFor
  split
  · constructor
    · rintro ⟨behind, found, mem⟩
      obtain ⟨old, got, rfl⟩ : ∃ old, memory.aliases.get? aliasName = some old ∧ old.erase name = behind := by
        simpa using (prune_backed found).1
      rw [Dict.contains_eq, Dict.get?_erase] at mem
      split at mem
      · cases mem
      · exact ⟨⟨old, got, mem⟩, Ne.symm ‹_›⟩
    · rintro ⟨⟨behind, found, mem⟩, other⟩
      have kept : (behind.erase name).contains index := by
        rw [Dict.contains_eq, Dict.get?_erase, if_neg (Ne.symm other)]
        exact mem
      refine ⟨behind.erase name, ?_, kept⟩
      rw [prune_get?, Dict.get?_map, found]
      simp [Option.filter, Dict.isEmpty_eq_false_iff.2 ⟨index, kept⟩]
  · rename_i absent
    refine ⟨fun stands => ⟨stands, ?_⟩, fun stands => stands.1⟩
    rintro rfl
    obtain ⟨behind, found, mem⟩ := stands
    exact absent (h.present aliasName behind found index mem)

theorem without_indices (memory : Memory) (names : List String) (other : String) :
    (memory.without names).indices.get? other =
      if other ∈ names then none else memory.indices.get? other := by
  induction names generalizing memory with
  | nil => rfl
  | cons name rest ih =>
    show ((memory.indexDelete name).2.without rest).indices.get? other = _
    rw [ih, indexDelete_indices]
    by_cases same : other = name
    · subst same; simp
    · simp [same, Ne.symm same]

/-- An alias keeps the indices that are not deleted. -/
theorem without_standsFor (h : memory.Consistent) (names : List String) (aliasName index : String) :
    StandsFor (memory.without names).aliases aliasName index ↔
      StandsFor memory.aliases aliasName index ∧ index ∉ names := by
  induction names generalizing memory with
  | nil => simp [without]
  | cons name rest ih =>
    show StandsFor ((memory.indexDelete name).2.without rest).aliases aliasName index ↔ _
    rw [ih (h.indexDelete name), indexDelete_standsFor h]
    simp [and_assoc]

/-- Aliases are there exactly if they stand for something. -/
theorem Consistent.isSome_iff (h : memory.Consistent) (aliasName : String) :
    (memory.aliases.get? aliasName).isSome ↔ ∃ index, StandsFor memory.aliases aliasName index := by
  constructor
  · intro some
    obtain ⟨behind, found⟩ := Option.isSome_iff_exists.1 some
    obtain ⟨index, mem⟩ := Dict.isEmpty_eq_false_iff.1 (h.backed aliasName behind found)
    exact ⟨index, behind, found, mem⟩
  · rintro ⟨index, behind, found, -⟩
    simp [found]

/-- What stands for the same indices in two consistent states is the same set. -/
theorem Consistent.get?_congr {other : Memory} (h : memory.Consistent) (ho : other.Consistent) {one two : String}
    (same : ∀ index, StandsFor memory.aliases one index ↔ StandsFor other.aliases two index) :
    memory.aliases.get? one = other.aliases.get? two := by
  cases found : memory.aliases.get? one with
  | none =>
    cases found' : other.aliases.get? two with
    | none => rfl
    | some behind =>
      obtain ⟨index, stands⟩ := (ho.isSome_iff two).1 (by simp [found'])
      have := (h.isSome_iff one).2 ⟨index, (same index).2 stands⟩
      simp [found] at this
  | some behind =>
    obtain ⟨index, stands⟩ := (h.isSome_iff one).1 (by simp [found])
    obtain ⟨behind', found', -⟩ := (same index).1 stands
    rw [found']
    congr 1
    refine Names.ext fun index => Bool.eq_iff_iff.2 ?_
    have := same index
    simpa [StandsFor, found, found'] using this

/-! ## Lookups -/

/-- A look-up makes one call, and finds the generations behind the alias if there are any. -/
theorem lookup_asks (memory : Memory) (name : String) :
    (Lifecycle.lookup name).run.Asks step memory (.aliasGet name)
      (.done (.ok (if (memory.generations name).isEmpty then none else some (memory.generations name)))) := by
  refine ⟨_, rfl, ?_⟩
  unfold generations
  cases found : memory.aliases.get? name with
  | none =>
    have answer : (step memory (.aliasGet name)).1 = .error (missingAlias ("alias [" ++ name ++ "] missing")) := by
      simp [step, aliasGet, found]
    rw [answer]
    rfl
  | some behind =>
    have answer : (step memory (.aliasGet name)).1 = .ok (.obj (behind.keys.map fun index =>
        (index, .obj [("aliases", .obj [(name, .empty)])]))) := by
      simp [step, aliasGet, found]
    rw [answer]
    show Program.done (Except.ok (if (Lifecycle.aliasedIndices _).isEmpty then none else some _)) = _
    rw [aliasedIndices_answer]
    rfl

theorem runOn_lookup (h : memory.Consistent) (name : String) :
    runOn step (Lifecycle.lookup name) memory = (.ok ((memory.aliases.get? name).map Dict.keys), memory) := by
  unfold Lifecycle.lookup
  rw [runOn_bind, attempt, runOn_mk_call]
  cases found : memory.aliases.get? name with
  | none => simp [step, aliasGet, found]
  | some behind => simp [step, aliasGet, found, aliasedIndices_answer, h.keys_isEmpty found]

theorem runOn_requireExists (h : memory.Consistent) (name : String) :
    runOn step (Lifecycle.requireExists name) memory =
      (match memory.aliases.get? name with
        | some behind => .ok behind.keys
        | none => .error (.indexNotFound name), memory) := by
  unfold Lifecycle.requireExists
  rw [runOn_bind, runOn_lookup h]
  cases memory.aliases.get? name <;> rfl

/-- Making storage ready fails only if it is blocked. -/
theorem runOn_ensureExists (h : memory.Consistent) (now : Instant) (physical : String) :
    (∃ ready, Ready memory physical now ready ∧
      runOn step (Lifecycle.ensureExists now physical) memory = (.ok (), ready)) ∨
    (Blocked memory physical now ∧
      ∃ report, runOn step (Lifecycle.ensureExists now physical) memory = (.error (.unclassified report), memory)) := by
  unfold Lifecycle.ensureExists
  rw [runOn_bind, runOn_lookup h]
  cases found : memory.aliases.get? physical with
  | some behind => exact .inl ⟨memory, .there (by simp [found]), rfl⟩
  | none =>
    by_cases used : memory.indices.contains (generationName physical now)
    · right
      refine ⟨⟨found, used⟩, ?_⟩
      simp [runOn_bind, call, step, indexCreate, used, Except.mapError]
    · left
      refine ⟨_, .created found (by simpa using used), ?_⟩
      simp [runOn_bind, call, step, indexCreate, aliasPut, used, Except.mapError, provision, Dict.contains_eq]

/-! ## Drops -/

theorem runOn_deleteAll (physical : String) {names : List String} (distinct : names.Nodup)
    (there : ∀ name ∈ names, memory.indices.contains name) :
    runOn step (Lifecycle.deleteAll physical names) memory = (.ok (), memory.without names) := by
  induction names generalizing memory with
  | nil => rfl
  | cons name rest ih =>
    obtain ⟨fresh, distinct⟩ := List.nodup_cons.1 distinct
    have deleted : memory.indexDelete name = (.ok (), (memory.indexDelete name).2) := by
      simp [indexDelete, there name (by simp)]
    have left : ∀ other ∈ rest, (memory.indexDelete name).2.indices.contains other := by
      intro other mem
      have different : name ≠ other := fun same => fresh (same ▸ mem)
      rw [Dict.contains_eq, indexDelete_indices, if_neg different]
      exact there other (by simp [mem])
    unfold Lifecycle.deleteAll
    simp only [runOn_bind, call, runOn_mk_call, step]
    rw [deleted]
    exact ih distinct left

/-- A drop deletes every generation behind the name. -/
theorem runOn_dropIndex (h : memory.Consistent) (physical : String) :
    runOn step (Lifecycle.dropIndex physical) memory =
      match memory.aliases.get? physical with
      | some behind => (.ok (), memory.without behind.keys)
      | none => (.error (.indexNotFound physical), memory) := by
  unfold Lifecycle.dropIndex
  rw [runOn_bind, runOn_requireExists h]
  cases found : memory.aliases.get? physical with
  | none => rfl
  | some behind =>
    refine runOn_deleteAll physical behind.keys_nodup fun name mem => ?_
    exact h.present physical behind found name (Dict.mem_keys.1 mem)

/-! ## Moves -/

/-- Actions on the replaced generations and those of the source can be applied if the ones to remove stand
behind the destination, and the ones to add are there. -/
theorem allApply_moveActions (indices : Dict StoredIndex) (behind : String → String → Prop) (destination : String)
    {replaced : List String} (distinct : replaced.Nodup) (generations : List String) :
    AllApply indices behind (Lifecycle.moveActions destination replaced generations) ↔
      (∀ index ∈ replaced, index ∉ generations → behind destination index) ∧
        ∀ index ∈ generations, indices.contains index := by
  unfold Lifecycle.moveActions
  rw [allApply_append, allApply_remove _ _ _ (List.Pairwise.filter _ distinct), allApply_add]
  simp

/-- The effect of a move: the destination stands for the generations of the source, and for what it stood
for without having been replaced. -/
theorem effect_moveActions (behind : String → String → Prop) (destination : String)
    (replaced generations : List String) (name index : String) :
    (Lifecycle.moveActions destination replaced generations).foldl effect behind name index ↔
      if name = destination then index ∈ generations ∨ behind name index ∧ index ∉ replaced
      else behind name index := by
  unfold Lifecycle.moveActions
  rw [List.foldl_append, effect_adds, effect_removes]
  by_cases same : name = destination
  · simp only [same, true_and, if_true, List.mem_filter, List.contains_eq_mem]
    by_cases own : index ∈ generations
    · simp [own]
    · simp [own]
  · simp [same]

/-- The actions of a move make the destination stand for the generations of the source. -/
theorem aliasesUpdate_move (h : memory.Consistent) {source destination : String} {behind : Names}
    (found : memory.aliases.get? source = some behind) :
    memory.aliasesUpdate (Lifecycle.moveActions destination (memory.generations destination) behind.keys) =
      (.ok (), { memory with aliases := memory.aliases.insert destination behind }) := by
  have own (index : String) : index ∈ behind.keys ↔ StandsFor memory.aliases source index := by
    rw [← generations_of_found found, mem_generations]
  have there : ∀ index ∈ behind.keys, memory.indices.contains index := fun index mem =>
    h.present source behind found index (Dict.mem_keys.1 mem)
  have consistent := h.aliasesUpdate
    (Lifecycle.moveActions destination (memory.generations destination) behind.keys)
  rcases aliasesUpdate_cases memory
      (Lifecycle.moveActions destination (memory.generations destination) behind.keys) with
    ⟨-, changed, applied, stands⟩ | ⟨refused, -⟩
  · rw [applied] at consistent ⊢
    have same : changed = memory.aliases.insert destination behind := by
      refine Dict.ext_get? fun name => ?_
      rw [Dict.get?_insert]
      split
      · rename_i is
        subst is
        rw [← found]
        refine consistent.get?_congr h fun index => ?_
        rw [stands, effect_moveActions, if_pos rfl, mem_generations, own]
        tauto
      · rename_i other
        refine consistent.get?_congr h fun index => ?_
        rw [stands, effect_moveActions, if_neg (Ne.symm other)]
    rw [same]
  · exact absurd ((allApply_moveActions _ _ _ (memory.nodup_generations destination) _).2
      ⟨fun index mem _ => mem_generations.1 mem, there⟩) refused

/-- A move makes the destination stand for exactly the generations of the source. -/
theorem runOn_moveIndex (h : memory.Consistent) (source destination : String) :
    runOn step (Lifecycle.moveIndex source destination) memory =
      match memory.aliases.get? source with
      | some behind =>
        (.ok (Lifecycle.moveActions destination (memory.generations destination) behind.keys),
          { memory with aliases := memory.aliases.insert destination behind })
      | none => (.error (.indexNotFound source), memory) := by
  unfold Lifecycle.moveIndex
  rw [runOn_bind, runOn_requireExists h]
  cases found : memory.aliases.get? source with
  | none => rfl
  | some behind =>
    have seen : ((memory.aliases.get? destination).map Dict.keys).getD [] = memory.generations destination := rfl
    simp only [runOn_bind, runOn_lookup h, seen, call, runOn_mk_call, step, aliasesUpdate_move h found, runOn_pure]
    rfl

end Memory

end SearchTenancy

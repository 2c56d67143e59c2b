import SearchTenancy.Proofs.Tenant.Runs
import SearchTenancy.Proofs.Tenant.Store

/-!
# The store that a state stands for

A state stands for a store (`Memory.toStore`): an id points to the generation behind
its alias, and a table has the documents of the generation, without `objectID`. This
module says what the changes of a state are in the store, as long as every alias stands
for one generation and no document has an id that the backend is still to make up
(`Memory.Tabular`).
-/

namespace SearchTenancy

open Operation

namespace Memory

/-- The store that a state stands for. -/
def toStore (memory : Memory) : Store where
  pointer name := (memory.aliases.get? name).bind fun behind => behind.keys.head?
  table key := (memory.indices.get? key).map fun content objectId =>
    (content.documents.get? objectId).map (Entries.erase · objectIdAttribute)

theorem toStore_empty : toStore .empty = .empty := rfl

/-- The id that is made up as the n-th. -/
def autoId (n : Nat) : String := "auto-" ++ Nat.repr n

theorem autoId_inj {m n : Nat} (h : autoId m = autoId n) : m = n := by
  have lists := congrArg String.toList h
  simp only [autoId, String.toList_append, List.append_cancel_left_eq, Nat.toList_repr] at lists
  simpa using congrArg (Nat.ofDigitChars 10 · 0) lists

/-- No document has an id that is still to be made up. -/
def Counted (memory : Memory) : Prop :=
  ∀ key n, (memory.document? key (autoId n)).isSome → n ≤ memory.nextId

/-- Every alias stands for one index, and no id that is still to be made up is used. -/
structure Tabular (memory : Memory) : Prop where
  single : ∀ name behind, memory.aliases.get? name = some behind → ∃ key, behind.keys = [key]
  counted : memory.Counted

theorem tabular_empty : Tabular .empty := ⟨fun _ _ found => (nomatch found), fun _ _ h => (nomatch h)⟩

variable {memory ready after : Memory} {index : TenantIndex} {now : Instant} {physical concrete : String}

theorem entry?_toStore (memory : Memory) (key objectId : String) :
    memory.toStore.entry? key objectId =
      (memory.document? key objectId).map (Entries.erase · objectIdAttribute) := by
  unfold Store.entry? document?
  simp only [toStore]
  cases memory.indices.get? key <;> rfl

/-! ## Changes of documents -/

/-- A change of the documents of one index is a change of the table. -/
theorem toStore_modify (memory : Memory) (key objectId : String) (entry : Option Members)
    {change : StoredIndex → StoredIndex}
    (documents : ∀ content other, (change content).documents.get? other =
      if other = objectId then entry else content.documents.get? other) :
    (memory.modify key change).toStore =
      memory.toStore.set key objectId (entry.map (Entries.erase · objectIdAttribute)) := by
  have aliases := (ChangesOnly.modify memory key change).aliases
  refine Store.ext ?_ ?_
  · unfold toStore
    rw [aliases]
    rfl
  · funext other
    unfold toStore Store.set modify
    by_cases same : other = key
    · subst same
      cases found : memory.indices.get? other with
      | none => simp [found]
      | some content =>
        simp only [Dict.get?_insert_self, if_true, Option.map_some, documents, Option.some.injEq, found]
        funext id
        split <;> rfl
    · cases found : memory.indices.get? key with
      | none => simp [same]
      | some content => simp [same, Ne.symm same]

theorem toStore_insert (memory : Memory) (key objectId : String) (source : Members) :
    (memory.modify key (·.insert objectId source)).toStore =
      memory.toStore.set key objectId (some (Entries.erase source objectIdAttribute)) := by
  refine toStore_modify memory key objectId (some source) fun content other => ?_
  show (content.documents.insert objectId source).get? other = _
  rw [Dict.get?_insert]
  simp only [eq_comm]

theorem toStore_remove (memory : Memory) (key objectId : String) :
    (memory.modify key (·.remove objectId)).toStore = memory.toStore.set key objectId none := by
  refine toStore_modify memory key objectId none fun content other => ?_
  show (content.documents.erase objectId).get? other = _
  rw [Dict.get?_erase]
  simp only [eq_comm]

/-- A change of the documents of one index that brings no id that is still to be made up. -/
theorem Counted.modify (counted : memory.Counted) (key : String) {change : StoredIndex → StoredIndex}
    (known : ∀ content, memory.indices.get? key = some content → ∀ n,
      ((change content).documents.get? (autoId n)).isSome →
      (content.documents.get? (autoId n)).isSome ∨ n ≤ memory.nextId) :
    (memory.modify key change).Counted := by
  intro other n there
  unfold Memory.modify at there ⊢
  cases found : memory.indices.get? key with
  | none =>
    rw [found] at there
    exact counted other n there
  | some content =>
    simp only [found, document?, Dict.get?_insert] at there ⊢
    split at there
    · rename_i same
      subst same
      rcases known content found n there with old | made
      · exact counted key n (by simpa [document?, found] using old)
      · exact made
    · exact counted other n there

theorem Counted.insert (counted : memory.Counted) (key : String) {objectId : String} (source : Members)
    (known : ∀ n, objectId = autoId n → n ≤ memory.nextId) :
    (memory.modify key (·.insert objectId source)).Counted := by
  refine counted.modify key fun content _ n there => ?_
  have there : ((content.documents.insert objectId source).get? (autoId n)).isSome := there
  rw [Dict.get?_insert] at there
  split at there
  · exact .inr (known n ‹_›)
  · exact .inl there

theorem Counted.remove (counted : memory.Counted) (key objectId : String) :
    (memory.modify key (·.remove objectId)).Counted := by
  refine counted.modify key fun content _ n there => ?_
  have there : ((content.documents.erase objectId).get? (autoId n)).isSome := there
  rw [Dict.get?_erase] at there
  split at there
  · cases there
  · exact .inl there

/-! ## Stored documents -/

/-- A document of a made-up id is inserted under an id that is not in use. -/
theorem store_none (counted : memory.Counted) (key : String) (source : Members) :
    memory.toStore.entry? key (memory.store key none source).1 = none ∧
      (memory.store key none source).2.toStore = memory.toStore.set key (memory.store key none source).1
        (some (Entries.erase source objectIdAttribute)) ∧
      (memory.store key none source).2.Counted := by
  -- The next number is above the counter, so no document has its id.
  have unused : memory.document? key (autoId (memory.nextId + 1)) = none := by
    cases found : memory.document? key (autoId (memory.nextId + 1)) with
    | none => rfl
    | some source =>
      have bound := counted key (memory.nextId + 1) (by simp [found])
      omega
  have later : ({ memory with nextId := memory.nextId + 1 } : Memory).Counted := by
    intro other n there
    exact Nat.le_succ_of_le (counted other n there)
  refine ⟨?_, toStore_insert { memory with nextId := memory.nextId + 1 } key _ source, ?_⟩
  · rw [entry?_toStore]
    show (memory.document? key (autoId (memory.nextId + 1))).map _ = none
    rw [unused]
    rfl
  · refine later.insert key source fun n same => ?_
    exact Nat.le_of_eq (autoId_inj (show autoId n = autoId (memory.nextId + 1) from same.symm))

theorem store_some (counted : memory.Counted) (key objectId : String) (source : Members)
    (known : ∀ n, objectId = autoId n → n ≤ memory.nextId) :
    (memory.store key (some objectId) source).2.toStore =
        memory.toStore.set key objectId (some (Entries.erase source objectIdAttribute)) ∧
      (memory.store key (some objectId) source).2.Counted :=
  ⟨toStore_insert memory key objectId source, counted.insert key source known⟩

theorem nextId_modify (memory : Memory) (key : String) (change : StoredIndex → StoredIndex) :
    (memory.modify key change).nextId = memory.nextId := by
  unfold modify
  split <;> rfl

/-- Creates apply to the table, and each makes up an id. -/
theorem applies_creates (counted : memory.Counted) (key : String) (entries : List BatchRequest)
    (creates : ∀ entry ∈ entries, entry.action = .create) :
    Store.Applies key memory.toStore entries (applyEntries key entries memory).1
        (applyEntries key entries memory).2.toStore ∧
      (applyEntries key entries memory).2.Counted ∧
      (applyEntries key entries memory).2.nextId = memory.nextId + entries.length := by
  induction entries generalizing memory with
  | nil => exact ⟨.done _, counted, rfl⟩
  | cons entry rest ih =>
    have others : ∀ entry ∈ rest, entry.action = .create :=
      fun other mem => creates other (List.mem_cons_of_mem _ mem)
    cases entry with
    | create body =>
      obtain ⟨unused, stored, still⟩ := store_none counted key body
      obtain ⟨applies, counted', next⟩ := ih still others
      rw [stored] at applies
      refine ⟨.create unused applies, counted', next.trans ?_⟩
      show (memory.store key none body).2.nextId + rest.length = _
      have made : (memory.store key none body).2.nextId = memory.nextId + 1 := nextId_modify ..
      rw [made, List.length_cons]
      omega
    | upsert _ _ | delete _ => cases creates _ List.mem_cons_self

/-- Upserts of known ids and deletes apply to the table. -/
theorem applies_others (counted : memory.Counted) (key : String) (entries : List BatchRequest)
    (others : ∀ entry ∈ entries, entry.action ≠ .create)
    (known : ∀ objectId body, .upsert objectId body ∈ entries → ∀ n, objectId = autoId n →
      n ≤ memory.nextId) :
    Store.Applies key memory.toStore entries (applyEntries key entries memory).1
        (applyEntries key entries memory).2.toStore ∧
      (applyEntries key entries memory).2.Counted := by
  induction entries generalizing memory with
  | nil => exact ⟨.done _, counted⟩
  | cons entry rest ih =>
    have later (next : Memory) (same : next.nextId = memory.nextId) (still : next.Counted) :=
      ih still (fun other mem => others other (List.mem_cons_of_mem _ mem))
        (fun id body mem n is => same ▸ known id body (List.mem_cons_of_mem _ mem) n is)
    cases entry with
    | create body => exact absurd rfl (others _ List.mem_cons_self)
    | upsert objectId body =>
      obtain ⟨stored, still⟩ := store_some counted key objectId body (known objectId body List.mem_cons_self)
      obtain ⟨applies, counted'⟩ := later (memory.store key (some objectId) body).2 (nextId_modify ..) still
      rw [stored] at applies
      exact ⟨.upsert applies, counted'⟩
    | delete objectId =>
      obtain ⟨applies, counted'⟩ := later _ (nextId_modify ..) (counted.remove key objectId)
      rw [toStore_remove] at applies
      exact ⟨.delete applies, counted'⟩

/-- The entries of a batch apply to the table. -/
theorem applies_ordered (counted : memory.Counted) (key : String) (requests : List BatchRequest)
    (known : ∀ objectId body, .upsert objectId body ∈ requests → ∀ n, objectId = autoId n →
      n ≤ memory.nextId + (BulkPayload.group requests .create).length) :
    Store.Applies key memory.toStore (BulkPayload.ordered requests)
        (applyEntries key (BulkPayload.ordered requests) memory).1
        (applyEntries key (BulkPayload.ordered requests) memory).2.toStore ∧
      (applyEntries key (BulkPayload.ordered requests) memory).2.Counted := by
  have grouped {action : BatchAction} {entry : BatchRequest} (mem : entry ∈ BulkPayload.group requests action) :
      entry ∈ requests ∧ entry.action = action := by simpa [BulkPayload.group] using mem
  -- The creates come first, so an upsert may use an id that they make up.
  obtain ⟨creates, counted', next⟩ := applies_creates counted key
    (BulkPayload.group requests .create) fun entry mem => (grouped mem).2
  obtain ⟨others, counted''⟩ := applies_others counted' key
    (BulkPayload.group requests .upsert ++ BulkPayload.group requests .delete)
    (fun entry mem => by
      rcases List.mem_append.1 mem with mem | mem <;> simp [(grouped mem).2])
    (fun objectId body mem n same => by
      rw [next]
      refine known objectId body ?_ n same
      rcases List.mem_append.1 mem with mem | mem
      · exact (grouped mem).1
      · exact (grouped mem).1)
  unfold BulkPayload.ordered
  rw [List.append_assoc, applyEntries_append]
  exact ⟨creates.append others, counted''⟩

/-! ## Aliases -/

/-- A name that is not that of an index is resolved as the store says. -/
theorem resolve_eq_pointer {name : String} (unshadowed : memory.indices.contains name = false) :
    memory.resolve name = memory.toStore.pointer name := by
  simp only [resolve, toStore, unshadowed]
  cases memory.aliases.get? name <;> rfl

/-- What is ready is ready in the store. -/
theorem Ready.toStore (made : Ready memory physical now ready) (resolved : ready.resolve physical = some concrete) :
    Store.Ready memory.toStore physical now concrete ready.toStore := by
  cases made with
  | there stands =>
    obtain ⟨behind, found⟩ := Option.isSome_iff_exists.1 stands
    refine .there ?_
    simp only [resolve, found] at resolved
    simpa [Memory.toStore, found] using resolved
  | created unset unused =>
    rw [resolve_provision unset] at resolved
    cases resolved
    have missing : memory.toStore.table (generationName physical now) = none := by
      simpa [Memory.toStore, Dict.contains_eq] using unused
    have allocated : (memory.provision (generationName physical now) physical).toStore =
        memory.toStore.allocate physical (generationName physical now) := by
      refine Store.ext ?_ ?_
      · funext name
        simp only [Memory.toStore, Store.allocate, Store.point, provision_aliases unset, eq_comm]
        split <;> rfl
      · funext key
        simp only [Memory.toStore, Store.allocate, provision_indices, eq_comm]
        split <;> rfl
    rw [allocated]
    exact .allocated (by simp [Memory.toStore, unset]) missing

theorem Tabular.made (h : memory.Tabular) (made : Ready memory physical now ready) : ready.Tabular := by
  refine ⟨?_, ?_⟩
  · cases made with
    | there _ => exact h.single
    | created unset unused =>
      intro name behind found
      rw [provision_aliases unset] at found
      split at found
      · cases found
        exact ⟨_, rfl⟩
      · exact h.single name behind found
  · cases made with
    | there _ => exact h.counted
    | created unset unused =>
      intro key n there
      refine h.counted key n ?_
      simp only [document?, provision_indices] at there ⊢
      split at there
      · cases there
      · exact there

/-- The only index behind an alias is the one that the alias points to. -/
theorem Tabular.exists_pointer (h : memory.Tabular) {name : String} {behind : Names}
    (found : memory.aliases.get? name = some behind) :
    ∃ key, behind.keys = [key] ∧ memory.toStore.pointer name = some key := by
  obtain ⟨key, keys⟩ := h.single name behind found
  exact ⟨key, keys, by simp [toStore, found, keys]⟩

theorem pointer_of_unset {name : String} (unset : memory.aliases.get? name = none) :
    memory.toStore.pointer name = none := by
  simp [toStore, unset]

/-- What is blocked is blocked in the store. -/
theorem Blocked.toStore (blocked : Blocked memory physical now) : memory.toStore.Blocked physical now := by
  refine ⟨pointer_of_unset blocked.1, ?_⟩
  simpa [Memory.toStore, Dict.contains_eq] using blocked.2

/-- Changes inside an index keep what is known of aliases. -/
theorem Tabular.inside (h : memory.Tabular) {left : Memory} (inside : ChangesOnly concrete memory left)
    (counted : left.Counted) : left.Tabular := by
  refine ⟨?_, counted⟩
  rw [inside.aliases]
  exact h.single

/-- Deleting one index takes the aliases away that stand for it, and no others. -/
theorem Tabular.aliases_without (h : memory.Tabular) (consistent : memory.Consistent) (key name : String) :
    (memory.without [key]).aliases.get? name =
      (memory.aliases.get? name).filter fun behind => behind.keys.head? ≠ some key := by
  have stands := without_standsFor consistent [key] name
  have gone (none : ∀ index, ¬ StandsFor (memory.without [key]).aliases name index) :
      (memory.without [key]).aliases.get? name = .none := by
    rw [← Option.not_isSome_iff_eq_none, (consistent.without [key]).isSome_iff]
    rintro ⟨index, standing⟩
    exact none index standing
  cases found : memory.aliases.get? name with
  | none =>
    refine gone fun index standing => ?_
    obtain ⟨behind, got, -⟩ := ((stands index).1 standing).1
    rw [found] at got
    cases got
  | some behind =>
    obtain ⟨only, keys⟩ := h.single name behind found
    have members (index : String) : StandsFor memory.aliases name index ↔ index = only := by
      simp [StandsFor, found, Dict.contains_eq, ← Dict.mem_keys, keys]
    -- An alias for one index is gone with it, and untouched by the deletion of another one.
    by_cases same : only = key
    · subst same
      simp only [Option.filter, keys, List.head?_cons, ne_eq, not_true_eq_false, decide_false]
      refine gone fun index standing => ?_
      obtain ⟨before, other⟩ := (stands index).1 standing
      exact other (by simp [(members index).1 before])
    · simp only [Option.filter, keys, List.head?_cons, ne_eq, Option.some.injEq, same, not_false_eq_true,
        decide_true, if_true]
      rw [← found]
      refine (consistent.without [key]).get?_congr consistent fun index => ?_
      rw [stands, members]
      refine ⟨And.left, fun is => ⟨is, ?_⟩⟩
      rw [is]
      simpa using same

theorem Tabular.toStore_without (h : memory.Tabular) (consistent : memory.Consistent) (key : String) :
    (memory.without [key]).toStore = memory.toStore.destroy key := by
  refine Store.ext ?_ ?_
  · funext name
    simp only [toStore, Store.destroy, h.aliases_without consistent]
    rcases Option.eq_none_or_eq_some (memory.aliases.get? name) with found | ⟨behind, found⟩
    · simp [found]
    · obtain ⟨only, keys⟩ := h.single name behind found
      by_cases same : only = key
      · simp [found, Option.filter, keys, same]
      · simp [found, Option.filter, keys, same]
  · funext other
    simp only [toStore, Store.destroy, without_indices, List.mem_singleton]
    split <;> rfl

theorem Tabular.without (h : memory.Tabular) (consistent : memory.Consistent) (key : String) :
    (memory.without [key]).Tabular := by
  refine ⟨fun name behind got => ?_, fun other n there => ?_⟩
  · rw [h.aliases_without consistent, Option.filter_eq_some_iff] at got
    exact h.single name behind got.1
  · have counter : (memory.without [key]).nextId = memory.nextId := by
      show (memory.indexDelete key).2.nextId = _
      unfold indexDelete
      split <;> rfl
    rw [counter]
    refine h.counted other n ?_
    unfold document? at there ⊢
    rw [without_indices] at there
    split at there
    · cases there
    · exact there

theorem toStore_point (memory : Memory) (name : String) {behind : Names} {key : String}
    (keys : behind.keys = [key]) :
    ({ memory with aliases := memory.aliases.insert name behind } : Memory).toStore =
      memory.toStore.point name key := by
  refine Store.ext ?_ rfl
  funext other
  simp only [toStore, Store.point, Dict.get?_insert, eq_comm]
  split
  · simp [keys]
  · rfl

theorem Tabular.point (h : memory.Tabular) (name : String) {behind : Names} {key : String}
    (keys : behind.keys = [key]) :
    ({ memory with aliases := memory.aliases.insert name behind } : Memory).Tabular := by
  refine ⟨fun other set got => ?_, h.counted⟩
  rw [Dict.get?_insert] at got
  split at got
  · cases got
    exact ⟨key, keys⟩
  · exact h.single other set got

/-- Settings do not show in the store. -/
theorem toStore_settled (memory : Memory) (key : String) {content : StoredIndex} {change : StoredIndex → StoredIndex}
    (found : memory.indices.get? key = some content) (documents : (change content).documents = content.documents) :
    (memory.modify key change).toStore = memory.toStore := by
  refine Store.ext ?_ ?_
  · simp only [toStore, (ChangesOnly.modify memory key change).aliases]
  · funext other
    simp only [toStore, modify, found, Dict.get?_insert]
    split
    · subst_vars
      rw [found]
      simp [documents]
    · rfl

end Memory

end SearchTenancy

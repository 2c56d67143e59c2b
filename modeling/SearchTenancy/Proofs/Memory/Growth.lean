import SearchTenancy.Proofs.Batch.Bulk
import SearchTenancy.Proofs.Mapping.Saving

/-!
# Indices that are written to

Documents are stored in one index and removed from one; the index is then said to be
fed (`Memory.Feeds`). Its mapping grows, and no other index changes. All entries of a
batch feed the index that the batch is made on (`Feeds.applyEntries`). A whole state grows
if its aliases stay and the mappings of its indices grow (`Memory.Grows`).
-/

namespace SearchTenancy

/-- Whatever describes the mapping of an index has grown. -/
def StoredIndex.Grows (before after : StoredIndex) : Prop :=
  ∀ schema, Schema.Describes schema before.mappings →
    ∃ grown, Schema.Describes grown after.mappings ∧ Schema.Grows schema grown

namespace StoredIndex.Grows

theorem refl (index : StoredIndex) : Grows index index := fun schema described => ⟨schema, described, .refl schema⟩

theorem trans {before middle after : StoredIndex} (first : Grows before middle) (rest : Grows middle after) :
    Grows before after := by
  intro schema described
  obtain ⟨grown, described', one⟩ := first schema described
  obtain ⟨last, described'', other⟩ := rest grown described'
  exact ⟨last, described'', one.trans other⟩

theorem insert (index : StoredIndex) (objectId : String) (source : Members) :
    Grows index (index.insert objectId source) := fun _ described => described.mapFields source

theorem remove (index : StoredIndex) (objectId : String) : Grows index (index.remove objectId) := refl index

end StoredIndex.Grows

namespace Memory

/-- Documents of one index have changed, and its mapping has grown. -/
structure Feeds (index : String) (before after : Memory) : Prop extends ChangesOnly index before after where
  grows : ∀ content, before.indices.get? index = some content →
    ∃ grown, after.indices.get? index = some grown ∧ content.Grows grown

namespace Feeds

variable {index : String} {before middle after : Memory}

theorem refl (index : String) (memory : Memory) : Feeds index memory memory :=
  ⟨.refl index memory, fun content found => ⟨content, found, .refl content⟩⟩

theorem trans (first : Feeds index before middle) (rest : Feeds index middle after) : Feeds index before after := by
  refine ⟨first.toChangesOnly.trans rest.toChangesOnly, fun content found => ?_⟩
  obtain ⟨grown, found', one⟩ := first.grows content found
  obtain ⟨last, found'', other⟩ := rest.grows grown found'
  exact ⟨last, found'', one.trans other⟩

theorem modify (memory : Memory) (index : String) {change : StoredIndex → StoredIndex}
    (grows : ∀ content, StoredIndex.Grows content (change content)) :
    Feeds index memory (memory.modify index change) := by
  refine ⟨.modify memory index change, fun content found => ⟨change content, ?_, grows content⟩⟩
  simp [Memory.modify, found]

theorem store (memory : Memory) (index : String) (objectId : Option String) (source : Members) :
    Feeds index memory (memory.store index objectId source).2 := by
  have inserted (memory : Memory) (id : String) : Feeds index memory (memory.modify index (·.insert id source)) :=
    modify memory index fun content => .insert content id source
  cases objectId with
  | some id => exact inserted memory id
  | none =>
    have counted : Feeds index memory { memory with nextId := memory.nextId + 1 } :=
      ⟨.counter memory _, fun content found => ⟨content, found, .refl content⟩⟩
    exact counted.trans (inserted _ _)

theorem remove (memory : Memory) (index objectId : String) :
    Feeds index memory (memory.modify index (·.remove objectId)) :=
  modify memory index fun content => .remove content objectId

theorem bulkLines (index : String) (lines : List Json) (memory : Memory) :
    Feeds index memory (Memory.bulkLines index lines memory).2 :=
  bulkLines_keeps (refl index) trans (store · index) (remove · index) lines memory

theorem applyEntry (concrete : String) (memory : Memory) (entry : BatchRequest) :
    Feeds concrete memory (memory.applyEntry concrete entry).2 := by
  cases entry with
  | create body => exact store ..
  | upsert objectId body => exact store ..
  | delete objectId => exact remove ..

theorem applyEntries (concrete : String) (entries : List BatchRequest) (memory : Memory) :
    Feeds concrete memory (Memory.applyEntries concrete entries memory).2 := by
  induction entries generalizing memory with
  | nil => exact refl concrete memory
  | cons entry rest ih => exact (applyEntry concrete memory entry).trans (ih _)

end Feeds

/-- Aliases stay, indices stay, and the mappings of indices grow. -/
structure Grows (before after : Memory) : Prop where
  aliases : ∀ name behind, before.aliases.get? name = some behind → after.aliases.get? name = some behind
  content : ∀ name content, before.indices.get? name = some content →
    ∃ grown, after.indices.get? name = some grown ∧ content.Grows grown

namespace Grows

variable {before middle after : Memory}

theorem refl (memory : Memory) : Grows memory memory :=
  ⟨fun _ _ found => found, fun _ content found => ⟨content, found, .refl content⟩⟩

theorem trans (first : Grows before middle) (rest : Grows middle after) : Grows before after := by
  refine ⟨fun name behind found => rest.aliases name behind (first.aliases name behind found), ?_⟩
  intro name content found
  obtain ⟨grown, found', one⟩ := first.content name content found
  obtain ⟨last, found'', other⟩ := rest.content name grown found'
  exact ⟨last, found'', one.trans other⟩

theorem resolve (h : Grows before after) {name concrete : String} {behind : Names}
    (found : before.aliases.get? name = some behind) (resolved : before.resolve name = some concrete) :
    after.resolve name = some concrete := by
  unfold Memory.resolve at resolved ⊢
  rw [found] at resolved
  rw [h.aliases name behind found]
  exact resolved

end Grows

theorem Feeds.toGrows {index : String} {before after : Memory} (fed : Feeds index before after) :
    Grows before after := by
  refine ⟨fun name behind found => by rw [fed.aliases]; exact found, fun name content found => ?_⟩
  by_cases same : name = index
  · subst same
    exact fed.grows content found
  · exact ⟨content, by rw [fed.others name same]; exact found, .refl content⟩

end Memory

end SearchTenancy

import SearchTenancy.Proofs.Batch.Bulk
import SearchTenancy.Proofs.Tenant.Lifecycle

/-!
# The documents of a state

What each change of a state does to its documents. A stored document replaces the one
under its id and no other (`document?_store`), an entry of a batch changes what is under
one id of one index (`document?_applyEntry`), and nothing happens to documents when storage
is made ready (`Ready.document?_eq`).
-/

namespace SearchTenancy

/-- What an entry of a batch leaves under the id that it is about. -/
def BatchRequest.left : BatchRequest → Option Members
  | .create body | .upsert _ body => some body
  | .delete _ => none

namespace Memory

variable {memory ready : Memory} {concrete physical : String} {now : Instant}

theorem document?_insert (there : memory.indices.contains concrete) (objectId : String) (source : Members)
    (key other : String) :
    (memory.modify concrete (·.insert objectId source)).document? key other =
      if key = concrete ∧ other = objectId then some source else memory.document? key other := by
  obtain ⟨index, found⟩ := Option.isSome_iff_exists.1 there
  have found : memory.indices.get? concrete = some index := found
  unfold modify document?
  simp only [found, Dict.get?_insert]
  by_cases same : concrete = key
  · subst same
    simp only [if_true, true_and, Option.bind_some, found]
    show (index.documents.insert objectId source).get? other = _
    rw [Dict.get?_insert]
    simp only [eq_comm]
  · simp [same, Ne.symm same]

theorem document?_remove (memory : Memory) (concrete objectId key other : String) :
    (memory.modify concrete (·.remove objectId)).document? key other =
      if key = concrete ∧ other = objectId then none else memory.document? key other := by
  unfold modify document?
  cases found : memory.indices.get? concrete with
  | none =>
    by_cases same : key = concrete
    · subst same
      simp [found]
    · simp [same]
  | some index =>
    simp only [Dict.get?_insert]
    by_cases same : concrete = key
    · subst same
      simp only [if_true, true_and, Option.bind_some, found]
      show (index.documents.erase objectId).get? other = _
      rw [Dict.get?_erase]
      simp only [eq_comm]
    · simp [same, Ne.symm same]

/-- Nothing changes when a document is removed that is not there. -/
theorem modify_remove_of_absent {objectId : String} (absent : memory.document? concrete objectId = none) :
    memory.modify concrete (·.remove objectId) = memory := by
  cases found : memory.indices.get? concrete with
  | none => simp [modify, found]
  | some content =>
    have missing : content.documents.get? objectId = none := by simpa [document?, found] using absent
    refine modify_eq_self found ?_
    have documents : content.documents.erase objectId = content.documents := by
      refine Dict.ext_get? fun key => ?_
      rw [Dict.get?_erase]
      split
      · subst_vars
        exact missing.symm
      · rfl
    simp [StoredIndex.remove, documents]

theorem document?_store (there : memory.indices.contains concrete) (objectId : Option String) (source : Members)
    (key other : String) :
    (memory.store concrete objectId source).2.document? key other =
      if key = concrete ∧ other = (memory.store concrete objectId source).1 then some source
      else memory.document? key other := by
  cases objectId with
  | some id => exact document?_insert there id source key other
  | none =>
    have counted : ({ memory with nextId := memory.nextId + 1 } : Memory).indices.contains concrete := there
    exact document?_insert counted _ source key other

theorem document?_applyEntry (there : memory.indices.contains concrete) (entry : BatchRequest) (key other : String) :
    (memory.applyEntry concrete entry).2.document? key other =
      if key = concrete ∧ other = (memory.applyEntry concrete entry).1 then entry.left
      else memory.document? key other := by
  cases entry with
  | create body => exact document?_store there none body key other
  | upsert objectId body => exact document?_store there (some objectId) body key other
  | delete objectId => exact document?_remove memory concrete objectId key other

/-- No document is stored when storage is made ready. -/
theorem Ready.document?_eq (made : Ready memory physical now ready) : ready.document? = memory.document? := by
  cases made with
  | there _ => rfl
  | created unset unused =>
    funext key objectId
    unfold document?
    rw [provision_indices]
    split
    · subst_vars
      have missing : memory.indices.get? (generationName physical now) = none := by
        simpa [Dict.contains_eq] using unused
      rw [missing]
      rfl
    · rfl

end Memory

end SearchTenancy

import SearchTenancy.Proofs.Memory.Documents
import SearchTenancy.Proofs.Tenant.Tables

/-!
# The order of a batch

A batch is sent in groups: the creates, then the upserts, then the deletes. Entries about
different documents do not meet, and of entries about one document the last decides. So the
groups leave the documents that the entries leave in the order of the batch, if the entries
about each single document stand in the order of the groups already
(`Memory.document?_applyEntries_ordered`). The ids of new documents are the same in both
orders, because the creates keep their order (`BatchRequest.named_ordered`).
-/

namespace SearchTenancy

namespace BatchRequest

/-- The id of the document that an entry is about, when `made` ids have been made up before. -/
def idAfter (made : Nat) : BatchRequest → String
  | create _ => Memory.autoId (made + 1)
  | upsert objectId _ | delete objectId => objectId

/-- The number of ids that have been made up after an entry. -/
def madeAfter (made : Nat) : BatchRequest → Nat
  | create _ => made + 1
  | upsert _ _ | delete _ => made

/-- The id that an entry is given by the caller. -/
def objectId? : BatchRequest → Option String
  | create _ => none
  | upsert objectId _ | delete objectId => some objectId

/-- Entries with the ids of the documents that they are about. -/
def named (made : Nat) : List BatchRequest → List (String × BatchRequest)
  | [] => []
  | entry :: rest => (entry.idAfter made, entry) :: named (entry.madeAfter made) rest

/-- Those of the entries that ask for one action, in their order. -/
def asking (action : BatchAction) (entries : List (String × BatchRequest)) : List (String × BatchRequest) :=
  entries.filter fun entry => entry.2.action = action

/-- Entries in the order of their groups. -/
def grouped (entries : List (String × BatchRequest)) : List (String × BatchRequest) :=
  asking .create entries ++ asking .upsert entries ++ asking .delete entries

variable {made : Nat} {entries requests : List BatchRequest}

theorem named_cons (made : Nat) (entry : BatchRequest) (rest : List BatchRequest) :
    named made (entry :: rest) = (entry.idAfter made, entry) :: named (entry.madeAfter made) rest := rfl

theorem map_named (made : Nat) (entries : List BatchRequest) : (named made entries).map (·.2) = entries := by
  induction entries generalizing made with
  | nil => rfl
  | cons entry rest ih => exact congrArg (entry :: ·) (ih _)

/-- An entry with an id of its own is about the document of that id. -/
theorem id_of_mem_named {id objectId : String} {entry : BatchRequest} (mem : (id, entry) ∈ named made entries)
    (own : entry.objectId? = some objectId) : id = objectId := by
  induction entries generalizing made with
  | nil => cases mem
  | cons first rest ih =>
    rcases List.mem_cons.1 mem with same | mem
    · cases same
      cases entry with
      | create body => cases own
      | upsert id body => exact Option.some.inj own
      | delete id => exact Option.some.inj own
    · exact ih mem

theorem named_append (made : Nat) (first rest : List BatchRequest) :
    ∃ later, named made (first ++ rest) = named made first ++ named later rest := by
  induction first generalizing made with
  | nil => exact ⟨made, rfl⟩
  | cons entry others ih =>
    obtain ⟨later, split⟩ := ih (entry.madeAfter made)
    exact ⟨later, congrArg (_ :: ·) split⟩

/-- The creates have the ids among all entries that they have by themselves. -/
theorem asking_create_named (made : Nat) (requests : List BatchRequest) :
    asking .create (named made requests) = named made (BulkPayload.group requests .create) := by
  induction requests generalizing made with
  | nil => rfl
  | cons entry rest ih =>
    cases entry with
    | create body => exact congrArg (_ :: ·) (ih (made + 1))
    | upsert objectId body => exact ih made
    | delete objectId => exact ih made

/-- The ids of all other entries do not depend on what has been made up. -/
theorem asking_named {action : BatchAction} (other : action ≠ .create) (made later : Nat)
    (requests : List BatchRequest) :
    asking action (named made requests) = named later (BulkPayload.group requests action) := by
  induction requests generalizing made with
  | nil => rfl
  | cons entry rest ih =>
    by_cases asks : entry.action = action
    · have kept : BulkPayload.group (entry :: rest) action = entry :: BulkPayload.group rest action := by
        simp [BulkPayload.group, asks]
      have head : asking action (named made (entry :: rest)) =
          (entry.idAfter made, entry) :: asking action (named (entry.madeAfter made) rest) := by
        simp [asking, named_cons, asks]
      rw [kept, head, ih]
      cases entry with
      | create body => exact absurd asks.symm other
      | upsert objectId body => rfl
      | delete objectId => rfl
    · have dropped : BulkPayload.group (entry :: rest) action = BulkPayload.group rest action := by
        simp [BulkPayload.group, asks]
      have head : asking action (named made (entry :: rest)) =
          asking action (named (entry.madeAfter made) rest) := by
        simp [asking, named_cons, asks]
      rw [dropped, head, ih]

/-- Every entry is about the same document in the order in which a batch is sent. -/
theorem named_ordered (made : Nat) (requests : List BatchRequest) :
    named made (BulkPayload.ordered requests) = grouped (named made requests) := by
  obtain ⟨middle, first⟩ := named_append made
    (BulkPayload.group requests .create ++ BulkPayload.group requests .upsert) (BulkPayload.group requests .delete)
  obtain ⟨later, second⟩ := named_append made (BulkPayload.group requests .create)
    (BulkPayload.group requests .upsert)
  unfold BulkPayload.ordered grouped
  rw [first, second, asking_create_named, asking_named (by decide) made later, asking_named (by decide) made middle]

/-! ## Entries about one document -/

end BatchRequest

/-- The place of an action in the order in which a batch is sent. -/
def BatchAction.place : BatchAction → Nat
  | create => 0
  | upsert => 1
  | delete => 2

namespace BatchRequest

/-- No entry comes before one of an earlier group. -/
abbrev InOrder (one other : String × BatchRequest) : Prop := one.2.action.place ≤ other.2.action.place

theorem asking_eq_nil {action : BatchAction} {entries : List (String × BatchRequest)}
    (later : ∀ entry ∈ entries, action.place < entry.2.action.place) : asking action entries = [] := by
  refine List.filter_eq_nil_iff.2 fun entry mem => ?_
  have behind := later entry mem
  simp only [decide_eq_true_eq]
  rintro rfl
  exact Nat.lt_irrefl _ behind

/-- Entries that stand in the order of their groups stay as they are. -/
theorem grouped_of_pairwise {entries : List (String × BatchRequest)} (ordered : entries.Pairwise InOrder) :
    grouped entries = entries := by
  induction ordered with
  | nil => rfl
  | @cons first rest behind _ ih =>
    obtain ⟨id, entry⟩ := first
    -- The groups before that of the first entry are empty.
    have before (action : BatchAction) (earlier : action.place < entry.action.place) : asking action rest = [] :=
      asking_eq_nil fun other mem => Nat.lt_of_lt_of_le earlier (behind other mem)
    unfold grouped at ih ⊢
    cases entry with
    | create body => exact congrArg (_ :: ·) ih
    | upsert objectId body =>
      have creates := before .create (Nat.zero_lt_succ _)
      rw [creates] at ih
      show asking .create rest ++ (_ :: asking .upsert rest) ++ asking .delete rest = _
      rw [creates]
      exact congrArg (_ :: ·) ih
    | delete objectId =>
      have creates := before .create (Nat.zero_lt_succ _)
      have upserts := before .upsert Nat.one_lt_two
      rw [creates, upserts] at ih
      show asking .create rest ++ asking .upsert rest ++ (_ :: asking .delete rest) = _
      rw [creates, upserts]
      exact congrArg (_ :: ·) ih

theorem filter_grouped (keep : String × BatchRequest → Bool) (entries : List (String × BatchRequest)) :
    (grouped entries).filter keep = grouped (entries.filter keep) := by
  simp only [grouped, asking, List.filter_append, List.filter_filter, Bool.and_comm]

/-- The entries about one document keep their order if it is that of the groups. -/
theorem filter_grouped_of_pairwise {entries : List (String × BatchRequest)}
    (ordered : entries.Pairwise fun one other => one.1 = other.1 → InOrder one other) (objectId : String) :
    (grouped entries).filter (·.1 = objectId) = entries.filter (·.1 = objectId) := by
  rw [filter_grouped]
  refine grouped_of_pairwise (List.pairwise_filter.2 (ordered.imp fun {one other} inOrder here there => ?_))
  exact inOrder ((of_decide_eq_true here).trans (of_decide_eq_true there).symm)

end BatchRequest

namespace Memory

open BatchRequest (named asking)

variable {memory : Memory} {concrete : String}

theorem applyEntry_id (memory : Memory) (concrete : String) (entry : BatchRequest) :
    (memory.applyEntry concrete entry).1 = entry.idAfter memory.nextId := by
  cases entry <;> rfl

theorem applyEntry_nextId (memory : Memory) (concrete : String) (entry : BatchRequest) :
    (memory.applyEntry concrete entry).2.nextId = entry.madeAfter memory.nextId := by
  cases entry <;> exact nextId_modify ..

/-- Entries are about the documents that their names say. -/
theorem applyEntries_ids (memory : Memory) (concrete : String) (entries : List BatchRequest) :
    (applyEntries concrete entries memory).1 = (named memory.nextId entries).map (·.1) := by
  induction entries generalizing memory with
  | nil => rfl
  | cons entry rest ih =>
    rw [applyEntries_cons, ih, applyEntry_id, applyEntry_nextId]
    rfl

/-- Of the entries about a document the last decides. -/
theorem document?_applyEntries (there : memory.indices.contains concrete) (entries : List BatchRequest)
    (objectId : String) :
    (applyEntries concrete entries memory).2.document? concrete objectId =
      ((named memory.nextId entries).filter (·.1 = objectId)).foldl (fun _ entry => entry.2.left)
        (memory.document? concrete objectId) := by
  induction entries generalizing memory with
  | nil => rfl
  | cons entry rest ih =>
    have still : (memory.applyEntry concrete entry).2.indices.contains concrete := by
      rw [(ChangesOnly.applyEntry concrete memory entry).contains]
      exact there
    rw [applyEntries_cons]
    refine (ih still).trans ?_
    rw [document?_applyEntry there, applyEntry_id, applyEntry_nextId]
    rw [BatchRequest.named_cons]
    by_cases about : entry.idAfter memory.nextId = objectId
    · simp [about]
    · simp [about, Ne.symm about]

theorem document?_applyEntries_of_ne {key : String} (other : key ≠ concrete) (memory : Memory)
    (entries : List BatchRequest) (objectId : String) :
    (applyEntries concrete entries memory).2.document? key objectId = memory.document? key objectId := by
  unfold document?
  rw [(ChangesOnly.applyEntries concrete entries memory).others key other]

/-- Sending a batch in groups does not change the documents that it leaves, if the entries about each
document stand in the order of the groups. -/
theorem document?_applyEntries_ordered (there : memory.indices.contains concrete) {requests : List BatchRequest}
    (ordered : (named memory.nextId requests).Pairwise fun one other =>
      one.1 = other.1 → BatchRequest.InOrder one other) :
    (applyEntries concrete (BulkPayload.ordered requests) memory).2.document? =
      (applyEntries concrete requests memory).2.document? := by
  funext key objectId
  by_cases here : key = concrete
  · subst here
    rw [document?_applyEntries there, document?_applyEntries there, BatchRequest.named_ordered,
      BatchRequest.filter_grouped_of_pairwise ordered]
  · rw [document?_applyEntries_of_ne here, document?_applyEntries_of_ne here]

end Memory

/-! ## The result of a batch -/

namespace BulkPayload

open BatchRequest (named asking)

theorem map_asking_named (action : BatchAction) (made : Nat) (requests : List BatchRequest) :
    (asking action (named made requests)).map (·.2) = group requests action := by
  conv_rhs => rw [← BatchRequest.map_named made requests]
  show _ = List.filter (fun entry => decide (entry.action = action)) ((named made requests).map (·.2))
  rw [List.filter_map]
  rfl

theorem length_asking_named (action : BatchAction) (made : Nat) (requests : List BatchRequest) :
    (asking action (named made requests)).length = (group requests action).length := by
  rw [← map_asking_named action made requests, List.length_map]

/-- The ids of a batch are told by groups, each in the order of the batch. -/
theorem split_ordered (requests : List BatchRequest) (concrete : String) (memory : Memory) :
    (ofRequests requests).split (Memory.applyEntries concrete (ordered requests) memory).1 =
      ⟨(asking .create (named memory.nextId requests)).map (·.1),
        (asking .upsert (named memory.nextId requests)).map (·.1),
        (asking .delete (named memory.nextId requests)).map (·.1)⟩ := by
  have creates := length_asking_named .create memory.nextId requests
  have upserts := length_asking_named .upsert memory.nextId requests
  rw [Memory.applyEntries_ids, BatchRequest.named_ordered, BatchRequest.grouped]
  simp only [split, ofRequests, List.map_append, List.append_assoc, ← creates, ← upserts]
  simp

/-- The ids of the upserts and of the deletes are the given ones. -/
theorem ids_asking_named {action : BatchAction} (other : action ≠ .create) (made : Nat)
    (requests : List BatchRequest) :
    (asking action (named made requests)).map (·.1) = (group requests action).filterMap BatchRequest.objectId? := by
  rw [← map_asking_named action made requests, List.filterMap_map]
  refine (List.filterMap_eq_map_iff_forall_eq_some.2 fun named mem => ?_).symm
  obtain ⟨listed, asks⟩ := List.mem_filter.1 mem
  obtain ⟨id, entry⟩ := named
  have asks : entry.action = action := of_decide_eq_true asks
  cases entry with
  | create body => exact absurd asks.symm other
  | upsert objectId body => exact congrArg some (BatchRequest.id_of_mem_named listed rfl).symm
  | delete objectId => exact congrArg some (BatchRequest.id_of_mem_named listed rfl).symm

end BulkPayload

end SearchTenancy

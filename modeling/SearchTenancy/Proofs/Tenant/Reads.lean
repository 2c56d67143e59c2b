import SearchTenancy.Proofs.Tenant.Query

/-!
# Reads of an index that is there

Every read of an index that has storage is answered (`Memory.reads_succeed`), on every
state that services with one name for the keyword sub-field have brought about, unless it
is a search whose sort stops. No facet makes a search fail by being aggregated on text
itself, because all text is mapped with a sub-field for facets, whether it was mapped
before settings were saved or after (`Schema.Equipped`).
-/

namespace SearchTenancy

open Operation

namespace StoredIndex

/-- The documents that are stored under one of some ids. -/
def withIds (content : StoredIndex) (objectIds : List String) : List (String × Members) :=
  content.documents.entries.filter fun document => document.1 ∈ objectIds

/-- A search for ids has no order that could stop it. -/
theorem found?_idsQuery (content : StoredIndex) (objectIds : List String) :
    content.found? (TenantIndex.idsQuery objectIds) = some (content.withIds objectIds) := by
  show some (content.matching (.obj [("ids", .obj [("values", .ofStrings objectIds)])])) = _
  apply congrArg some
  apply List.filter_congr
  intro document _
  show ((objectIds.map Json.str).any fun id => id.asString? == some document.1) = _
  rw [List.any_map, Bool.eq_iff_iff, List.any_eq_true]
  simp [Json.asString?]

end StoredIndex

namespace TenantIndex

open Memory StoredIndex

variable {memory : Memory} (index : TenantIndex) {concrete : String} {content : StoredIndex}

/-- Several documents are read from one answer, which holds as many documents as ids are asked for, and those that
it lacks are missing. -/
theorem runOn_getObjects (resolved : memory.resolve index.physical = some concrete)
    (found : memory.indices.get? concrete = some content) (plain : '*' ∉ index.physical.toList)
    (objectIds : List String) :
    runOn step (index.getObjects objectIds) memory =
      (.ok (objectIds.map (lastWithId?
        (((content.withIds objectIds).take objectIds.length.toUInt64.toNat).map rendered))), memory) := by
  unfold getObjects
  by_cases none : objectIds = []
  · subst none
    rfl
  · have some : objectIds.isEmpty = false := by simpa using none
    -- The search for ids has no aggregations that could fail.
    have searched : memory.search index.physical (idsQuery objectIds) .strict =
        .ok (answerOf concrete ((content.withIds objectIds).take objectIds.length.toUInt64.toNat)
          (content.withIds objectIds).length Option.none) := by
      rw [search_plain index resolved found plain, search_eq (content.found?_idsQuery objectIds)]
      rfl
    rw [some]
    simp only [Bool.false_eq_true, if_false, runOn_bind, TenantIndex.call, Operation.call, runOn_mk_call, step, searched,
      Except.mapError, Operation.reading, Hits.ofResponse_answerOf, runOn_ofExcept, runOn_pure]

/-- The size of an index is the number of documents of the first index behind its alias. -/
theorem runOn_stats (h : memory.Consistent) {behind : Names} (aliased : memory.aliases.get? index.physical = some behind)
    (resolved : memory.resolve index.physical = some concrete) (found : memory.indices.get? concrete = some content) :
    runOn step index.stats memory = (.ok ⟨index.physical, behind.keys, content.documents.size.toUInt64⟩, memory) := by
  have required := runOn_requireExists h index.physical
  rw [aliased] at required
  unfold stats
  have counted : memory.stats index.physical = .ok (.obj [("_all", .obj [("primaries", .obj [("docs",
      .obj [("count", .ofNat content.documents.size)])])])]) := by
    unfold Memory.stats resolveOrMissing
    rw [resolved]
    simp only [bind, Except.bind, found]
    rfl
  rw [runOn_bind_ok step memory required]
  simp only [runOn_bind, TenantIndex.call, Operation.call, runOn_mk_call, step, counted]
  rfl

end TenantIndex

namespace Memory

/-- Reads of an index with an alias succeed, searches as long as their sort does not stop, and no facet is
aggregated on text itself. A search that succeeds reports the facets in the order of their declaration. -/
theorem reads_succeed {run : List Request} {index : TenantIndex} (service : SavedWith run index.config.keywordSubfield)
    (aliased : ((empty.after run).aliases.get? index.physical).isSome) (plain : '*' ∉ index.physical.toList)
    (now : Instant) :
    let read (act : Act) := (empty.after run).answer ⟨index, now, act⟩
    (∃ stats, read .stats = .ok stats) ∧
    (∀ objectIds, ∃ documents, read (.getMany objectIds) = .ok documents) ∧
    ∃ settings concrete content mapping, read .getSettings = .ok settings ∧
      (empty.after run).resolve index.physical = some concrete ∧
      (empty.after run).indices.get? concrete = some content ∧
      (runOn step (readMapping index.physical) (empty.after run)).1 = .ok mapping ∧
      (∀ request : SearchRequest, request.validate = .ok () → request.offset index.config < UInt64.size →
        request.Sorts (content.matching (CompiledQuery.query request settings.searchableFields)) →
        ∃ result, read (.query request) = .ok result) ∧
      (∀ request result, read (.query request) = .ok result →
        result.facets.map FacetResult.field = settings.facetList.map FacetSpec.field) ∧
      ∀ facet ∈ settings.facetList, ¬ StoredIndex.BareText content.mappings
        (Facet.aggregationField facet.field (some mapping) index.config.keywordSubfield) := by
  intro read
  have consistent := (sound_empty.after run).consistent
  obtain ⟨behind, found⟩ := Option.isSome_iff_exists.1 aliased
  obtain ⟨concrete, resolved⟩ := consistent.exists_resolve found
  obtain ⟨content, there⟩ := consistent.exists_content resolved
  obtain ⟨schema, described, equipped⟩ := equipped_after service concrete content there
  have mapped := TenantIndex.runOn_readMapping resolved there described
  refine ⟨⟨_, congrArg Prod.fst (index.runOn_stats consistent found resolved there)⟩, ?_, _, concrete, content,
    schema.mapping (some concrete), congrArg Prod.fst (index.runOn_getSettings resolved there described), resolved, there,
    congrArg Prod.fst mapped, ?_, ?_, ?_⟩
  · intro objectIds
    exact ⟨_, congrArg Prod.fst (index.runOn_getObjects resolved there plain objectIds)⟩
  · intro request validated fits sorts
    have valid : request.Valid index.config := SearchRequest.valid_of_validate validated fits
    obtain ⟨selected, selects⟩ := StoredIndex.exists_selected?_iff.2 sorts
    have answer := congrArg Prod.fst (index.runOn_query_eq resolved there described plain valid selects)
    exact ⟨_, answer.trans (by rw [index.facetsOf_ok equipped described]; rfl)⟩
  · intro request result answered
    obtain ⟨selected, facets, -, counted, rfl⟩ := index.selected_of_query resolved there mapped answered
    obtain ⟨-, rfl⟩ := TenantIndex.facetsOf_eq_ok_iff.1 counted
    rw [IndexMapping.facetList_settings, TenantIndex.shown_facets, List.map_map]
    rfl
  · intro facet _ bare
    -- What could not be aggregated would be refused.
    obtain ⟨failure, refused⟩ := aggregatable_error_iff.2 bare
    obtain ⟨counted, fine⟩ := equipped.aggregatable described facet.field (some concrete)
    rw [fine] at refused
    cases refused

/-- One print that is stored before settings are saved and one that is stored after, both with text that is
counted, and only the title is to be searched. -/
def printsRun : List Request :=
  [.atEpoch "acme" "prints" (.put (some "1") (.obj [("artist", .str "Klee")])),
    .atEpoch "acme" "prints" (.saveSettings
      ⟨some ["title"], some [⟨"title", .count⟩, ⟨"artist", .count⟩, ⟨"kind", .count⟩]⟩),
    .atEpoch "acme" "prints" (.put (some "2") (.obj [("kind", .str "etching"), ("title", .str "Senecio")]))]

/-- The prints in the order of their titles, of which one has none. -/
def printSearch : SearchRequest := ⟨none, none, some [⟨"title", none⟩], none, none⟩

/-- All three facets are counted. -/
theorem prints_are_counted :
    (SavedWith printsRun "raw" ∧
      ((empty.after printsRun).aliases.get? (TenantIndex.physical ⟨.default, "acme", "prints"⟩)).isSome ∧
      '*' ∉ (TenantIndex.physical ⟨.default, "acme", "prints"⟩).toList) ∧
    ∃ result, (empty.after printsRun).answer (.atEpoch "acme" "prints" (.query printSearch)) = .ok result ∧
      result.facets.map FacetResult.field = ["title", "artist", "kind"] := by
  have agreed : ∀ request ∈ printsRun, request.index.config.keywordSubfield = "raw" := by decide
  have service : SavedWith printsRun "raw" := fun request mem _ _ => agreed request mem
  have aliased : ((empty.after printsRun).aliases.get? (TenantIndex.physical ⟨.default, "acme", "prints"⟩)).isSome := by
    decide +kernel
  have plain : '*' ∉ (TenantIndex.physical ⟨.default, "acme", "prints"⟩).toList := by decide
  have reported : (empty.after printsRun).answer (.atEpoch "acme" "prints" .getSettings) =
      .ok ⟨some ["title"], some [⟨"title", .count⟩, ⟨"artist", .count⟩, ⟨"kind", .count⟩]⟩ := by rfl
  have provisioned : (empty.after printsRun).resolve (TenantIndex.physical ⟨.default, "acme", "prints"⟩) =
      some "acme_prints_1970.1.1.0" := by decide +kernel
  have sortable : ((empty.after printsRun).indices.get? "acme_prints_1970.1.1.0").map (fun content =>
      decide (printSearch.Sorts (content.matching (CompiledQuery.query printSearch (some ["title"]))))) = some true := by
    decide +kernel
  obtain ⟨-, -, settings, concrete, content, -, read, resolved, found, -, succeeds, fields, -⟩ :=
    reads_succeed service aliased plain .epoch
  cases reported.symm.trans read
  cases provisioned.symm.trans resolved
  rw [found, Option.map_some, Option.some_inj, decide_eq_true_iff] at sortable
  obtain ⟨result, answered⟩ := succeeds printSearch (by decide) (by decide) sortable
  exact ⟨⟨service, aliased, plain⟩, result, answered, fields printSearch result answered⟩

/-- A letter among numbers stops the sort of more than twenty cards, and so a valid request. -/
theorem letter_stops_search :
    (SavedWith cardRun "raw" ∧
      ((empty.after cardRun).aliases.get? (TenantIndex.physical ⟨.default, "acme", "cards"⟩)).isSome ∧
      '*' ∉ (TenantIndex.physical ⟨.default, "acme", "cards"⟩).toList) ∧
    cardSearch.validate = .ok () ∧ cardSearch.offset .default < UInt64.size ∧
    ¬ ∃ result, (empty.after cardRun).answer (.atEpoch "acme" "cards" (.query cardSearch)) = .ok result := by
  have agreed : ∀ request ∈ cardRun, request.index.config.keywordSubfield = "raw" := by decide
  have stopped : (empty.after cardRun).answer (.atEpoch "acme" "cards" (.query cardSearch)) =
      .error (.unclassified StoredIndex.sortStopped) := by rfl
  refine ⟨⟨fun request mem _ _ => agreed request mem, by decide +kernel, by decide⟩, by decide, by decide, ?_⟩
  rintro ⟨result, answered⟩
  cases stopped.symm.trans answered

end Memory

end SearchTenancy

import SearchTenancy.Proofs.Facet.Aggregation
import SearchTenancy.Proofs.Search.Order

/-!
# Searching and reading the answer

Which requests are compiled (`SearchRequest.Valid`), what the backend finds for a
compiled request (`StoredIndex.selected?`), and what is read from its answer: one page of
the documents that are found, and the number of all of them. Nothing is found if the
sort stops, which it may where the order of the request is none of what matches
(`SearchRequest.Sorts`).
-/

namespace SearchTenancy

open StoredIndex

namespace SearchRequest

variable (config : ServiceConfig) (request : SearchRequest)

/-- The number of hits on a page. -/
def size : UInt64 := request.hitsPerPage.getD config.defaultHitsPerPage

/-- The number of hits in front of the page. -/
def offset : Nat := ((request.page.getD 1).toNat - 1) * (request.size config).toNat

/-- Pages are counted from one and are not empty, and the hits in front of the page can be counted with 64
bits. -/
structure Valid : Prop where
  page : request.page ≠ some 0
  hitsPerPage : request.hitsPerPage ≠ some 0
  offset : request.offset config < UInt64.size

variable {config request}

theorem validate_of_ne (page : request.page ≠ some 0) (hitsPerPage : request.hitsPerPage ≠ some 0) :
    request.validate = .ok () := (if_neg page).trans (if_neg hitsPerPage)

/-- A request that passes validation is valid if the hits in front of its page can be counted. -/
theorem valid_of_validate (validated : request.validate = .ok ()) (fits : request.offset config < UInt64.size) :
    request.Valid config := by
  unfold validate at validated
  split at validated
  · cases validated
  · split at validated
    · cases validated
    · exact ⟨‹_›, ‹_›, fits⟩

theorem offset_of_page {page : UInt64} (asked : request.page = some page) :
    request.offset config = (page.toNat - 1) * (request.size config).toNat := by
  simp [offset, asked]

end SearchRequest

namespace CompiledQuery

/-- The body of a search, with the members that are given. -/
def bodyOf (aggregations : Option Json) (start : Option UInt64) (query : Json) (size : UInt64) (sort : Option Json) : Json :=
  .obj (Json.optionalMember "aggs" aggregations ++ Json.optionalMember "from" (start.map .ofUInt64) ++
    [("query", query), ("size", .ofUInt64 size)] ++ Json.optionalMember "sort" sort)

/-- The aggregations of a body, if there are facets. -/
def aggsOf (facets : List FacetSpec) (mapping : Option IndexMapping) (subfield : String) (size : UInt64) : Option Json :=
  if facets.isEmpty then none else some (Facet.aggregations facets mapping subfield size)

/-- The order of a body, if there are clauses. -/
def sortOf (clauses : List SortClause) : Option Json :=
  if (clauses.map sortClause).isEmpty then none else some (.arr (clauses.map sortClause))

section Body

variable (aggregations : Option Json) (start : Option UInt64) (query : Json) (size : UInt64) (sort : Option Json)

@[simp]
theorem aggs_bodyOf : (bodyOf aggregations start query size sort).get? "aggs" = aggregations := by
  cases aggregations <;> cases start <;> cases sort <;> rfl

@[simp]
theorem from_bodyOf : (bodyOf aggregations start query size sort).get? "from" = start.map .ofUInt64 := by
  cases aggregations <;> cases start <;> cases sort <;> rfl

@[simp]
theorem query_bodyOf : (bodyOf aggregations start query size sort).get? "query" = some query := by
  cases aggregations <;> cases start <;> cases sort <;> rfl

@[simp]
theorem size_bodyOf : (bodyOf aggregations start query size sort).get? "size" = some (.ofUInt64 size) := by
  cases aggregations <;> cases start <;> cases sort <;> rfl

@[simp]
theorem sort_bodyOf : (bodyOf aggregations start query size sort).get? "sort" = sort := by
  cases aggregations <;> cases start <;> cases sort <;> rfl

end Body

variable {config : ServiceConfig} {request : SearchRequest}

section Offset

variable {page size : UInt64}

theorem offset_ok (fits : (page.toNat - 1) * size.toNat < UInt64.size) :
    offset page size = .ok ((page.toNat - 1) * size.toNat).toUInt64 := if_pos fits

theorem offset_error (beyond : ¬ (page.toNat - 1) * size.toNat < UInt64.size) :
    offset page size = .error (.offsetOutOfRange page size) := if_neg beyond

end Offset

/-- Only the hits in front of its page can make a request fail that passes validation. -/
theorem compile_page {page : UInt64} (asked : request.page = some page) (validated : request.validate = .ok ())
    (settings : Option SettingsSpec) (mapping : Option IndexMapping) :
    compile config request settings mapping = (offset page (request.size config)).map fun start =>
      ⟨bodyOf (aggsOf ((settings.map SettingsSpec.facetList).getD []) mapping config.keywordSubfield config.facetSize)
          (some start) (query request (settings.bind (·.searchableFields))) (request.size config)
          (sortOf (request.sort.getD [])), page, request.size config⟩ := by
  unfold compile
  simp only [validated, asked, Option.mapM_some, SearchRequest.size]
  cases offset page (request.hitsPerPage.getD config.defaultHitsPerPage) <;> rfl

theorem compile_ok (valid : request.Valid config) (settings : Option SettingsSpec) (mapping : Option IndexMapping) :
    ∃ start : Option UInt64, (start.map UInt64.toNat).getD 0 = request.offset config ∧
      compile config request settings mapping =
        .ok ⟨bodyOf (aggsOf ((settings.map SettingsSpec.facetList).getD []) mapping config.keywordSubfield
            config.facetSize) start (query request (settings.bind (·.searchableFields))) (request.size config)
            (sortOf (request.sort.getD [])), request.page.getD 1, request.size config⟩ := by
  have validated := SearchRequest.validate_of_ne valid.page valid.hitsPerPage
  cases asked : request.page with
  | none =>
    refine ⟨none, by simp [SearchRequest.offset, asked], ?_⟩
    unfold compile
    simp only [validated, asked]
    rfl
  | some page =>
    have fits := valid.offset
    rw [SearchRequest.offset_of_page asked] at fits ⊢
    refine ⟨some ((page.toNat - 1) * (request.size config).toNat).toUInt64, ?_, ?_⟩
    · simpa using Nat.mod_eq_of_lt fits
    · rw [compile_page asked validated, offset_ok fits]
      rfl

theorem compile_error (invalid : ¬ request.Valid config) (settings : Option SettingsSpec) (mapping : Option IndexMapping) :
    ∃ flaw, compile config request settings mapping = .error flaw := by
  by_cases first : request.page = some 0
  · have checked : request.validate = .error .pageZero := if_pos first
    unfold compile
    exact ⟨_, by rw [checked]; rfl⟩
  · by_cases empty : request.hitsPerPage = some 0
    · have checked : request.validate = .error .hitsPerPageZero := (if_neg first).trans (if_pos empty)
      unfold compile
      exact ⟨_, by rw [checked]; rfl⟩
    · have beyond : ¬ request.offset config < UInt64.size := fun fits => invalid ⟨first, empty, fits⟩
      cases asked : request.page with
      | none => exact absurd (by simp [SearchRequest.offset, asked]) beyond
      | some page =>
        rw [SearchRequest.offset_of_page asked] at beyond
        refine ⟨.offsetOutOfRange page (request.size config), ?_⟩
        rw [compile_page asked (SearchRequest.validate_of_ne first empty), offset_error beyond]
        rfl

end CompiledQuery

/-! ## Answers -/

/-- The documents that satisfy a query, in the order of the clauses of a request, if they can be sorted so. -/
def StoredIndex.selected? (content : StoredIndex) (query : Json) (clauses : List SortClause) :
    Option (List (String × Members)) :=
  sortByAll? (clauses.map CompiledQuery.sortClause) (content.matching query)

/-- The order of a request is one that some documents can be sorted in: they are few, or each clause orders them. -/
def SearchRequest.Sorts (request : SearchRequest) (documents : List (String × Members)) : Prop :=
  ∀ clause ∈ request.sort.getD [], Sortable clause.compare documents

instance (request : SearchRequest) (documents : List (String × Members)) : Decidable (request.Sorts documents) :=
  inferInstanceAs (Decidable (∀ _ ∈ _, _))

/-- A document as a caller sees it. -/
def rendered (document : String × Members) : Json :=
  IndexedObject.toValue ⟨document.1, Entries.erase document.2 objectIdAttribute⟩

theorem SearchRequest.sorts_of_uniform {request : SearchRequest} {documents : List (String × Members)}
    (uniform : ∀ clause ∈ request.sort.getD [], Uniform clause.field documents) : request.Sorts documents :=
  fun clause mem => .inr (orders_of_uniform (uniform clause mem))

namespace StoredIndex

variable {content : StoredIndex} {query : Json} {clauses : List SortClause}

theorem found?_bodyOf (content : StoredIndex) (aggregations : Option Json) (start : Option UInt64) (query : Json)
    (size : UInt64) (clauses : List SortClause) :
    content.found? (CompiledQuery.bodyOf aggregations start query size (CompiledQuery.sortOf clauses)) =
      content.selected? query clauses := by
  unfold found? selected?
  simp only [CompiledQuery.query_bodyOf, CompiledQuery.sort_bodyOf, Option.getD_some]
  cases clauses <;> rfl

theorem mem_matching {document : String × Members} :
    document ∈ content.matching query ↔
      content.documents.get? document.1 = some document.2 ∧ Match.query document.1 document.2 query := by
  unfold matching
  rw [List.mem_filter]
  exact and_congr_left' content.documents.sorted.mem_iff

theorem pairwise_matching (content : StoredIndex) (query : Json) :
    (content.matching query).Pairwise fun a b => a.1 < b.1 := List.Pairwise.filter _ content.documents.sorted

theorem nodup_matching : (content.matching query).Nodup := by
  refine (content.pairwise_matching query).imp fun {a b} below same => ?_
  rw [same] at below
  exact String.lt_irrefl _ below

theorem exists_selected?_iff {request : SearchRequest} :
    (∃ selected, content.selected? query (request.sort.getD []) = some selected) ↔
      request.Sorts (content.matching query) := exists_sortByAll?_iff

theorem selected?_perm {selected : List (String × Members)} (selects : content.selected? query clauses = some selected) :
    selected.Perm (content.matching query) := sortByAll?_perm selects

theorem pairwise_selected? {selected : List (String × Members)} (selects : content.selected? query clauses = some selected)
    (uniform : ∀ clause ∈ clauses, Uniform clause.field (content.matching query)) :
    selected.Pairwise (StandsBefore clauses) := pairwise_sortByAll (content.pairwise_matching query) uniform selects

end StoredIndex

def answerOf (concrete : String) (page : List (String × Members)) (total : Nat) (aggregations : Option Members) : Json :=
  .obj (Json.optionalMember "aggregations" (aggregations.map .obj) ++
    [("hits", .obj [("hits", .arr (page.map (hit concrete))),
      ("total", .obj [("relation", .str "eq"), ("value", .ofNat total)])])])

/-- The documents of the page are read from an answer, and the number of all. -/
theorem Hits.ofResponse_answerOf (concrete : String) (page : List (String × Members)) (total : Nat)
    (aggregations : Option Members) :
    Hits.ofResponse (answerOf concrete page total aggregations) = .ok (page.map rendered, total.toUInt64) := by
  have hits : (answerOf concrete page total aggregations).get? "hits" =
      some (.obj [("hits", .arr (page.map (hit concrete))),
        ("total", .obj [("relation", .str "eq"), ("value", .ofNat total)])]) := by
    cases aggregations <;> rfl
  have read : (page.map (hit concrete)).mapM Hits.document = .ok (page.map rendered) := by
    rw [List.mapM_map]
    exact mapM_ok fun _ _ => rfl
  unfold Hits.ofResponse
  rw [hits]
  show (do
    let documents ← (page.map (hit concrete)).mapM Hits.document
    return (documents, total.toUInt64) : Except AnswerFault _) = _
  rw [read]
  rfl

/-- A search is answered with one part of what is found and the number of all of it, unless its aggregations
fail. -/
theorem StoredIndex.search_eq {content : StoredIndex} {body : Json} {documents : List (String × Members)}
    (found : content.found? body = some documents) (concrete : String) :
    content.search concrete body =
      (((body.get? "aggs").bind Json.asObject?).mapM (aggregate content.mappings documents)).map
        (answerOf concrete ((documents.drop (searchNumber body "from" 0)).take (searchNumber body "size" 10))
          documents.length) := by
  unfold StoredIndex.search
  rw [found]
  dsimp only
  generalize ((body.get? "aggs").bind Json.asObject?).mapM (aggregate content.mappings documents) = answers
  cases answers <;> rfl

theorem StoredIndex.search_stopped {content : StoredIndex} {body : Json} (stops : content.found? body = none)
    (concrete : String) : content.search concrete body = .error sortStopped := by
  unfold StoredIndex.search
  rw [stops]
  rfl

namespace CompiledQuery

variable (aggregations : Option Json) (start : Option UInt64) (query : Json) (size : UInt64) (sort : Option Json)

@[simp]
theorem searchNumber_from_bodyOf :
    searchNumber (bodyOf aggregations start query size sort) "from" 0 = (start.map UInt64.toNat).getD 0 := by
  unfold searchNumber
  rw [from_bodyOf]
  cases start <;> rfl

@[simp]
theorem searchNumber_size_bodyOf : searchNumber (bodyOf aggregations start query size sort) "size" 10 = size.toNat := by
  unfold searchNumber
  rw [size_bodyOf]
  rfl

end CompiledQuery

/-- Facets are read from the aggregations of an answer alone. -/
theorem Facet.results_answerOf (concrete : String) (page : List (String × Members)) (total : Nat)
    (aggregations : Option Members) (facets : List FacetSpec) :
    Facet.results (answerOf concrete page total aggregations) facets =
      Facet.results (answerOf "" [] 0 aggregations) facets := by
  have read (page : List (String × Members)) (total : Nat) (concrete : String) :
      (answerOf concrete page total aggregations).get? "aggregations" = aggregations.map .obj := by
    cases aggregations <;> rfl
  unfold Facet.results
  rw [read, read]

/-- The facets of some documents, or the failure of their aggregations. -/
def StoredIndex.facetsOf (content : StoredIndex) (documents : List (String × Members)) (mapping : IndexMapping)
    (subfield : String) (facetSize : UInt64) : Except BackendError (Except AnswerFault (List FacetResult)) :=
  (((CompiledQuery.aggsOf mapping.facets (some mapping) subfield facetSize).bind Json.asObject?).mapM
    (aggregate content.mappings documents)).map fun answers => Facet.results (answerOf "" [] 0 answers) mapping.facets

/-- The facets succeed if the backend can count the values of a field for each of them, and are the counts of these
fields. -/
theorem StoredIndex.facetsOf_eq_ok_iff {content : StoredIndex} {documents : List (String × Members)}
    {mapping : IndexMapping} {subfield : String} {facetSize : UInt64} {facets : Except AnswerFault (List FacetResult)} :
    content.facetsOf documents mapping subfield facetSize = .ok facets ↔
      Facet.Fine mapping.facets (some mapping) subfield content.mappings ∧
      facets = .ok (mapping.facets.map fun facet => Facet.resultOf documents
        (counted content.mappings (Facet.aggregationField facet.field (some mapping) subfield)) facet) := by
  unfold facetsOf
  by_cases none : mapping.facets = []
  · rw [none]
    exact ⟨fun same => ⟨fun _ mem => absurd mem List.not_mem_nil, (Except.ok.inj same).symm⟩,
      fun same => congrArg Except.ok same.2.symm⟩
  · have asked : (CompiledQuery.aggsOf mapping.facets (some mapping) subfield facetSize).bind Json.asObject? =
        some (Facet.aggregationsOf mapping.facets (some mapping) subfield facetSize) := by
      rw [CompiledQuery.aggsOf, if_neg (by simpa using none)]
      rfl
    have fine : (∃ answers, aggregate content.mappings documents
        (Facet.aggregationsOf mapping.facets (some mapping) subfield facetSize) = .ok answers) ↔
        Facet.Fine mapping.facets (some mapping) subfield content.mappings := Facet.aggregate_ok_iff
    rw [asked, Option.mapM_some, ← fine]
    cases aggregated : aggregate content.mappings documents
        (Facet.aggregationsOf mapping.facets (some mapping) subfield facetSize) with
    | error failure => exact ⟨fun same => (nomatch same), fun ⟨⟨_, same⟩, _⟩ => (nomatch same)⟩
    | ok answers =>
      have read : Facet.results (answerOf "" [] 0 (some answers)) mapping.facets = _ :=
        Facet.results_eq (fun field => counted content.mappings (Facet.aggregationField field (some mapping) subfield))
          (fun _ => rfl) (Facet.get?_aggregate aggregated)
      rw [← read]
      exact ⟨fun same => ⟨⟨answers, rfl⟩, (Except.ok.inj same).symm⟩, fun same => congrArg Except.ok same.2.symm⟩

end SearchTenancy

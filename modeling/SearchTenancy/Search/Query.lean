import SearchTenancy.Document
import SearchTenancy.Facet.Aggregation
import SearchTenancy.Search.Expression

/-!
# Queries

A search request as the body of a search call, and the documents read from the
answer. Each part of the request is compiled by itself. A request without text and
filters matches all documents.
-/

namespace SearchTenancy

/-- The fixed choices of a service. -/
structure ServiceConfig where
  /-- The size of a page that a request leaves open. -/
  defaultHitsPerPage : UInt64
  /-- The greatest number of values of a facet. -/
  facetSize : UInt64
  /-- The name of the sub-field that facets on text are aggregated on. -/
  keywordSubfield : String

/-- Ten hits on a page, a hundred values of a facet, and the sub-field `raw`. -/
def ServiceConfig.default : ServiceConfig := ⟨10, 100, "raw"⟩

/-- A search call, with the page that it is for. -/
structure CompiledQuery where
  body : Json
  page : UInt64
  hitsPerPage : UInt64

namespace CompiledQuery

/-- The clause for a text, `none` if the text has no terms. It is matched against the searchable
fields, or against all fields if there are none. -/
def textClause (text : String) (searchable : Option (List String)) : Option Json :=
  (fuzzyExpression text).map fun expression =>
    let fields := searchable.filter (fun fields => !fields.isEmpty)
    .obj [("query_string", .obj ([("default_operator", .str "AND")] ++
      Json.optionalMember "fields" (fields.map fun fields => .ofStrings (boostedFields fields)) ++
      [("query", .str expression)]))]

/-- The clause of a filter. -/
def filterClause : Filter → Json
  | .term field value => .obj [("term", .obj [(field, value)])]
  | .range field lower upper =>
    .obj [("range", .obj [(field,
      .obj (Json.optionalMember "gte" lower ++ Json.optionalMember "lte" upper))])]

/-- The clause of an order. -/
def sortClause (clause : SortClause) : Json :=
  match clause.direction with
  | some direction => .obj [(clause.field, .obj [("order", .str direction.name)])]
  | none => .str clause.field

/-- The query: all documents, or those that satisfy the text and the filters. -/
def query (request : SearchRequest) (searchable : Option (List String)) : Json :=
  let must := (request.query.bind (textClause · searchable)).toList
  let filter := (request.filters.getD []).map filterClause
  if must.isEmpty && filter.isEmpty then .obj [("match_all", .empty)]
  else
    let part (name : String) (clauses : List Json) : Members :=
      Json.optionalMember name (if clauses.isEmpty then none else some (.arr clauses))
    .obj [("bool", .obj (part "filter" filter ++ part "must" must))]

/-- The number of hits in front of a page, which has to fit 64 bits. -/
def offset (page hitsPerPage : UInt64) : Except InvalidRequest UInt64 :=
  let hits := (page.toNat - 1) * hitsPerPage.toNat
  if hits < UInt64.size then .ok hits.toUInt64 else .error (.offsetOutOfRange page hitsPerPage)

/-- Compiles a request for an index with the given settings and mapping. -/
def compile (config : ServiceConfig) (request : SearchRequest) (settings : Option SettingsSpec)
    (mapping : Option IndexMapping) : Except InvalidRequest CompiledQuery := do
  request.validate.mapError .flaw
  let hitsPerPage := request.hitsPerPage.getD config.defaultHitsPerPage
  let start ← request.page.mapM fun page => offset page hitsPerPage
  let sort := (request.sort.getD []).map sortClause
  let facets := (settings.map SettingsSpec.facetList).getD []
  let body : Members :=
    Json.optionalMember "aggs" (if facets.isEmpty then none
      else some (Facet.aggregations facets mapping config.keywordSubfield config.facetSize)) ++
    Json.optionalMember "from" (start.map .ofUInt64) ++
    [("query", query request (settings.bind (·.searchableFields))), ("size", .ofUInt64 hitsPerPage)] ++
    Json.optionalMember "sort" (if sort.isEmpty then none else some (.arr sort))
  return ⟨.obj body, request.page.getD 1, hitsPerPage⟩

end CompiledQuery

namespace Hits

/-- The document of a hit, with its id. -/
def document (hit : Json) : Except AnswerFault Json :=
  match (hit.get? "_id").bind Json.asString? with
  | some id =>
    let source := ((hit.get? "_source").bind Json.asObject?).getD []
    .ok (IndexedObject.toValue ⟨id, Entries.erase source objectIdAttribute⟩)
  | none => .error .hitWithoutId

/-- The number of matches: a number, or an object with a `value`. -/
def total (hits : Json) : UInt64 :=
  match hits.get? "total" with
  | some (.obj members) => (((Json.obj members).get? "value").bind Json.asUInt64?).getD 0
  | some total => total.asUInt64?.getD 0
  | none => 0

/-- The documents of a search answer and the number of matches. -/
def ofResponse (response : Json) : Except AnswerFault (List Json × UInt64) :=
  match response.get? "hits" with
  | some hits => do
    let documents ← (((hits.get? "hits").bind Json.asArray?).getD []).mapM document
    return (documents, total hits)
  | none => .error .searchWithoutHits

end Hits

end SearchTenancy

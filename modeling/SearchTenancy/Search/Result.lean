import SearchTenancy.Search.Request

/-!
# Search results

The documents of one page with the total number of matches, and the values of each
configured facet with their counts.
-/

namespace SearchTenancy

/-- A value of a facet and the number of documents that have it. -/
structure FacetValue where
  value : Json
  count : UInt64

/-- The values of the facet on one field. -/
structure FacetResult where
  field : String
  values : List FacetValue

/-- The answer to a search. -/
structure QueryResult where
  /-- The documents of the page, each with its `objectID`. -/
  hits : List Json
  /-- The number of matching documents, on this page or not. -/
  total : UInt64
  page : UInt64
  hitsPerPage : UInt64
  /-- The facets in the order of their declaration. -/
  facets : List FacetResult

namespace FacetValue

/-- The written form of a facet value. -/
def toJson (facet : FacetValue) : Json := .obj [("count", .ofUInt64 facet.count), ("value", facet.value)]

/-- Reads a facet value; it has to be given, but may be null. -/
def read : Written → Reading RequestFlaw FacetValue :=
  Written.readRecord
    [Written.required "value" Written.readJson fun value facet => { facet with value := value },
     Written.required "count" Written.readUInt64 fun count facet => { facet with count := count }]
    ⟨.null, 0⟩

end FacetValue

namespace FacetResult

/-- The written form of a facet. -/
def toJson (facet : FacetResult) : Json :=
  .obj [("field", .str facet.field), ("values", .arr (facet.values.map FacetValue.toJson))]

/-- Reads a facet. -/
def read : Written → Reading RequestFlaw FacetResult :=
  Written.readRecord
    [Written.required "field" Written.readString fun field facet => { facet with field := field },
     Written.required "values" (Written.readList FacetValue.read) fun values facet =>
       { facet with values := values }]
    ⟨"", []⟩

end FacetResult

namespace QueryResult

/-- Whether the page holds no document. -/
def isEmpty (result : QueryResult) : Bool := result.hits.isEmpty

/-- The written form of a result; facets are left out if there are none. -/
def toJson (result : QueryResult) : Json :=
  .obj (Json.optionalMember "facets"
      (if result.facets.isEmpty then none else some (.arr (result.facets.map FacetResult.toJson))) ++
    [("hits", .arr result.hits), ("hitsPerPage", .ofUInt64 result.hitsPerPage),
     ("nbHits", .ofUInt64 result.total), ("page", .ofUInt64 result.page)])

/-- Reads a result; absent facets are none, but null is not a list of facets. -/
def read : Written → Reading RequestFlaw QueryResult :=
  Written.readRecord
    [Written.required "hits" (Written.readList Written.readJson) fun hits result => { result with hits := hits },
     Written.required "nbHits" Written.readUInt64 fun total result => { result with total := total },
     Written.required "page" Written.readUInt64 fun page result => { result with page := page },
     Written.required "hitsPerPage" Written.readUInt64 fun size result => { result with hitsPerPage := size },
     { Written.required "facets" (Written.readList FacetResult.read) fun facets result =>
         { result with facets := facets } with optional := true }]
    ⟨[], 0, 0, 0, []⟩

end QueryResult

end SearchTenancy

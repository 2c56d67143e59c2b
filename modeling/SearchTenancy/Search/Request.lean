import SearchTenancy.Flaw
import SearchTenancy.Json.Record

/-!
# Search requests

What a caller asks of a logical index: a text, filters that all have to hold, an
order and a page. Every part is optional, and the empty request matches every
document. A filter on a field has either a term or a range.
-/

namespace SearchTenancy

/-- A condition on one field of a document. -/
inductive Filter where
  | term (field : String) (value : Json)
  /-- Both bounds are inclusive; an absent bound does not restrict. -/
  | range (field : String) (lower upper : Option Json)

/-- The direction of an order. -/
inductive SortDirection where
  | ascending
  | descending
  deriving DecidableEq

/-- A field to sort by; without a direction the order of the backend applies. -/
structure SortClause where
  field : String
  direction : Option SortDirection
  deriving DecidableEq

/-- A search on a logical index. -/
structure SearchRequest where
  query : Option String
  filters : Option (List Filter)
  /-- The clauses in order of priority. -/
  sort : Option (List SortClause)
  /-- The page, counted from one. -/
  page : Option UInt64
  hitsPerPage : Option UInt64

namespace Filter

/-- The written form of a filter. -/
def toJson : Filter → Json
  | term field value => .obj [("field", .str field), ("term", value)]
  | range field lower upper =>
    .obj [("field", .str field),
      ("range", .obj (Json.optionalMember "from" lower ++ Json.optionalMember "to" upper))]

/-- The bounds of a range as they are written. -/
structure Bounds where
  lower : Option Json
  upper : Option Json

/-- A filter as it is written, before it is known to be one. -/
structure Draft where
  field : String
  term : Option Json
  range : Option Bounds

/-- Reads the bounds of a range. -/
def readBounds : Written → Reading RequestFlaw Bounds :=
  Written.readRecord
    [Written.optional "from" Written.readJson fun lower bounds => { bounds with lower := lower },
     Written.optional "to" Written.readJson fun upper bounds => { bounds with upper := upper }]
    ⟨none, none⟩

/-- Reads what is written of a filter. -/
def readDraft : Written → Reading RequestFlaw Draft :=
  Written.readRecord
    [Written.required "field" Written.readString fun field draft => { draft with field := field },
     Written.optional "term" Written.readJson fun term draft => { draft with term := term },
     Written.optional "range" readBounds fun range draft => { draft with range := range }]
    ⟨"", none, none⟩

/-- The filter of a draft that has exactly one of term and range. -/
def ofDraft (draft : Draft) : Reading RequestFlaw Filter :=
  match draft.term, draft.range with
  | some value, none => .ok (term draft.field value)
  | none, some bounds => .ok (range draft.field bounds.lower bounds.upper)
  | _, _ => .error (.rule (.ambiguousFilter draft.field))

/-- Reads a filter. -/
def read (value : Written) : Reading RequestFlaw Filter := do ofDraft (← readDraft value)

end Filter

namespace SortDirection

/-- The name of a direction. -/
def name : SortDirection → String
  | ascending => "asc"
  | descending => "desc"

/-- Reads a direction. -/
def read : Written → Reading RequestFlaw SortDirection :=
  Written.readChoice [("asc", ascending), ("desc", descending)]

end SortDirection

namespace SortClause

/-- The written form of a clause. -/
def toJson (clause : SortClause) : Json :=
  .obj (Json.optionalMember "direction" (clause.direction.map fun direction => .str direction.name) ++
    [("field", .str clause.field)])

/-- Reads a clause. -/
def read : Written → Reading RequestFlaw SortClause :=
  Written.readRecord
    [Written.required "field" Written.readString fun field clause => { clause with field := field },
     Written.optional "direction" SortDirection.read fun direction clause =>
       { clause with direction := direction }]
    ⟨"", none⟩

end SortClause

namespace SearchRequest

/-- The request that matches every document. -/
def empty : SearchRequest := ⟨none, none, none, none, none⟩

/-- A search for a text. -/
def text (query : String) : SearchRequest := { empty with query := some query }

/-- Adds a filter behind the others. -/
def withFilter (request : SearchRequest) (filter : Filter) : SearchRequest :=
  { request with filters := some (request.filters.getD [] ++ [filter]) }

/-- Adds a sort clause behind the others. -/
def withSort (request : SearchRequest) (clause : SortClause) : SearchRequest :=
  { request with sort := some (request.sort.getD [] ++ [clause]) }

/-- Sets the page and its size. -/
def withPage (request : SearchRequest) (page hitsPerPage : UInt64) : SearchRequest :=
  { request with page := some page, hitsPerPage := some hitsPerPage }

/-- Pages are counted from one and are not empty. -/
def validate (request : SearchRequest) : Except RequestFlaw Unit :=
  if request.page = some 0 then .error .pageZero
  else if request.hitsPerPage = some 0 then .error .hitsPerPageZero
  else .ok ()

/-- The written form of a request. -/
def toJson (request : SearchRequest) : Json :=
  .obj (Json.optionalMember "filters" (request.filters.map fun filters => .arr (filters.map Filter.toJson)) ++
    Json.optionalMember "hitsPerPage" (request.hitsPerPage.map .ofUInt64) ++
    Json.optionalMember "page" (request.page.map .ofUInt64) ++
    Json.optionalMember "query" (request.query.map .str) ++
    Json.optionalMember "sort" (request.sort.map fun clauses => .arr (clauses.map SortClause.toJson)))

/-- Reads a request. -/
def read : Written → Reading RequestFlaw SearchRequest :=
  Written.readRecord
    [Written.optional "query" Written.readString fun query request => { request with query := query },
     Written.optional "filters" (Written.readList Filter.read) fun filters request =>
       { request with filters := filters },
     Written.optional "sort" (Written.readList SortClause.read) fun sort request =>
       { request with sort := sort },
     Written.optional "page" Written.readUInt64 fun page request => { request with page := page },
     Written.optional "hitsPerPage" Written.readUInt64 fun size request =>
       { request with hitsPerPage := size }]
    empty

end SearchRequest

end SearchTenancy

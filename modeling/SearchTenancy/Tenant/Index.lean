import SearchTenancy.Batch.Payload
import SearchTenancy.Mapping.Update
import SearchTenancy.Search.Query
import SearchTenancy.Tenant.Lifecycle

/-!
# Logical indices

What a tenant can do with an index of its own. There is no operation that creates an
index: the first write does. Reads never create storage and fail with
`SearchError.indexNotFound` on an index that was never written.
-/

namespace SearchTenancy

/-- A logical index of a tenant, with the configuration of the service. -/
structure TenantIndex where
  config : ServiceConfig
  tenant : String
  name : String

/-- The size of an index. -/
structure IndexStats where
  physicalId : String
  generations : List String
  documentCount : UInt64

/-- The written form of the size of an index. -/
def IndexStats.toJson (stats : IndexStats) : Json :=
  .obj [("documentCount", .ofUInt64 stats.documentCount), ("generations", .ofStrings stats.generations),
    ("physicalIndexId", .str stats.physicalId)]

/-- Reads the mapping of the index behind a physical id. -/
def readMapping (physical : String) : Operation IndexMapping := do
  let response ← Operation.call (.mappingGet physical) (·.classify physical none)
  Operation.reading (IndexMapping.ofResponse response)

namespace TenantIndex

/-- The name that the index has on the backend. -/
def physical (index : TenantIndex) : String := physicalId index.tenant index.name

/-- A call on behalf of the index, about one document if an id is given. -/
def call (index : TenantIndex) (c : Call) (objectId : Option String) : Operation c.Answer :=
  Operation.call c (·.classify index.physical objectId)

/-- What to store and under which id, if there is nothing wrong with either. -/
def checkedBody (objectId : Option String) (value : Json) : Except SearchError Members :=
  if objectId = some "" then .error (.invalid .emptyObjectId)
  else (IndexedObject.bodyOf value).mapError fun flaw => .invalid (.flaw flaw)

/-- Stores a document: under the given id, or under a new one of the backend. -/
def putObject (index : TenantIndex) (now : Instant) (objectId : Option String) (value : Json) :
    Operation IndexedObject := do
  let body ← Operation.ofExcept (checkedBody objectId value)
  Lifecycle.ensureExists now index.physical
  let written : DocumentWrite ←
    index.call (.documentIndex index.physical objectId (.obj body)) objectId
  return ⟨written.objectId, body⟩

/-- Reads a document. -/
def getObject (index : TenantIndex) (objectId : String) : Operation Json := do
  let document : StoredDocument ← index.call (.documentGet index.physical objectId) (some objectId)
  return IndexedObject.toValue ⟨document.objectId, Entries.erase document.source objectIdAttribute⟩

/-- The search for the documents with the given ids. -/
def idsQuery (objectIds : List String) : Json :=
  .obj [("query", .obj [("ids", .obj [("values", .ofStrings objectIds)])]),
    ("size", .ofNat objectIds.length)]

/-- The last of the documents that has a given id. -/
def lastWithId? (documents : List Json) (objectId : String) : Option Json :=
  documents.reverse.find? fun document =>
    (document.get? objectIdAttribute).bind Json.asString? == some objectId

/-- Reads several documents with one call, in the order of the ids; missing ones are `none`. -/
def getObjects (index : TenantIndex) (objectIds : List String) : Operation (List (Option Json)) :=
  if objectIds.isEmpty then return []
  else do
    let response : Json ← index.call (.search index.physical (idsQuery objectIds) .strict) none
    let (documents, _) ← Operation.reading (Hits.ofResponse response)
    return objectIds.map (lastWithId? documents)

/-- Deletes a document. -/
def deleteObject (index : TenantIndex) (objectId : String) : Operation Unit :=
  index.call (.documentDelete index.physical objectId) (some objectId)

/-- Runs a search with the settings that the index has. -/
def query (index : TenantIndex) (request : SearchRequest) : Operation QueryResult := do
  let mapping ← readMapping index.physical
  let settings := mapping.settings
  let compiled ← Operation.ofExcept
    ((CompiledQuery.compile index.config request (some settings) (some mapping)).mapError .invalid)
  let response : Json ← index.call (.search index.physical compiled.body .strict) none
  let (hits, total) ← Operation.reading (Hits.ofResponse response)
  let facets ← Operation.reading (Facet.results response settings.facetList)
  return ⟨hits, total, compiled.page, compiled.hitsPerPage, facets⟩

/-- Applies a batch with one call. A batch that stores documents creates the storage of the index,
one that only deletes needs it. -/
def batch (index : TenantIndex) (now : Instant) (requests : List BatchRequest) : Operation BatchResult := do
  let payload := BulkPayload.ofRequests requests
  if payload.isEmpty then return BatchResult.empty
  else
    if payload.hasWrites then Lifecycle.ensureExists now index.physical
    else discard (Lifecycle.requireExists index.physical)
    let response : Json ← index.call (.bulk index.physical payload.lines) none
    Operation.ofExcept (payload.correlate response)

/-- Puts settings into effect, with at most one change of the mapping. -/
def saveSettings (index : TenantIndex) (now : Instant) (spec : SettingsSpec) : Operation SettingsSpec := do
  Lifecycle.ensureExists now index.physical
  let current ← readMapping index.physical
  match MappingUpdate.plan spec current index.config.keywordSubfield with
  | none => return spec
  | some update =>
    index.call (.mappingPut index.physical update.body) none
    return spec

/-- The settings in effect. -/
def getSettings (index : TenantIndex) : Operation SettingsSpec := do
  return (← readMapping index.physical).settings

/-- Makes another index of the tenant serve the storage of this one. -/
def moveTo (index : TenantIndex) (destination : String) : Operation Unit :=
  discard (Lifecycle.moveIndex index.physical (physicalId index.tenant destination))

/-- Deletes the index with its storage. -/
def drop (index : TenantIndex) : Operation Unit := Lifecycle.dropIndex index.physical

/-- The number of documents in an answer about the size of an index. -/
def documentCount (response : Json) : UInt64 :=
  let docs := ((response.get? "_all").bind (·.get? "primaries")).bind (·.get? "docs")
  ((docs.bind (·.get? "count")).bind Json.asUInt64?).getD 0

/-- The size of the index and the generations behind it. -/
def stats (index : TenantIndex) : Operation IndexStats := do
  let generations ← Lifecycle.requireExists index.physical
  let response : Json ← index.call (.stats index.physical) none
  return ⟨index.physical, generations, documentCount response⟩

end TenantIndex

end SearchTenancy

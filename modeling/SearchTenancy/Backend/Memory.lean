import SearchTenancy.Backend.Call
import SearchTenancy.Json.Pointer
import SearchTenancy.Sorting
import SearchTenancy.Text.Blank
import SearchTenancy.Text.LetterCase

/-!
# The in-memory backend

A backend whose state is a value: indices with their documents and mappings, a table
of aliases, and a counter for the ids of new documents. It maps new fields by
templates, keeps text from being aggregated, and reports failures with the bodies
that the classification of errors relies on. A search whose sort may stop is taken to
stop (`sortStopped`).

`Memory.step` answers one call. Each kind of call is a function of its own, and those
that only read leave the state as it is.
-/

namespace SearchTenancy

/-- An index of the backend. -/
structure StoredIndex where
  documents : Dict Members
  mappings : Members

/-- The state of the backend. -/
structure Memory where
  indices : Dict StoredIndex
  /-- For each alias the indices that it stands for. -/
  aliases : Dict Names
  /-- The number of ids that were made up. -/
  nextId : Nat

namespace StoredIndex

/-- An index without documents and mappings. -/
def empty : StoredIndex := ⟨.empty, []⟩

/-! ## Mapping of new fields -/

/-- The kind of a value in a template, and the type that its field gets by default. -/
def detectedType : Json → Option (String × String)
  | .str _ => some ("string", "text")
  | .bool _ => some ("boolean", "boolean")
  | .num n => some (if n.isDouble then ("double", "float") else ("long", "long"))
  | _ => none

/-- The mapping of a field that no template applies to. -/
def defaultMapping (fieldType : String) : Json :=
  if fieldType = "text" then
    .obj [("fields", .obj [("keyword", .obj [("ignore_above", .ofNat 256), ("type", .str "keyword")])]),
      ("type", .str "text")]
  else .obj [("type", .str fieldType)]

/-- The mapping of a field. -/
def property? (mappings : Members) (field : String) : Option Json :=
  (Entries.get? mappings "properties").bind (·.get? field)

/-- The mapping that a template gives to a field whose value is of a kind, if it applies. -/
def templateMapping? (field kind : String) (entry : Json) : Option Json :=
  entry.firstMember?.bind fun (_, template) =>
    let pattern := ((template.get? "match").bind Json.asString?).getD "*"
    let wanted := ((template.get? "match_mapping_type").bind Json.asString?).getD "*"
    if (pattern = "*" ∨ pattern = field) ∧ (wanted = "*" ∨ wanted = kind) then
      some ((template.get? "mapping").getD .empty)
    else none

/-- Puts the type of the value where a mapping leaves the type open. -/
def withType (fieldType : String) (mapping : Json) : Json :=
  match mapping with
  | .obj members =>
    if (mapping.get? "type").bind Json.asString? = some "\x7bdynamic_type\x7d" then
      .obj (Entries.insert members "type" (.str fieldType))
    else mapping
  | _ => mapping

/-- The mapping of a new field: that of the first template that applies, or the default. -/
def newMapping (mappings : Members) (field kind fieldType : String) : Json :=
  let templates := ((Entries.get? mappings "dynamic_templates").bind Json.asArray?).getD []
  withType fieldType ((templates.findSome? (templateMapping? field kind)).getD (defaultMapping fieldType))

/-- Changes the properties of a mapping, which are empty if there are none. -/
def updateProperties (change : Members → Members) (mappings : Members) : Members :=
  match (Entries.get? mappings "properties").getD .empty with
  | .obj properties => Entries.insert mappings "properties" (.obj (change properties))
  | _ => mappings

/-- Maps the field of a value, unless it is mapped already or the value has no type. -/
def mapField (mappings : Members) (field : String) (value : Json) : Members :=
  match detectedType value with
  | none => mappings
  | some (kind, fieldType) =>
    if (property? mappings field).isSome then mappings
    else
      let mapping := newMapping mappings field kind fieldType
      updateProperties (fun properties => Entries.insert properties field mapping) mappings

/-- Maps the fields of a document. -/
def mapFields (mappings : Members) (source : Members) : Members :=
  source.foldl (fun mappings member => mapField mappings member.1 member.2) mappings

/-- Stores a document and maps its fields. -/
def insert (index : StoredIndex) (objectId : String) (source : Members) : StoredIndex :=
  ⟨index.documents.insert objectId source, mapFields index.mappings source⟩

/-- Removes a document. -/
def remove (index : StoredIndex) (objectId : String) : StoredIndex :=
  { index with documents := index.documents.erase objectId }

/-! ## Updates of the mapping -/

/-- Merges the update of a field into its mapping: parameters replace those of their name. -/
def mergeProperty (properties : Members) (field : String) (update : Json) : Members :=
  match Entries.get? properties field, update with
  | some (.obj current), .obj changes =>
    Entries.insert properties field
      (.obj (changes.foldl (fun current change => Entries.insert current change.1 change.2) current))
  | _, _ => Entries.insert properties field update

/-- Applies one member of an update: properties are merged, all else is replaced. -/
def applyUpdate (mappings : Members) (member : String × Json) : Members :=
  match member with
  | ("properties", .obj changes) =>
    updateProperties (fun properties =>
      changes.foldl (fun properties change => mergeProperty properties change.1 change.2) properties) mappings
  | (key, value) => Entries.insert mappings key value

/-- Applies an update of the mapping. -/
def putMapping (index : StoredIndex) (update : Members) : StoredIndex :=
  { index with mappings := update.foldl applyUpdate index.mappings }

end StoredIndex

/-! ## Matching -/

namespace Match

/-- Whether a document has every word of a query string in one of its strings. -/
def text (document : Members) (clause : Json) : Bool :=
  let fields := ((clause.get? "fields").bind Json.asArray?).map fun fields =>
    (fields.filterMap Json.asString?).map fun field => String.ofList (Text.upTo '^' field.toList)
  let searched := document.filter fun member => fields.all (·.contains member.1)
  let texts := searched.filterMap fun member => member.2.asString?.map fun text => Text.lower text.toList
  let expression := ((clause.get? "query").bind Json.asString?).getD ""
  (Text.words expression.toList).all fun word =>
    let term := Text.lower ((Text.upTo '~' word).filter (· ≠ '\\'))
    texts.any (Text.contains term)

/-- Whether a field of a document equals a term. -/
def term (document : Members) (clause : Json) : Bool :=
  match clause.firstMember? with
  | some (field, term) => (Entries.get? document field).any (·.sameValue term)
  | none => false

/-- Whether a number is not on the wrong side of a bound; a bound that is no number does not
restrict. -/
def within (bound : Option Json) (wrong : Ordering) (value : Double) : Bool :=
  match bound.bind Json.asDouble? with
  | some bound => value.compare bound != wrong
  | none => true

/-- Whether a field of a document is a number within bounds. -/
def range (document : Members) (clause : Json) : Bool :=
  match clause.firstMember? with
  | some (field, bounds) =>
    match (Entries.get? document field).bind Json.asDouble? with
    | some value => within (bounds.get? "gte") .lt value && within (bounds.get? "lte") .gt value
    | none => false
  | none => false

/-- Whether the id of a document is among given ones. -/
def ids (objectId : String) (clause : Json) : Bool :=
  (((clause.get? "values").bind Json.asArray?).getD []).any fun id => id.asString? == some objectId

mutual

/-- Whether a document satisfies a query. Its first member names its kind; the empty query is
satisfied by all documents. -/
def query (objectId : String) (document : Members) : Json → Bool
  | .obj ((kind, clause) :: _) =>
    if kind = "match_all" then true
    else if kind = "ids" then ids objectId clause
    else if kind = "query_string" then text document clause
    else if kind = "term" then term document clause
    else if kind = "range" then range document clause
    else if kind = "bool" then
      match clause with
      | .obj parts => occurs objectId document "must" parts && occurs objectId document "filter" parts
      | _ => true
    else false
  | _ => true

/-- Whether a document satisfies all clauses listed under `name`. -/
def occurs (objectId : String) (document : Members) (name : String) : List (String × Json) → Bool
  | [] => true
  | (key, value) :: rest =>
    if key = name then
      match value with
      | .arr clauses => all objectId document clauses
      | _ => true
    else occurs objectId document name rest

/-- Whether a document satisfies all clauses of a list. -/
def all (objectId : String) (document : Members) : List Json → Bool
  | [] => true
  | clause :: rest => query objectId document clause && all objectId document rest

end

end Match

namespace StoredIndex

/-! ## Searching -/

/-- The order of two values of a field. Numbers compare through their nearest doubles and strings
by code points; absent values come last, and values of unlike kinds do not differ. -/
def compareValues : Option Json → Option Json → Ordering
  | some (.num a), some (.num b) => a.toDouble.compare b.toDouble
  | some (.str a), some (.str b) => compare a b
  | none, some _ => .gt
  | some _, none => .lt
  | _, _ => .eq

/-- The field and the direction of a sort clause; whether it is descending. -/
def sortKey? : Json → Option (String × Bool)
  | .str field => some (field, false)
  | .obj ((field, spec) :: _) => some (field, (spec.get? "order").bind Json.asString? == some "desc")
  | _ => none

/-- The order of two documents by a field. It need not be one of all documents: two numbers differ that
both do not differ from a string. -/
def compareBy (field : String) (descending : Bool) (a b : String × Members) : Ordering :=
  let ordering := compareValues (Entries.get? a.2 field) (Entries.get? b.2 field)
  if descending then ordering.swap else ordering

/-- Sorts documents by one clause, if the sort is sure to have a result. -/
def sortBy? (documents : List (String × Members)) (clause : Json) : Option (List (String × Members)) :=
  match sortKey? clause with
  | some (field, descending) => stableSort? (compareBy field descending) documents
  | none => some documents

/-- Sorts documents by a list of clauses, the first of which counts most. -/
def sortByAll? (clauses : List Json) (documents : List (String × Members)) : Option (List (String × Members)) :=
  clauses.reverse.foldlM sortBy? documents

/-- Splits a field at its first point into a field and a sub-field. -/
def splitField (field : String) : String × Option String :=
  let chars := field.toList
  let source := Text.upTo '.' chars
  match chars.drop source.length with
  | [] => (field, none)
  | _ :: subfield => (String.ofList source, some (String.ofList subfield))

/-- The failure of an aggregation on text. -/
def textAggregation : BackendError :=
  .refused 400 (some (.obj [("error", .obj [("reason", .str "fielddata is disabled on text fields"),
    ("type", .str "illegal_argument_exception")]), ("status", .ofNat 400)]))

/-- The field whose values an aggregation counts, if it is mapped. -/
def aggregatable (mappings : Members) (field : String) : Except BackendError (Option String) :=
  let (source, subfield) := splitField field
  match property? mappings source with
  | none => .ok none
  | some property =>
    match subfield with
    | some subfield =>
      .ok (if (property.pointer? ("fields/" ++ subfield)).isSome then some source else none)
    | none =>
      if (property.get? "type").bind Json.asString? = some "text" then .error textAggregation
      else .ok (some source)

/-- Counts one more of a value. -/
def countValue (value : Json) : List (Json × Nat) → List (Json × Nat)
  | [] => [(value, 1)]
  | (key, count) :: rest =>
    if key.sameValue value then (key, count + 1) :: rest else (key, count) :: countValue value rest

/-- The values of a field among documents with their counts, in the order in which they occur. -/
def countValues (documents : List (String × Members)) (field : String) : List (Json × Nat) :=
  (documents.filterMap fun document => Entries.get? document.2 field).foldl
    (fun counts value => countValue value counts) []

/-- The buckets of an aggregation on a field, the largest first. -/
def buckets (documents : List (String × Members)) (field : Option String) : Json :=
  let counts := (field.map (countValues documents)).getD []
  let sorted := stableSort (fun a b => compare b.2 a.2) counts
  .obj [("buckets", .arr (sorted.map fun entry =>
    .obj [("doc_count", .ofNat entry.2), ("key", entry.1)]))]

/-- The answers to aggregations, the first of which fails first. -/
def aggregate (mappings : Members) (documents : List (String × Members)) :
    List (String × Json) → Except BackendError Members
  | [] => .ok []
  | (name, aggregation) :: rest => do
    let field := ((aggregation.pointer? "terms/field").bind Json.asString?).getD ""
    let source ← aggregatable mappings field
    let others ← aggregate mappings documents rest
    return (name, buckets documents source) :: others

/-- The documents that satisfy a query, in the order of their ids. -/
def matching (index : StoredIndex) (query : Json) : List (String × Members) :=
  index.documents.entries.filter fun entry => Match.query entry.1 entry.2 query

/-- The documents that satisfy the query of a search, in its order. -/
def found? (index : StoredIndex) (body : Json) : Option (List (String × Members)) :=
  let wanted := (body.get? "query").getD (.obj [("match_all", .empty)])
  sortByAll? (((body.get? "sort").bind Json.asArray?).getD []) (index.matching wanted)

/-- A number of a search, such as its size. -/
def searchNumber (body : Json) (name : String) (otherwise : Nat) : Nat :=
  (((body.get? name).bind Json.asUInt64?).map UInt64.toNat).getD otherwise

/-- The hit of a document. -/
def hit (concrete : String) (entry : String × Members) : Json :=
  .obj [("_id", .str entry.1), ("_index", .str concrete), ("_source", .obj entry.2)]

/-- The failure of a search that stops while it sorts, so that no answer arrives. -/
def sortStopped : BackendError := .transport "the comparison of a sort is no total order"

/-- Answers a search on the index called `concrete`. -/
def search (index : StoredIndex) (concrete : String) (body : Json) : Except BackendError Json := do
  let some documents := index.found? body | throw sortStopped
  let aggregations ← ((body.get? "aggs").bind Json.asObject?).mapM (aggregate index.mappings documents)
  let page := (documents.drop (searchNumber body "from" 0)).take (searchNumber body "size" 10)
  let hits : Json :=
    .obj [("hits", .arr (page.map (hit concrete))),
      ("total", .obj [("relation", .str "eq"), ("value", .ofNat documents.length)])]
  return .obj (Json.optionalMember "aggregations" (aggregations.map .obj) ++ [("hits", hits)])

end StoredIndex

namespace Memory

/-- The state of a fresh backend. -/
def empty : Memory := ⟨.empty, .empty, 0⟩

/-- The index that a name stands for: the first behind an alias, or the index of that name. -/
def resolve (memory : Memory) (name : String) : Option String :=
  match memory.aliases.get? name with
  | some indices => indices.keys.head?
  | none => if memory.indices.contains name then some name else none

/-- The report of a missing index. -/
def missingIndex (name : String) : BackendError :=
  .refused 404 (some (.obj [("error", .obj [("index", .str name), ("type", .str "index_not_found_exception")]),
    ("status", .ofNat 404)]))

/-- The report of a missing alias. -/
def missingAlias (text : String) : BackendError :=
  .refused 404 (some (.obj [("error", .str text), ("status", .ofNat 404)]))

/-- The index that a name stands for, or the report that there is none. -/
def resolveOrMissing (memory : Memory) (name : String) : Except BackendError String :=
  match memory.resolve name with
  | some concrete => .ok concrete
  | none => .error (missingIndex name)

/-- Replaces an index that there is. -/
def modify (memory : Memory) (concrete : String) (change : StoredIndex → StoredIndex) : Memory :=
  match memory.indices.get? concrete with
  | some index => { memory with indices := memory.indices.insert concrete (change index) }
  | none => memory

/-- The aliases without those that stand for nothing. -/
def prune (aliases : Dict Names) : Dict Names := aliases.filter fun indices => !indices.isEmpty

/-- Creates an index. -/
def indexCreate (memory : Memory) (name : String) : Except BackendError Unit × Memory :=
  if memory.indices.contains name then
    (.error (.refused 400 (some (.obj [("error", .obj [("type", .str "resource_already_exists_exception")]),
      ("status", .ofNat 400)]))), memory)
  else (.ok (), { memory with indices := memory.indices.insert name .empty })

/-- Deletes an index, and it from every alias. -/
def indexDelete (memory : Memory) (name : String) : Except BackendError Unit × Memory :=
  if memory.indices.contains name then
    (.ok (), { memory with
      indices := memory.indices.erase name
      aliases := prune (memory.aliases.map fun indices => indices.erase name) })
  else (.error (missingIndex name), memory)

/-- Lists the indices behind an alias. -/
def aliasGet (memory : Memory) (name : String) : Except BackendError Json :=
  match memory.aliases.get? name with
  | some indices =>
    .ok (.obj (indices.keys.map fun index => (index, .obj [("aliases", .obj [(name, .empty)])])))
  | none => .error (missingAlias ("alias [" ++ name ++ "] missing"))

/-- Adds an index to those behind an alias. -/
def addAlias (aliases : Dict Names) (index aliasName : String) : Dict Names :=
  aliases.insert aliasName (((aliases.get? aliasName).getD .empty).insert index ())

/-- Makes an alias stand for an index, too. -/
def aliasPut (memory : Memory) (index aliasName : String) : Except BackendError Unit × Memory :=
  if memory.indices.contains index then
    (.ok (), { memory with aliases := addAlias memory.aliases index aliasName })
  else (.error (missingIndex index), memory)

/-- The alias table after an action. -/
def applyAction (indices : Dict StoredIndex) (aliases : Dict Names) :
    AliasAction → Except BackendError (Dict Names)
  | .add index aliasName =>
    if indices.contains index then .ok (addAlias aliases index aliasName) else .error (missingIndex index)
  | .remove index aliasName =>
    match aliases.get? aliasName with
    | some behind =>
      if behind.contains index then .ok (aliases.insert aliasName (behind.erase index))
      else .error (missingAlias ("aliases [" ++ aliasName ++ "] missing"))
    | none => .error (missingAlias ("aliases [" ++ aliasName ++ "] missing"))

/-- Applies actions to the alias table one after the other, all of them or none. -/
def aliasesUpdate (memory : Memory) (actions : List AliasAction) : Except BackendError Unit × Memory :=
  match actions.foldlM (applyAction memory.indices) memory.aliases with
  | .ok aliases => (.ok (), { memory with aliases := prune aliases })
  | .error failure => (.error failure, memory)

/-- The id for a document: the given one, or a new one. -/
def chooseId (memory : Memory) (objectId : Option String) : String × Memory :=
  match objectId with
  | some objectId => (objectId, memory)
  | none => ("auto-" ++ Nat.repr (memory.nextId + 1), { memory with nextId := memory.nextId + 1 })

/-- Stores a document in an index that there is; its id. -/
def store (memory : Memory) (concrete : String) (objectId : Option String) (source : Members) :
    String × Memory :=
  let (objectId, memory) := memory.chooseId objectId
  (objectId, memory.modify concrete (·.insert objectId source))

/-- Stores a document. -/
def documentIndex (memory : Memory) (name : String) (objectId : Option String) (body : Json) :
    Except BackendError DocumentWrite × Memory :=
  match memory.resolveOrMissing name with
  | .error failure => (.error failure, memory)
  | .ok concrete =>
    let (objectId, memory) := memory.store concrete objectId (body.asObject?.getD [])
    (.ok ⟨objectId, 1⟩, memory)

/-- The document of an index. -/
def document? (memory : Memory) (concrete objectId : String) : Option Members :=
  (memory.indices.get? concrete).bind (·.documents.get? objectId)

/-- Reads a document. -/
def documentGet (memory : Memory) (name objectId : String) : Except BackendError StoredDocument := do
  let concrete ← memory.resolveOrMissing name
  match memory.document? concrete objectId with
  | some source => return ⟨objectId, source⟩
  | none =>
    throw (.refused 404 (some (.obj [("_id", .str objectId), ("_index", .str concrete),
      ("found", .bool false)])))

/-- Deletes a document. -/
def documentDelete (memory : Memory) (name objectId : String) : Except BackendError Unit × Memory :=
  match memory.resolveOrMissing name with
  | .error failure => (.error failure, memory)
  | .ok concrete =>
    if (memory.document? concrete objectId).isSome then (.ok (), memory.modify concrete (·.remove objectId))
    else
      (.error (.refused 404 (some (.obj [("_id", .str objectId), ("_index", .str concrete),
        ("found", .bool false), ("result", .str "not_found")]))), memory)

/-- An item of the answer to a bulk call. -/
def bulkItem (action concrete objectId : String) (status : Nat) : Json :=
  .obj [(action, .obj [("_id", .str objectId), ("_index", .str concrete), ("status", .ofNat status)])]

/-- Stores the document of a bulk call under the id in its header, or under a new one. -/
def bulkIndex (memory : Memory) (concrete : String) (header : Json) (source : Members) : Json × Memory :=
  let (objectId, memory) := memory.store concrete ((header.get? "_id").bind Json.asString?) source
  (bulkItem "index" concrete objectId 201, memory)

/-- Deletes the document that the header of a bulk call names. -/
def bulkDelete (memory : Memory) (concrete : String) (header : Json) : Json × Memory :=
  let objectId := ((header.get? "_id").bind Json.asString?).getD ""
  let status := if (memory.document? concrete objectId).isSome then 200 else 404
  (bulkItem "delete" concrete objectId status, memory.modify concrete (·.remove objectId))

/-- Runs the lines of a bulk call. A header with `index` is followed by a document; lines that are
no headers are passed over. -/
def bulkLines (concrete : String) : List Json → Memory → List Json × Memory
  | [], memory => ([], memory)
  | header :: rest, memory =>
    match header.get? "index" with
    | some written =>
      match rest with
      | [] =>
        let (item, memory) := memory.bulkIndex concrete written []
        ([item], memory)
      | source :: rest =>
        let (item, memory) := memory.bulkIndex concrete written (source.asObject?.getD [])
        let (items, memory) := bulkLines concrete rest memory
        (item :: items, memory)
    | none =>
      match header.get? "delete" with
      | some written =>
        let (item, memory) := memory.bulkDelete concrete written
        let (items, memory) := bulkLines concrete rest memory
        (item :: items, memory)
      | none => bulkLines concrete rest memory

/-- Runs a bulk call. -/
def bulk (memory : Memory) (name : String) (lines : List Json) : Except BackendError Json × Memory :=
  match memory.resolveOrMissing name with
  | .error failure => (.error failure, memory)
  | .ok concrete =>
    let (items, memory) := bulkLines concrete lines memory
    (.ok (.obj [("errors", .bool false), ("items", .arr items)]), memory)

/-- Runs a search. A name with an asterisk is a pattern, which the options may forbid. -/
def search (memory : Memory) (name : String) (body : Json) (options : SearchOptions) :
    Except BackendError Json :=
  if options.expandWildcardsNone ∧ name.toList.contains '*' then .error (missingIndex name)
  else do
    let concrete ← memory.resolveOrMissing name
    match memory.indices.get? concrete with
    | some index => index.search concrete body
    | none => throw (missingIndex name)

/-- Reads a mapping. -/
def mappingGet (memory : Memory) (name : String) : Except BackendError Json := do
  let concrete ← memory.resolveOrMissing name
  let mappings := ((memory.indices.get? concrete).map (·.mappings)).getD []
  return .obj [(concrete, .obj [("mappings", .obj mappings)])]

/-- Updates a mapping. -/
def mappingPut (memory : Memory) (name : String) (body : Json) : Except BackendError Unit × Memory :=
  match memory.resolveOrMissing name with
  | .error failure => (.error failure, memory)
  | .ok concrete =>
    if memory.indices.contains concrete then
      match body.asObject? with
      | some update => (.ok (), memory.modify concrete (·.putMapping update))
      | none => (.error (.refused 400 (some (.obj [("status", .ofNat 400)]))), memory)
    else (.error (missingIndex name), memory)

/-- Counts the documents of an index. -/
def stats (memory : Memory) (name : String) : Except BackendError Json := do
  let concrete ← memory.resolveOrMissing name
  let count := ((memory.indices.get? concrete).map (·.documents.size)).getD 0
  return .obj [("_all", .obj [("primaries", .obj [("docs", .obj [("count", .ofNat count)])])])]

/-- Answers a call. -/
def step : Backend Memory
  | memory, .indexCreate index => memory.indexCreate index
  | memory, .indexDelete index => memory.indexDelete index
  | memory, .aliasGet aliasName => (memory.aliasGet aliasName, memory)
  | memory, .aliasPut index aliasName => memory.aliasPut index aliasName
  | memory, .aliasesUpdate actions => memory.aliasesUpdate actions
  | memory, .documentIndex index objectId body => memory.documentIndex index objectId body
  | memory, .documentGet index objectId => (memory.documentGet index objectId, memory)
  | memory, .documentDelete index objectId => memory.documentDelete index objectId
  | memory, .bulk index lines => memory.bulk index lines
  | memory, .search index body options => (memory.search index body options, memory)
  | memory, .mappingGet index => (memory.mappingGet index, memory)
  | memory, .mappingPut index body => memory.mappingPut index body
  | memory, .stats index => (memory.stats index, memory)

end Memory

end SearchTenancy

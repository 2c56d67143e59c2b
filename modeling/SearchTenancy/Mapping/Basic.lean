import SearchTenancy.Error
import SearchTenancy.Settings.Spec
import SearchTenancy.Sorting

/-!
# The mapping of an index

A backend describes the fields of an index in loosely typed JSON. `IndexMapping` is
what this library reads from it: for each field its type, whether it is indexed and
the names of its sub-fields, the templates by which new fields are mapped, and the
settings recorded beside them.

A field is searchable if it is mapped as indexed, or if a template named after it
waits for it. The searchable fields are listed in the recorded order first, then by
name (`IndexMapping.searchableFields`).
-/

namespace SearchTenancy

/-- The mapping of one field. -/
structure FieldMapping where
  fieldType : Option String
  /-- Whether the field is indexed, if the mapping says so. -/
  index : Option Bool
  subfields : List String
  deriving DecidableEq

namespace FieldMapping

/-- Whether the field is mapped as indexed. -/
def isSearchable (field : FieldMapping) : Bool := field.index == some true

/-- Whether the field is mapped as not indexed. -/
def isDisabled (field : FieldMapping) : Bool := field.index == some false

/-- Whether the field holds text. -/
def isString (field : FieldMapping) : Bool :=
  field.fieldType == some "text" || field.fieldType == some "string"

/-- Whether the field has a sub-field of that name. -/
def hasSubfield (field : FieldMapping) (name : String) : Bool := field.subfields.contains name

end FieldMapping

/-- A rule by which a new field is mapped. -/
structure DynamicTemplate where
  name : String
  matchPattern : Option String
  index : Option Bool
  deriving DecidableEq

/-- Whether the template applies to fields of every name. -/
def DynamicTemplate.isCatchAll (template : DynamicTemplate) : Bool :=
  match template.matchPattern with
  | none => true
  | some pattern => pattern == "*"

/-- What is known of the fields of an index. -/
structure IndexMapping where
  indexName : Option String
  properties : Entries FieldMapping
  dynamicTemplates : List DynamicTemplate
  /-- The searchable fields in the order in which they were declared. -/
  declaredSearchable : List String
  facets : List FacetSpec

namespace IndexMapping

/-- The mapping of an index that nothing is known of. -/
def empty : IndexMapping := ⟨none, [], [], [], []⟩

/-- A flag that says whether something is indexed: a truth value or one of a few words. -/
def indexFlag? : Json → Option Bool
  | .bool b => some b
  | .str "true" => some true
  | .str "analyzed" => some true
  | .str "false" => some false
  | .str "no" => some false
  | .str "not_analyzed" => some false
  | _ => none

/-- The mapping of a field. -/
def fieldOf (field : Json) : FieldMapping where
  fieldType := (field.get? "type").bind Json.asString?
  index := (field.get? "index").bind indexFlag?
  subfields := (((field.get? "fields").bind Json.asObject?).map fun members => members.map (·.1)).getD []

/-- The template of an entry: its smallest name and what stands under it. -/
def templateOf? (entry : Json) : Option DynamicTemplate :=
  entry.firstMember?.map fun (name, template) =>
    { name := name
      matchPattern := (template.get? "match").bind Json.asString?
      index := ((template.get? "mapping").bind (·.get? "index")).bind indexFlag? }

/-- Reads the properties of a mapping. -/
def propertiesOf (mappings : Json) : Except AnswerFault (Entries FieldMapping) :=
  match mappings.get? "properties" with
  | none => .ok []
  | some (.obj members) => .ok (members.map fun member => (member.1, fieldOf member.2))
  | some _ => .error .propertiesNotObject

/-- Reads the templates of a mapping; entries that are no templates are passed over. -/
def templatesOf (mappings : Json) : Except AnswerFault (List DynamicTemplate) :=
  match mappings.get? "dynamic_templates" with
  | none => .ok []
  | some (.arr entries) => .ok (entries.filterMap templateOf?)
  | some _ => .error .templatesNotArray

/-- The recorded order of the searchable fields. -/
def declaredOf (mappings : Json) : List String :=
  let recorded := ((mappings.get? "_meta").bind (·.get? "searchable_fields")).bind Json.asArray?
  (recorded.getD []).filterMap Json.asString?

/-- Reads the recorded facets. -/
def facetsOf (mappings : Json) : Except AnswerFault (List FacetSpec) :=
  match (mappings.get? "_meta").bind (·.get? "facets") with
  | none => .ok []
  | some recorded =>
    match recorded.readAs (Written.readList FacetSpec.read) with
    | .ok facets => .ok facets
    | .error _ => .error .storedFacets

/-- Reads what stands under `mappings` of an index. -/
def ofMappings (mappings : Json) : Except AnswerFault IndexMapping := do
  let properties ← propertiesOf mappings
  let templates ← templatesOf mappings
  let facets ← facetsOf mappings
  return ⟨none, properties, templates, declaredOf mappings, facets⟩

/-- Reads the answer to a request for a mapping, which lists indices by name; the first counts. -/
def ofResponse (response : Json) : Except AnswerFault IndexMapping :=
  match response.asObject? with
  | none => .error .mappingNotObject
  | some [] => .ok empty
  | some ((name, entry) :: _) => do
    let mapping ←
      match entry.get? "mappings" with
      | some mappings => ofMappings mappings
      | none => .ok empty
    return { mapping with indexName := some name }

/-- The mapping of a field. -/
def field? (mapping : IndexMapping) (name : String) : Option FieldMapping := mapping.properties.get? name

/-- The fields mapped as indexed, by name. -/
def enabledFields (mapping : IndexMapping) : List String :=
  (mapping.properties.filter fun entry => entry.2.isSearchable).map (·.1)

/-- The fields that a template of their own waits for. -/
def templatedFields (mapping : IndexMapping) : List String :=
  (mapping.dynamicTemplates.filter fun template => !template.isCatchAll).map (·.name)

/-- Appends the names that are not listed yet. -/
def appendNew (names : List String) (more : List String) : List String :=
  more.foldl (fun names name => if names.contains name then names else names ++ [name]) names

/-- The place of a field in the recorded order; fields without one come last. -/
def place (mapping : IndexMapping) (name : String) : Nat := mapping.declaredSearchable.idxOf name

/-- The order of the searchable fields: by recorded place, then by name. -/
def compareFields (mapping : IndexMapping) (a b : String) : Ordering :=
  (compare (mapping.place a) (mapping.place b)).then (compare a b)

/-- The fields that a text search looks at, each once. -/
def searchableFields (mapping : IndexMapping) : List String :=
  stableSort mapping.compareFields (appendNew mapping.enabledFields mapping.templatedFields)

/-- The settings that a mapping stands for. -/
def settings (mapping : IndexMapping) : SettingsSpec where
  searchableFields := some mapping.searchableFields
  facets := if mapping.facets.isEmpty then none else some mapping.facets

end IndexMapping

end SearchTenancy

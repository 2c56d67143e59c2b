import SearchTenancy.Mapping.Basic

/-!
# Updating a mapping

Settings are stored in the mapping of an index. Each searchable field that is not
mapped as indexed yet gets a template of its own, and two templates at the end keep
all other fields from being indexed, strings with the sub-field that facets need.
Fields that are mapped already are switched on or off. The declared order and the
facets are recorded in `_meta`.
-/

namespace SearchTenancy

/-- A change of a mapping that puts settings into effect. -/
structure MappingUpdate where
  /-- The fields that become searchable. -/
  added : List String
  /-- The fields that are searchable no longer. -/
  removed : List String
  body : Json

namespace MappingUpdate

/-- The greatest length of a string that is kept in a keyword sub-field. -/
def keywordLimit : Nat := 256

/-- The name of the template for fields that are not searchable. -/
def catchAllTemplate : String := "unsearchable_fields"

/-- The name of the template for strings that are not searchable. -/
def unsearchableStringsTemplate : String := "unsearchable_strings"

/-- The type in a template that stands for the type of the new value. -/
def dynamicType : String := "\x7bdynamic_type\x7d"

/-- The record of the declared order and the facets. -/
def recordOf (fields : List String) (facets : List FacetSpec) : Json :=
  .obj [("facets", .arr (facets.map FacetSpec.toJson)), ("searchable_fields", .ofStrings fields)]

/-- The sub-fields of a string: one that keeps it as a keyword. -/
def keywordFields (subfield : String) : Json :=
  .obj [(subfield, .obj [("ignore_above", .ofNat keywordLimit), ("type", .str "keyword")])]

/-- A template called `name`. -/
def template (name pattern kind : String) (mapping : Json) : Json :=
  .obj [(name, .obj [("mapping", mapping), ("match", .str pattern), ("match_mapping_type", .str kind)])]

/-- The template of a searchable field. -/
def searchableTemplate (subfield field : String) : Json :=
  template field field "*"
    (.obj [("fields", keywordFields subfield), ("index", .bool true), ("type", .str dynamicType)])

/-- The template for strings outside the searchable fields. -/
def stringsTemplate (subfield : String) : Json :=
  template unsearchableStringsTemplate "*" "string"
    (.obj [("fields", keywordFields subfield), ("index", .bool false), ("type", .str "text")])

/-- The template for all other fields. -/
def otherTemplate : Json :=
  template catchAllTemplate "*" "*" (.obj [("index", .bool false), ("type", .str dynamicType)])

/-- The entry that switches a mapped field on or off; its type stays. -/
def propertyEntry (fieldType : Option String) (index : Bool) : Json :=
  .obj (("index", .bool index) :: Json.optionalMember "type" (fieldType.map .str))

/-- The templates for the requested fields and for the rest. -/
def templatesFor (requested : List String) (current : IndexMapping) (subfield : String) : List Json :=
  let waiting := requested.filter fun field => !((current.field? field).any FieldMapping.isSearchable)
  waiting.map (searchableTemplate subfield) ++ [stringsTemplate subfield, otherTemplate]

/-- The entries of the mapped fields that change: requested ones that are disabled are switched on,
removed ones off. -/
def propertiesFor (requested removed : List String) (current : IndexMapping) : Members :=
  let switch (index : Bool) (affected : FieldMapping → Bool) (properties : Members) (field : String) :=
    match current.field? field with
    | some existing =>
      if affected existing then properties.insert field (propertyEntry existing.fieldType index)
      else properties
    | none => properties
  removed.foldl (switch false fun _ => true) (requested.foldl (switch true FieldMapping.isDisabled) [])

/-- The update that makes exactly the requested fields searchable. -/
def forFields (requested : List String) (facets : List FacetSpec) (current : IndexMapping)
    (subfield : String) : MappingUpdate :=
  let searchable := current.searchableFields
  let removed := searchable.filter fun field => !requested.contains field
  let properties := propertiesFor requested removed current
  { added := requested.filter fun field => !searchable.contains field
    removed := removed
    body :=
      .obj ([("_meta", recordOf requested facets),
          ("dynamic_templates", .arr (templatesFor requested current subfield))] ++
        Json.optionalMember "properties" (if properties.isEmpty then none else some (.obj properties))) }

/-- The update that puts settings into effect, `none` if they say nothing. Facets alone change the
record only. -/
def plan (spec : SettingsSpec) (current : IndexMapping) (subfield : String) : Option MappingUpdate :=
  match spec.searchableFields, spec.facets with
  | none, none => none
  | none, some facets => some ⟨[], [], .obj [("_meta", recordOf current.declaredSearchable facets)]⟩
  | some requested, facets => some (forFields requested (facets.getD current.facets) current subfield)

end MappingUpdate

end SearchTenancy

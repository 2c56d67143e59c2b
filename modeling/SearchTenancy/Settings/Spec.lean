import SearchTenancy.Search.Request

/-!
# Settings of a logical index

The fields that a text search looks at, the first of them weighing most, and the
facets that every search computes.
-/

namespace SearchTenancy

/-- The order of the values of a facet. -/
inductive FacetOrder where
  | count
  | countDescending
  | value
  | valueDescending
  deriving DecidableEq

/-- A facet on a field. -/
structure FacetSpec where
  field : String
  order : FacetOrder
  deriving DecidableEq

/-- The settings of an index; what is absent is left as it is. -/
structure SettingsSpec where
  searchableFields : Option (List String)
  facets : Option (List FacetSpec)
  deriving DecidableEq

namespace FacetOrder

/-- The name of an order. -/
def name : FacetOrder → String
  | count => "count"
  | countDescending => "countDESC"
  | value => "value"
  | valueDescending => "valueDESC"

/-- Reads an order. -/
def read : Written → Reading RequestFlaw FacetOrder :=
  Written.readChoice
    [("count", count), ("countDESC", countDescending), ("value", value), ("valueDESC", valueDescending)]

end FacetOrder

namespace FacetSpec

/-- The written form of a facet. -/
def toJson (facet : FacetSpec) : Json := .obj [("field", .str facet.field), ("order", .str facet.order.name)]

/-- Reads a facet. -/
def read : Written → Reading RequestFlaw FacetSpec :=
  Written.readRecord
    [Written.required "field" Written.readString fun field facet => { facet with field := field },
     Written.required "order" FacetOrder.read fun order facet => { facet with order := order }]
    ⟨"", .count⟩

end FacetSpec

namespace SettingsSpec

/-- The facets, none if they are absent. -/
def facetList (spec : SettingsSpec) : List FacetSpec := spec.facets.getD []

/-- The written form of settings. -/
def toJson (spec : SettingsSpec) : Json :=
  .obj (Json.optionalMember "facets" (spec.facets.map fun facets => .arr (facets.map FacetSpec.toJson)) ++
    Json.optionalMember "searchable_fields" (spec.searchableFields.map .ofStrings))

/-- Reads settings. -/
def read : Written → Reading RequestFlaw SettingsSpec :=
  Written.readRecord
    [Written.optional "searchable_fields" (Written.readList Written.readString) fun fields spec =>
       { spec with searchableFields := fields },
     Written.optional "facets" (Written.readList FacetSpec.read) fun facets spec =>
       { spec with facets := facets }]
    ⟨none, none⟩

end SettingsSpec

end SearchTenancy

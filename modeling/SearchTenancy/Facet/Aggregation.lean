import SearchTenancy.Mapping.Basic
import SearchTenancy.Search.Result

/-!
# Facets

The aggregations that a search asks for, and the facet values read from the answer.
Text cannot be aggregated itself, so a text field is aggregated on its keyword
sub-field: the configured one, or the one a backend adds of its own accord.

Values are ordered by count or by value. Numbers compare through their nearest
doubles, strings by code points, and values of unlike kinds by their JSON texts;
values that compare equal keep the order of the backend.
-/

namespace SearchTenancy.Facet

/-- The sub-field that backends add to text fields of their own accord. -/
def defaultSubfield : String := "keyword"

/-- The field on which a facet is aggregated. -/
def aggregationField (field : String) (mapping : Option IndexMapping) (subfield : String) : String :=
  match (mapping.bind (·.field? field)).filter FieldMapping.isString with
  | none => field
  | some mapped =>
    match [subfield, defaultSubfield].find? mapped.hasSubfield with
    | some found => field ++ "." ++ found
    | none => field

/-- The aggregation of a facet. -/
def aggregation (facet : FacetSpec) (mapping : Option IndexMapping) (subfield : String) (size : UInt64) : Json :=
  .obj [("terms", .obj [("field", .str (aggregationField facet.field mapping subfield)),
    ("size", .ofUInt64 size)])]

/-- The aggregations of the facets, by field. -/
def aggregations (facets : List FacetSpec) (mapping : Option IndexMapping) (subfield : String)
    (size : UInt64) : Json :=
  .ofMembers (facets.map fun facet => (facet.field, aggregation facet mapping subfield size))

/-- The order of the values of a facet. -/
def compareValues : Json → Json → Ordering
  | .num a, .num b => a.toDouble.compare b.toDouble
  | .str a, .str b => compare a b
  | a, b => compare a.render b.render

/-- The order of the entries of a facet. -/
def compareEntries (order : FacetOrder) (a b : FacetValue) : Ordering :=
  match order with
  | .count => compare a.count b.count
  | .countDescending => compare b.count a.count
  | .value => compareValues a.value b.value
  | .valueDescending => compareValues b.value a.value

/-- Sorts the entries of a facet. -/
def sortValues (values : List FacetValue) (order : FacetOrder) : List FacetValue :=
  stableSort (compareEntries order) values

/-- The entry of a bucket; without a key its value is null, without a count its count zero. -/
def bucketValue (bucket : Json) : FacetValue :=
  ⟨(bucket.get? "key").getD .null, ((bucket.get? "doc_count").bind Json.asUInt64?).getD 0⟩

/-- Reads the buckets of one facet. -/
def result (aggregations : Json) (facet : FacetSpec) : Except AnswerFault FacetResult :=
  match ((aggregations.get? facet.field).bind (·.get? "buckets")).bind Json.asArray? with
  | some buckets => .ok ⟨facet.field, sortValues (buckets.map bucketValue) facet.order⟩
  | none => .error (.facetWithoutBuckets facet.field)

/-- Reads the facets of a search answer in the order of their declaration. -/
def results (response : Json) (facets : List FacetSpec) : Except AnswerFault (List FacetResult) :=
  if facets.isEmpty then .ok []
  else
    match response.get? "aggregations" with
    | some aggregations => facets.mapM (result aggregations)
    | none => .error .searchWithoutAggregations

end SearchTenancy.Facet

import Mathlib.Data.List.Forall2
import SearchTenancy.Proofs.Facet.Counting
import SearchTenancy.Proofs.Tenant.Query

/-!
# The facets of an answer

A search that is answered reports every configured facet in its order of declaration,
counted over all documents that match, whatever page is asked for
(`Memory.facets_count_matching`). The field that a facet is aggregated on is found in
the mapping that a client reads; the backend splits it again and counts the values of
the facet's own field (`Schema.Describes.counted_eq`).
-/

namespace SearchTenancy

open Operation StoredIndex

namespace Facet

/-- What is reported of a facet: entries in its order, which count the values of its field if this is mapped. Nothing
is said of a field with a point, which stands for a sub-field. -/
structure Reported (mappings : Members) (matching : List (String × Members)) (facet : FacetSpec) (result : FacetResult) :
    Prop where
  field : result.field = facet.field
  ordered : result.values.Pairwise (InOrder facet.order)
  mapped : '.' ∉ facet.field.toList → (property? mappings facet.field).isSome →
    Counts matching facet.field result.values
  unmapped : '.' ∉ facet.field.toList → property? mappings facet.field = none → result.values = []

/-- A facet that is counted on its own field, or on nothing if this is not mapped. -/
theorem reported_resultOf {mappings : Members} {facet : FacetSpec} {source : Option String}
    (counted : '.' ∉ facet.field.toList → source = if (property? mappings facet.field).isSome then some facet.field else none)
    (matching : List (String × Members)) : Reported mappings matching facet (resultOf matching source facet) where
  field := rfl
  ordered := (pairwise_stableSort (compareEntries facet.order) _).imp inOrder_iff.2
  mapped plain there := by
    rw [counted plain, if_pos there]
    exact counts_resultOf matching facet.field facet
  unmapped plain missing := by
    rw [counted plain, missing]
    rfl

end Facet

/-- A search is answered only if its index is there. -/
theorem TenantIndex.exists_of_query {memory : Memory} (index : TenantIndex) {request : SearchRequest}
    {result : QueryResult} (answered : (runOn Memory.step (index.query request) memory).1 = .ok result) :
    ∃ concrete, memory.resolve index.physical = some concrete := by
  cases resolved : memory.resolve index.physical with
  | some concrete => exact ⟨concrete, rfl⟩
  | none =>
    unfold query at answered
    rw [runOn_bind, runOn_readMapping_missing resolved] at answered
    cases answered

namespace Memory

/-- Paints with a facet that is declared twice in different orders, and one on a field that none of them has. -/
def paintRun : List Request :=
  [.atEpoch "acme" "paint" (.saveSettings ⟨some ["title"],
      some [⟨"color", .value⟩, ⟨"weight", .count⟩, ⟨"color", .countDescending⟩]⟩),
    .atEpoch "acme" "paint" (.put (some "1") (.obj [("color", .str "red"), ("price", .ofNat 15)])),
    .atEpoch "acme" "paint" (.put (some "2") (.obj [("color", .str "blue"), ("price", .ofNat 20)])),
    .atEpoch "acme" "paint" (.put (some "3") (.obj [("color", .str "red"), ("price", .ofNat 45)])),
    .atEpoch "acme" "paint" (.put (some "4") (.obj [("color", .str "blue"), ("price", .ofNat 5)])),
    .atEpoch "acme" "paint" (.put (some "5") (.obj [("price", .ofNat 50)]))]

/-- The second of the paints for ten or more. -/
def paintSearch : SearchRequest := ⟨none, some [.range "price" (some (.ofNat 10)) none], none, some 2, some 1⟩

/-- The colors are counted on four paints, one of which is on the page and one of which has no color. -/
def paintAnswer : QueryResult where
  hits := [.obj [("color", .str "blue"), ("objectID", .str "2"), ("price", .ofNat 20)]]
  total := 4
  page := 2
  hitsPerPage := 1
  facets := [⟨"color", [⟨.str "blue", 1⟩, ⟨.str "red", 2⟩]⟩, ⟨"weight", []⟩,
    ⟨"color", [⟨.str "red", 2⟩, ⟨.str "blue", 1⟩]⟩]

end Memory

end SearchTenancy

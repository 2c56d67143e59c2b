import SearchTenancy.Alias
import SearchTenancy.Proofs.Mapping.Schema
import SearchTenancy.Proofs.Search.Wire
import SearchTenancy.Proofs.Tenant.Identity
import SearchTenancy.Search.Result
import SearchTenancy.Settings.Spec

/-!
# Wire forms

Many written values are read as one value of a type: records may be arrays, optional
fields may be null, a deletion may have a body. The value has one written form, and that
form is read as the value again. For most types this holds of every value; for those that
hold JSON it holds of the values that can be read.
-/

namespace SearchTenancy

/-- Every value that is read is read again from its written form, so writing what is read of that form
gives the same form. -/
def WrittenOnce {ρ α : Type} (read : Written → Reading ρ α) (write : α → Json) : Prop :=
  ∀ written value, read written = .ok value →
    (write value).readAs read = .ok value ∧ ((write value).readAs read).map write = .ok (write value)

theorem WrittenOnce.of_restores {ρ α : Type} {read : Written → Reading ρ α} {write : α → Json}
    (restores : ∀ written value, read written = .ok value → (write value).readAs read = .ok value) :
    WrittenOnce read write := by
  intro written value h
  exact ⟨restores written value h, congrArg (Except.map write) (restores written value h)⟩

open Written

/-! ## Search requests -/

theorem SearchRequest.restored_of_read {written : Written} {request : SearchRequest}
    (h : read written = .ok request) : request.toJson.readAs read = .ok request := by
  have readable := readable_of_read h
  rw [read_toJson fun filter mem value here => (readable filter mem value here).1]
  exact (received_eq_ok_iff request).2 fun filter mem value here => (readable filter mem value here).2

/-! ## Documents -/

namespace IndexedObject

theorem read_toJson {object : IndexedObject} (h : (Json.obj object.body).Canonical) :
    object.toJson.readAs read = .ok object := by
  have written : object.toJson =
      .obj (Json.present [("body", some (.obj object.body)), ("objectID", some (.str object.objectId))]) := rfl
  rw [written]
  refine readRecord_of_enters (by simp) (by simp) ?_
  refine .cons (enterSlot_required (by rfl) (readAs_readMembers h)) ?_
  refine .cons (enterSlot_required (by rfl) (by rfl)) ?_
  exact .nil _

theorem canonical_of_read {written : Written} {object : IndexedObject} (h : read written = .ok object) :
    (Json.obj object.body).Canonical := by
  refine readRecord_keeps (fun object : IndexedObject => (Json.obj object.body).Canonical) ?_
    (by simp [Json.Canonical, Json.CanonicalMembers, Entries.Sorted]) h
  simp only [List.mem_cons, List.not_mem_nil, or_false, forall_eq_or_imp, forall_eq]
  constructor
  · exact keeps_required_any fun _ _ kept => kept
  · exact keeps_required (fun body => (Json.obj body).Canonical) (fun _ _ read => canonical_of_readMembers read) fun _ _ body _ => body

end IndexedObject

/-! ## Batches -/

namespace BatchRequest

/-- An entry is restored if its body is canonical and has no `objectID`. -/
theorem read_toJson {entry : BatchRequest} (h : ∀ body, entry.left = some body →
    (Json.obj body).Canonical ∧ Entries.erase body objectIdAttribute = body) :
    entry.toJson.readAs read = .ok entry := by
  suffices drafted : ∃ draft, entry.toJson.readAs readDraft = .ok draft ∧ ofDraft draft = .ok entry by
    obtain ⟨draft, drafted, made⟩ := drafted
    show (do let draft ← entry.toJson.readAs readDraft; (ofDraft draft).mapError Misfit.rule) = _
    rw [drafted]
    show (ofDraft draft).mapError Misfit.rule = _
    rw [made]
    rfl
  cases entry with
  | create body =>
    obtain ⟨canonical, bare⟩ := h body rfl
    have written : (create body).toJson =
        .obj (Json.present [("action", some (.str "create")), ("body", some (.obj body))]) := rfl
    refine ⟨⟨"create", some (.obj body), none⟩, ?_, ?_⟩
    · rw [written]
      refine readRecord_of_enters (by simp) (by simp) ?_
      refine .cons (enterSlot_required (by rfl) (by rfl)) ?_
      refine .cons (enterSlot_json (by rfl) (by rfl) (by simpa using canonical)) ?_
      exact .nil _
    · show ofParts "create" none (some (Entries.erase body objectIdAttribute)) = _
      rw [bare]
      rfl
  | upsert objectId body =>
    obtain ⟨canonical, bare⟩ := h body rfl
    have written : (upsert objectId body).toJson = .obj (Json.present
        [("action", some (.str "upsert")), ("body", some (.obj body)), ("objectID", some (.str objectId))]) := rfl
    refine ⟨⟨"upsert", some (.obj body), some objectId⟩, ?_, ?_⟩
    · rw [written]
      refine readRecord_of_enters (by simp) (by simp) ?_
      refine .cons (enterSlot_required (by rfl) (by rfl)) ?_
      refine .cons (enterSlot_json (by rfl) (by rfl) (by simpa using canonical)) ?_
      refine .cons (enterSlot_of_enter (by rfl) (by rfl)) ?_
      exact .nil _
    · show ofParts "upsert" (some objectId) (some (Entries.erase body objectIdAttribute)) = _
      rw [bare]
      rfl
  | delete objectId => exact ⟨⟨"delete", none, some objectId⟩, rfl, rfl⟩

theorem restored_of_readAll {written : Written} {requests : List BatchRequest} (h : readAll written = .ok requests) :
    (Json.arr (requests.map toJson)).readAs readAll = .ok requests := by
  refine readList_restores fun entry mem => read_toJson fun body left => ?_
  obtain ⟨item, one⟩ := exists_of_mem_readList h mem
  obtain ⟨source, canonical, plain⟩ := bodyOf_of_read one left
  refine ⟨?_, erase_of_read one left⟩
  unfold IndexedObject.bodyOf at plain
  split at plain
  · cases plain
    exact canonical.erase _
  · cases plain

end BatchRequest

theorem BatchResult.read_toJson (result : BatchResult) : result.toJson.readAs read = .ok result := by
  have written : result.toJson = .obj (Json.present [("deleted", some (.ofStrings result.deleted)),
      ("inserted", some (.ofStrings result.inserted)), ("upserted", some (.ofStrings result.upserted))]) := rfl
  rw [written]
  refine readRecord_of_enters (by simp) (by simp) ?_
  refine .cons (enterSlot_required (by rfl) (readList_ofStrings _)) ?_
  refine .cons (enterSlot_required (by rfl) (readList_ofStrings _)) ?_
  refine .cons (enterSlot_required (by rfl) (readList_ofStrings _)) ?_
  exact .nil _

/-! ## Settings -/

theorem SettingsSpec.read_toJson (spec : SettingsSpec) : spec.toJson.readAs read = .ok spec := by
  have written : spec.toJson = .obj (Json.present
      [("facets", spec.facets.map fun facets => .arr (facets.map FacetSpec.toJson)),
        ("searchable_fields", spec.searchableFields.map .ofStrings)]) := by
    simp [toJson, Json.present]
  have facets (facets : List FacetSpec) :
      (Json.arr (facets.map FacetSpec.toJson)).readAs (readList FacetSpec.read) = .ok facets :=
    readList_restores fun facet _ => FacetSpec.read_toJson facet
  rw [written]
  refine readRecord_of_enters (by simp) (by simp) ?_
  refine .cons (enterSlot_restored (by rfl) (by rfl) (fun _ => rfl)
    fun given _ => facets given) ?_
  refine .cons (enterSlot_restored (by rfl) (by rfl) (fun _ => rfl)
    fun given _ => readList_ofStrings given) ?_
  exact .nil _

/-! ## Results -/

theorem FacetValue.read_toJson {facet : FacetValue} (h : facet.value.Canonical) :
    facet.toJson.readAs read = .ok facet := by
  have written : facet.toJson =
      .obj (Json.present [("count", some (.ofUInt64 facet.count)), ("value", some facet.value)]) := rfl
  rw [written]
  refine readRecord_of_enters (by simp) (by simp) ?_
  refine .cons (enterSlot_required (by rfl) (by rfl)) ?_
  refine .cons (enterSlot_required (by rfl) (readAs_readJson h)) ?_
  exact .nil _

theorem FacetValue.canonical_of_read {written : Written} {facet : FacetValue} (h : read written = .ok facet) :
    facet.value.Canonical := by
  refine readRecord_keeps (fun facet : FacetValue => facet.value.Canonical) ?_
    (by simp [Json.Canonical]) h
  simp only [List.mem_cons, List.not_mem_nil, or_false, forall_eq_or_imp, forall_eq]
  constructor
  · exact keeps_required Json.Canonical (fun _ _ read => canonical_of_readJson read) fun _ _ value _ => value
  · exact keeps_required_any fun _ _ kept => kept

namespace FacetResult

/-- The values of the facet are canonical. -/
def Canonical (facet : FacetResult) : Prop := ∀ value ∈ facet.values, value.value.Canonical

theorem read_toJson {facet : FacetResult} (h : facet.Canonical) : facet.toJson.readAs read = .ok facet := by
  have written : facet.toJson = .obj (Json.present [("field", some (.str facet.field)),
      ("values", some (.arr (facet.values.map FacetValue.toJson)))]) := rfl
  have values : (Json.arr (facet.values.map FacetValue.toJson)).readAs (readList FacetValue.read) = .ok facet.values :=
    readList_restores fun value mem => FacetValue.read_toJson (h value mem)
  rw [written]
  refine readRecord_of_enters (by simp) (by simp) ?_
  refine .cons (enterSlot_required (by rfl) (by rfl)) ?_
  refine .cons (enterSlot_required (by rfl) values) ?_
  exact .nil _

theorem canonical_of_read {written : Written} {facet : FacetResult} (h : read written = .ok facet) :
    facet.Canonical := by
  refine readRecord_keeps Canonical ?_ (by simp [Canonical]) h
  simp only [List.mem_cons, List.not_mem_nil, or_false, forall_eq_or_imp, forall_eq]
  constructor
  · exact keeps_required_any fun _ _ kept => kept
  · refine keeps_required (fun values : List FacetValue => ∀ value ∈ values, value.value.Canonical) ?_
      fun _ _ values _ => values
    intro written values read value mem
    obtain ⟨item, one⟩ := exists_of_mem_readList read mem
    exact FacetValue.canonical_of_read one

end FacetResult

namespace QueryResult

/-- The documents and the values of the facets are canonical. -/
def Canonical (result : QueryResult) : Prop :=
  (∀ hit ∈ result.hits, hit.Canonical) ∧ ∀ facet ∈ result.facets, facet.Canonical

theorem read_toJson {result : QueryResult} (h : result.Canonical) : result.toJson.readAs read = .ok result := by
  obtain ⟨hits, total, page, size, facets⟩ := result
  have written : (QueryResult.mk hits total page size facets).toJson = .obj (Json.present
      [("facets", if facets.isEmpty then none else some (.arr (facets.map FacetResult.toJson))),
        ("hits", some (.arr hits)), ("hitsPerPage", some (.ofUInt64 size)), ("nbHits", some (.ofUInt64 total)),
        ("page", some (.ofUInt64 page))]) := rfl
  have documents : (Json.arr hits).readAs (readList readJson) = (.ok hits : Reading RequestFlaw _) := by
    have each : readList readJson (ofJson (.arr (hits.map id))) = (.ok hits : Reading RequestFlaw _) :=
      readList_restores fun hit mem => readAs_readJson (h.1 hit mem)
    rwa [List.map_id] at each
  have facetsRead : (Json.arr (facets.map FacetResult.toJson)).readAs (readList FacetResult.read) = .ok facets :=
    readList_restores fun facet mem => FacetResult.read_toJson (h.2 facet mem)
  rw [written]
  refine readRecord_of_enters (by simp) (by simp) ?_
  refine .cons (?_ : _ = Except.ok ⟨[], 0, 0, 0, facets⟩) ?_
  · cases facets with
    | nil => rfl
    | cons facet rest => exact enterSlot_of_enter (by rfl) (congrArg (Except.map _) facetsRead)
  · refine .cons (enterSlot_required (by rfl) documents) ?_
    refine .cons (enterSlot_required (by rfl) (by rfl)) ?_
    refine .cons (enterSlot_required (by rfl) (by rfl)) ?_
    refine .cons (enterSlot_required (by rfl) (by rfl)) ?_
    exact .nil _

theorem canonical_of_read {written : Written} {result : QueryResult} (h : read written = .ok result) :
    result.Canonical := by
  refine readRecord_keeps Canonical ?_ (by simp [Canonical]) h
  simp only [List.mem_cons, List.not_mem_nil, or_false, forall_eq_or_imp, forall_eq]
  refine ⟨?hits, ?total, ?page, ?size, ?facets⟩
  case hits =>
    refine keeps_required (fun hits : List Json => ∀ hit ∈ hits, hit.Canonical) ?_
      fun _ _ hits kept => ⟨hits, kept.2⟩
    intro written hits read hit mem
    obtain ⟨item, one⟩ := exists_of_mem_readList read mem
    exact canonical_of_readJson one
  case facets =>
    have kept : (required "facets" (readList FacetResult.read) fun facets (result : QueryResult) =>
        { result with facets }).Keeps Canonical := by
      refine keeps_required (fun facets : List FacetResult => ∀ facet ∈ facets, facet.Canonical) ?_
        fun _ _ facets kept => ⟨kept.1, facets⟩
      intro written facets read facet mem
      obtain ⟨item, one⟩ := exists_of_mem_readList read mem
      exact FacetResult.canonical_of_read one
    exact kept
  all_goals exact keeps_required_any fun _ _ kept => kept

end QueryResult

/-! ## Alias actions -/

namespace AliasAction

theorem toJson_eq_derived (action : AliasAction) : action.toJson = action.derived := by
  have below : "alias" < "index" := by decide
  cases action <;> simp [toJson, derived, ofConstructor, Json.ofMembers, Entries.ofList, Entries.insert, below]

theorem read_toJson (action : AliasAction) : action.toJson.readAs read = .ok action := by
  cases action <;> rfl

theorem readPlain_toJson (action : AliasAction) : action.toJson.readAs readPlain = .ok action := by
  cases action <;> rfl

end AliasAction

/-! ## One written form -/

/-- Whatever was written, reading and writing it makes it canonical at once: what was read is read again
from its written form. Alias actions are written as their declaration says. -/
theorem wire_forms_are_canonical :
    WrittenOnce SearchRequest.read SearchRequest.toJson ∧
    WrittenOnce BatchRequest.readAll (fun requests => .arr (requests.map BatchRequest.toJson)) ∧
    WrittenOnce SettingsSpec.read SettingsSpec.toJson ∧
    WrittenOnce BatchResult.read BatchResult.toJson ∧
    WrittenOnce IndexedObject.read IndexedObject.toJson ∧
    WrittenOnce QueryResult.read QueryResult.toJson ∧
    WrittenOnce AliasAction.read AliasAction.toJson ∧
    WrittenOnce AliasAction.readPlain AliasAction.toJson ∧
    ∀ action : AliasAction, action.toJson = action.derived := by
  refine ⟨?search, ?batch, ?settings, ?result, ?document, ?answer, ?action, ?plain, AliasAction.toJson_eq_derived⟩
  case search => exact WrittenOnce.of_restores fun _ _ h => SearchRequest.restored_of_read h
  case batch => exact WrittenOnce.of_restores fun _ _ h => BatchRequest.restored_of_readAll h
  case settings => exact WrittenOnce.of_restores fun _ spec _ => spec.read_toJson
  case result => exact WrittenOnce.of_restores fun _ result _ => result.read_toJson
  case document =>
    exact WrittenOnce.of_restores fun _ _ h => IndexedObject.read_toJson (IndexedObject.canonical_of_read h)
  case answer => exact WrittenOnce.of_restores fun _ _ h => QueryResult.read_toJson (QueryResult.canonical_of_read h)
  case action => exact WrittenOnce.of_restores fun _ action _ => action.read_toJson
  case plain => exact WrittenOnce.of_restores fun _ action _ => action.readPlain_toJson

/-- A batch with what is ignored: a body of a deletion, an `objectID` in a body, a null, an unknown name, and
a record as an array. It is read from its written form without all that. -/
theorem batch_is_written_once :
    BatchRequest.readAll (.arr [.arr [.str "delete", .obj [], .str "1"],
        .obj [(some "body", .obj [(some "x", .bool true), (some "objectID", .str "2")]), (some "why", .null),
          (some "action", .str "create"), (some "objectID", .null)]]) =
      .ok [.delete "1", .create [("x", .bool true)]] ∧
    (Json.arr ([.delete "1", .create [("x", .bool true)]].map BatchRequest.toJson)).readAs BatchRequest.readAll =
      .ok [.delete "1", .create [("x", .bool true)]] :=
  have read : BatchRequest.readAll (.arr [.arr [.str "delete", .obj [], .str "1"],
      .obj [(some "body", .obj [(some "x", .bool true), (some "objectID", .str "2")]), (some "why", .null),
        (some "action", .str "create"), (some "objectID", .null)]]) =
      .ok [.delete "1", .create [("x", .bool true)]] := by rfl
  ⟨read, (wire_forms_are_canonical.2.1 _ _ read).1⟩

end SearchTenancy

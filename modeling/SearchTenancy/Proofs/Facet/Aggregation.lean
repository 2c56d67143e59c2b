import SearchTenancy.Proofs.Mapping.Saving
import SearchTenancy.Proofs.Text.Words

/-!
# Facets can be aggregated

Text is mapped with a sub-field for facets, either the one of the service or the one
that backends add of their own accord (`Schema.Equipped`). Documents and settings keep
it so, provided that all settings are saved by services with one name for the
sub-field. The field that a facet is aggregated on is then never text itself
(`Equipped.aggregatable`), so the aggregations of a search do not fail
(`Facet.aggregate_ok_iff`), and every configured facet finds its buckets in the answer
(`Facet.results_eq`). Those are of the values of its own field, by way of a sub-field or
not (`Describes.counted_eq`).
-/

namespace SearchTenancy

open StoredIndex IndexMapping

namespace Schema

variable {schema before after : Schema} {mappings : Members} {subfield : String}

/-- Every text field has one of two sub-fields: the one that backends add, or the given one, which is the
only one that templates add. -/
structure Equipped (subfield : String) (schema : Schema) : Prop where
  fields : ∀ field mapped, mapped? schema.properties field = some mapped →
    mapped.HasKeyword [Facet.defaultSubfield, subfield]
  templates : ∀ name waiting, schema.templates = some (name, waiting) → name = subfield

theorem equipped_empty (subfield : String) : Equipped subfield .empty :=
  ⟨fun _ _ found => (nomatch found), fun _ _ found => (nomatch found)⟩

theorem Equipped.keywords_subset (h : Equipped subfield schema) : schema.keywords ⊆ [Facet.defaultSubfield, subfield] := by
  unfold keywords
  cases templates : schema.templates with
  | none => simp
  | some both =>
    obtain ⟨name, waiting⟩ := both
    simp [h.templates name waiting templates]

theorem Equipped.grows (h : Equipped subfield before) (grows : Grows before after) : Equipped subfield after where
  fields field mapped found := by
    cases old : before.properties.get? field with
    | some parameters =>
      refine h.fields field mapped ?_
      rw [← found, mapped?, mapped?, old, grows.kept field parameters old]
    | none =>
      intro text
      obtain ⟨name, among, has⟩ := grows.keyworded field mapped old found text
      exact ⟨name, h.keywords_subset among, has⟩
  templates name waiting found := h.templates name waiting (grows.templates ▸ found)

theorem Equipped.equips (h : Equipped subfield before) (equips : Equips subfield before after) :
    Equipped subfield after where
  fields field mapped found := by
    obtain ⟨choice, switched⟩ := equips.fields field
    rw [switched] at found
    obtain ⟨old, there, rfl⟩ := Option.map_eq_some_iff.1 found
    -- The type of a field and its sub-fields stay.
    exact h.fields field old there
  templates name waiting found := by
    rcases equips.templates with same | ⟨_, written⟩
    · exact h.templates name waiting (same ▸ found)
    · rw [written] at found
      cases found
      rfl

end Schema

/-! ## The field of an aggregation -/

theorem splitField_of_not_mem {field : String} (plain : '.' ∉ field.toList) : splitField field = (field, none) := by
  simp [splitField, Text.upTo_of_not_mem plain]

/-- A field with a point is split at the first one. -/
theorem splitField_of_mem {field : String} (dotted : '.' ∈ field.toList) :
    ∃ source subfield, splitField field = (source, some subfield) := by
  obtain ⟨source, subfield, parts, plain⟩ := List.eq_append_cons_of_mem dotted
  refine ⟨String.ofList source, String.ofList subfield, ?_⟩
  unfold splitField
  simp only [parts, Text.upTo_append_mark, Text.upTo_of_not_mem plain, List.drop_left]

/-- The name of a sub-field is split off again. -/
theorem splitField_append {field : String} (plain : '.' ∉ field.toList) (subfield : String) :
    splitField (field ++ "." ++ subfield) = (field, some subfield) := by
  have chars : (field ++ "." ++ subfield).toList = field.toList ++ '.' :: subfield.toList := by simp
  unfold splitField
  simp only [chars, Text.upTo_append_mark, Text.upTo_of_not_mem plain, List.drop_left, String.ofList_toList]

theorem Json.unescapeSlash_of_not_mem {token : List Char} (plain : '~' ∉ token) : unescapeSlash token = token := by
  induction token with
  | nil => rfl
  | cons c rest ih =>
    obtain ⟨differs, others⟩ := List.ne_and_not_mem_of_not_mem_cons plain
    rw [unescapeSlash, ih others]
    exact fun _ same => absurd same.symm differs

theorem Json.unescapeTilde_of_not_mem {token : List Char} (plain : '~' ∉ token) : unescapeTilde token = token := by
  induction token with
  | nil => rfl
  | cons c rest ih =>
    obtain ⟨differs, others⟩ := List.ne_and_not_mem_of_not_mem_cons plain
    rw [unescapeTilde, ih others]
    exact fun _ same => absurd same.symm differs

/-- The path to a sub-field leads to it. -/
theorem Json.pointer?_fields {name : String} (slashless : '/' ∉ name.toList) (plain : '~' ∉ name.toList) (value : Json) :
    value.pointer? ("fields/" ++ name) = (value.child? "fields".toList).bind (·.child? name.toList) := by
  have chars : ("fields/" ++ name).toList = "fields".toList ++ '/' :: name.toList := by simp
  have tokens : pointerTokens ("fields/" ++ name).toList = ["fields".toList, name.toList] := by
    simp only [pointerTokens, chars, Text.partsAt_append_mark (show '/' ∉ "fields".toList by decide),
      Text.partsAt_of_not_mem slashless, List.map_cons, List.map_nil, unescapeSlash_of_not_mem plain,
      unescapeTilde_of_not_mem plain]
    rfl
  rw [pointer?, tokens]
  simp

/-- A sub-field that is read from a mapping is found in it. -/
theorem IndexMapping.pointer?_of_hasSubfield {parameters : Members} {name : String} (slashless : '/' ∉ name.toList)
    (plain : '~' ∉ name.toList) (has : (fieldOf (.obj parameters)).hasSubfield name) :
    ((Json.obj parameters).pointer? ("fields/" ++ name)).isSome := by
  rw [Json.pointer?_fields slashless plain]
  simp only [FieldMapping.hasSubfield, fieldOf, Json.get?, List.contains_iff_mem] at has
  simp only [Json.child?, String.ofList_toList]
  cases found : Entries.get? parameters "fields" with
  | none => simp [found] at has
  | some value =>
    cases value with
    | obj members => simpa [found, Json.asObject?, Json.child?, ← Entries.get?_isSome_iff] using has
    | null | bool _ | num _ | str _ | arr _ => simp [found, Json.asObject?] at has

/-- An aggregation on the field would be one on text itself. -/
def StoredIndex.BareText (mappings : Members) (field : String) : Prop :=
  '.' ∉ field.toList ∧ ∃ property, property? mappings field = some property ∧
    (property.get? "type").bind Json.asString? = some "text"

/-- The field of the documents whose values an aggregation on `field` counts. -/
def StoredIndex.counted (mappings : Members) (field : String) : Option String :=
  (aggregatable mappings field).toOption.join

/-- Aggregations on text itself are what the backend refuses. -/
theorem aggregatable_error_iff {mappings : Members} {field : String} :
    (∃ failure, aggregatable mappings field = .error failure) ↔ BareText mappings field := by
  unfold aggregatable BareText
  by_cases dotted : '.' ∈ field.toList
  · obtain ⟨source, name, split⟩ := splitField_of_mem dotted
    rw [split]
    dsimp only
    cases property? mappings source <;> simp [dotted]
  · rw [splitField_of_not_mem dotted]
    dsimp only
    cases property? mappings field with
    | none => simp
    | some property =>
      by_cases text : (property.get? "type").bind Json.asString? = some "text"
      · simp [text, dotted]
      · simp [text]

namespace Facet

/-- A facet is aggregated on one of two sub-fields that is there, or else on its own field, unless this holds text
with one of them. -/
theorem aggregationField_cases (field : String) (mapping : IndexMapping) (subfield : String) :
    (∃ mapped, mapping.field? field = some mapped ∧ ∃ found ∈ [subfield, defaultSubfield], mapped.hasSubfield found ∧
      aggregationField field (some mapping) subfield = field ++ "." ++ found) ∨
    aggregationField field (some mapping) subfield = field ∧
      ∀ mapped, mapping.field? field = some mapped → mapped.isString → ¬ ∃ name ∈ [defaultSubfield, subfield],
        mapped.hasSubfield name := by
  unfold aggregationField
  simp only [Option.bind_some]
  cases known : mapping.field? field with
  | none => exact .inr ⟨rfl, fun _ found => (nomatch found)⟩
  | some mapped =>
    by_cases text : mapped.isString
    · simp only [Option.filter_some, text, if_true]
      cases found : [subfield, defaultSubfield].find? mapped.hasSubfield with
      | some name => exact .inl ⟨mapped, rfl, name, List.mem_of_find?_eq_some found, List.find?_some found, rfl⟩
      | none =>
        refine .inr ⟨rfl, fun other same _ => ?_⟩
        cases same
        simpa [and_comm] using found
    · simp only [Option.filter_some, text]
      refine .inr ⟨rfl, fun other same isText => ?_⟩
      cases same
      exact absurd isText text

end Facet

namespace Schema

variable {schema : Schema} {mappings : Members} {subfield : String}

/-- No facet is aggregated on text. -/
theorem Equipped.aggregatable (h : Equipped subfield schema) (described : Describes schema mappings) (field : String)
    (indexName : Option String) :
    ∃ counted, StoredIndex.aggregatable mappings
      (Facet.aggregationField field (some (schema.mapping indexName)) subfield) = .ok counted := by
  unfold StoredIndex.aggregatable
  by_cases dotted : '.' ∈ (Facet.aggregationField field (some (schema.mapping indexName)) subfield).toList
  · obtain ⟨source, name, split⟩ := splitField_of_mem dotted
    rw [split]
    dsimp only
    cases property? mappings source with
    | none => exact ⟨_, rfl⟩
    | some _ => exact ⟨_, rfl⟩
  · rw [splitField_of_not_mem dotted]
    rcases Facet.aggregationField_cases field (schema.mapping indexName) subfield with
      ⟨_, -, found, -, -, onSubfield⟩ | ⟨same, unequipped⟩
    · exact absurd (by simp [onSubfield]) dotted
    · rw [same]
      dsimp only
      rw [described.property?_eq]
      cases there : schema.properties.get? field with
      | none => exact ⟨_, rfl⟩
      | some parameters =>
        have mapped : mapped? schema.properties field = some (fieldOf (.obj parameters)) := by simp [mapped?, there]
        have notText : (fieldOf (.obj parameters)).fieldType ≠ some "text" := by
          intro text
          refine unequipped _ ((field?_mapping field).trans mapped) ?_ (h.fields field _ mapped text)
          simp [FieldMapping.isString, text]
        exact ⟨_, if_neg notText⟩

/-- A facet counts the values of its own field if this is mapped, whatever it is aggregated on, and nothing
otherwise. -/
theorem Describes.counted_eq (described : Describes schema mappings) {field : String} (plain : '.' ∉ field.toList)
    (slashless : '/' ∉ subfield.toList) (tildeless : '~' ∉ subfield.toList) {indexName : Option String}
    (fine : ∃ counted, StoredIndex.aggregatable mappings
      (Facet.aggregationField field (some (schema.mapping indexName)) subfield) = .ok counted) :
    counted mappings (Facet.aggregationField field (some (schema.mapping indexName)) subfield) =
      if (property? mappings field).isSome then some field else none := by
  obtain ⟨source, fine⟩ := fine
  rw [counted, fine]
  unfold StoredIndex.aggregatable at fine
  rcases Facet.aggregationField_cases field (schema.mapping indexName) subfield with
    ⟨mapped, known, name, among, has, onSubfield⟩ | ⟨same, -⟩
  · rw [field?_mapping] at known
    obtain ⟨parameters, there, rfl⟩ := Option.map_eq_some_iff.1 known
    have property : property? mappings field = some (.obj parameters) := by rw [described.property?_eq, there]; rfl
    have path : ((Json.obj parameters).pointer? ("fields/" ++ name)).isSome := by
      rcases List.mem_pair.1 among with rfl | rfl
      · exact pointer?_of_hasSubfield slashless tildeless has
      · exact pointer?_of_hasSubfield (by decide) (by decide) has
    rw [onSubfield, splitField_append plain] at fine
    simp only [property, path, if_true] at fine
    cases fine
    simp [property, Except.toOption]
  · rw [same, splitField_of_not_mem plain] at fine
    dsimp only at fine
    cases property : property? mappings field with
    | none =>
      rw [property] at fine
      cases fine
      rfl
    | some value =>
      rw [property] at fine
      dsimp only at fine
      split at fine
      · cases fine
      · cases fine
        rfl

end Schema

/-! ## Aggregations -/

/-- The field that an aggregation asks for. -/
def Facet.asked (aggregation : Json) : String := ((aggregation.pointer? "terms/field").bind Json.asString?).getD ""

theorem StoredIndex.aggregate_eq {mappings : Members} (documents : List (String × Members)) {entries : List (String × Json)}
    (fine : ∀ entry ∈ entries, ∃ counted, aggregatable mappings (Facet.asked entry.2) = .ok counted) :
    aggregate mappings documents entries =
      .ok (entries.map fun entry => (entry.1, buckets documents (counted mappings (Facet.asked entry.2)))) := by
  induction entries with
  | nil => rfl
  | cons entry rest ih =>
    obtain ⟨source, here⟩ := fine entry List.mem_cons_self
    have field : counted mappings (Facet.asked entry.2) = source := by simp [counted, here, Except.toOption]
    have others := ih fun other mem => fine other (List.mem_cons_of_mem _ mem)
    show (do
      let source ← aggregatable mappings (Facet.asked entry.2)
      let others ← aggregate mappings documents rest
      return (entry.1, buckets documents source) :: others : Except BackendError Members) = _
    rw [here, others, List.map_cons, field]
    rfl

theorem StoredIndex.aggregate_ok_iff {mappings : Members} {documents : List (String × Members)}
    {entries : List (String × Json)} :
    (∃ answers, aggregate mappings documents entries = .ok answers) ↔
      ∀ entry ∈ entries, ∃ counted, aggregatable mappings (Facet.asked entry.2) = .ok counted := by
  refine ⟨?_, fun fine => ⟨_, aggregate_eq documents fine⟩⟩
  rintro ⟨answers, aggregated⟩
  induction entries generalizing answers with
  | nil => exact fun _ mem => absurd mem List.not_mem_nil
  | cons entry rest ih =>
    have aggregated : (do
      let source ← aggregatable mappings (Facet.asked entry.2)
      let others ← aggregate mappings documents rest
      return (entry.1, buckets documents source) :: others : Except BackendError Members) = .ok answers := aggregated
    cases here : aggregatable mappings (Facet.asked entry.2) with
    | error failure =>
      rw [here] at aggregated
      cases aggregated
    | ok source =>
      cases others : aggregate mappings documents rest with
      | error failure =>
        rw [here, others] at aggregated
        cases aggregated
      | ok answers => exact List.forall_mem_cons.2 ⟨⟨source, here⟩, ih answers others⟩

theorem mapM_ok {α β ε : Type} {f : α → Except ε β} {g : α → β} {list : List α} (each : ∀ a ∈ list, f a = .ok (g a)) :
    list.mapM f = .ok (list.map g) := by
  induction list with
  | nil => rfl
  | cons first rest ih =>
    rw [List.mapM_cons, each first List.mem_cons_self, ih fun a mem => each a (List.mem_cons_of_mem _ mem)]
    rfl

namespace Facet

variable (facets : List FacetSpec) (mapping : Option IndexMapping) (subfield : String) (size : UInt64)

/-- The aggregations of facets, one for each field. -/
def aggregationsOf : Members :=
  Entries.ofList (facets.map fun facet => (facet.field, aggregation facet mapping subfield size))

/-- The aggregation of a facet depends on its field only. -/
theorem get?_aggregationsOf (field : String) :
    Entries.get? (aggregationsOf facets mapping subfield size) field =
      if field ∈ facets.map FacetSpec.field then some (aggregation ⟨field, .count⟩ mapping subfield size) else none := by
  rw [← Entries.get?_ofList_map fun field => aggregation ⟨field, .count⟩ mapping subfield size, List.map_map]
  rfl

theorem forall_mem_aggregationsOf {P : Json → Prop} :
    (∀ entry ∈ aggregationsOf facets mapping subfield size, P entry.2) ↔
      ∀ facet ∈ facets, P (aggregation facet mapping subfield size) := by
  have look := get?_aggregationsOf facets mapping subfield size
  have sorted : Entries.Sorted (aggregationsOf facets mapping subfield size) := Entries.sorted_ofList _
  constructor
  · intro every facet mem
    have listed := look facet.field
    rw [if_pos (List.mem_map_of_mem mem)] at listed
    exact every (facet.field, _) (sorted.mem_iff.2 listed)
  · intro each entry mem
    have found := sorted.get?_of_mem mem
    rw [look] at found
    split at found
    · rename_i listed
      obtain ⟨facet, mem, same⟩ := List.mem_map.1 listed
      rw [← Option.some.inj found, ← same]
      exact each facet mem
    · cases found

/-- The backend counts the values of a field for each of the facets. -/
def Fine (mappings : Members) : Prop :=
  ∀ facet ∈ facets, ∃ counted, aggregatable mappings (aggregationField facet.field mapping subfield) = .ok counted

variable {facets mapping subfield size} {mappings : Members} {documents : List (String × Members)}

/-- The aggregations of facets succeed if it does. -/
theorem aggregate_ok_iff :
    (∃ answers, aggregate mappings documents (aggregationsOf facets mapping subfield size) = .ok answers) ↔
      Fine facets mapping subfield mappings :=
  StoredIndex.aggregate_ok_iff.trans (forall_mem_aggregationsOf facets mapping subfield size
    (P := fun written => ∃ counted, aggregatable mappings (asked written) = .ok counted))

/-- The buckets of each facet are answered under its field. -/
theorem get?_aggregate {answers : Members}
    (aggregated : aggregate mappings documents (aggregationsOf facets mapping subfield size) = .ok answers) :
    ∀ facet ∈ facets, Entries.get? answers facet.field =
      some (buckets documents (counted mappings (aggregationField facet.field mapping subfield))) := by
  have each := StoredIndex.aggregate_ok_iff.1 ⟨answers, aggregated⟩
  obtain rfl := Except.ok.inj ((aggregate_eq documents each).symm.trans aggregated)
  intro facet mem
  have mapped := Entries.get?_map (fun written => buckets documents (counted mappings (asked written)))
    (aggregationsOf facets mapping subfield size) facet.field
  rw [get?_aggregationsOf, if_pos (List.mem_map_of_mem mem)] at mapped
  exact mapped

/-- The result of a facet whose values are those of a field of the documents. -/
def resultOf (documents : List (String × Members)) (counted : Option String) (facet : FacetSpec) : FacetResult :=
  ⟨facet.field, sortValues ((((buckets documents counted).get? "buckets").bind Json.asArray?).getD [] |>.map bucketValue)
    facet.order⟩

/-- Facets are read from an answer that has buckets for each of them. -/
theorem results_eq {response : Json} {answers : Members} {documents : List (String × Members)}
    (counted : String → Option String) {facets : List FacetSpec}
    (given : facets ≠ [] → response.get? "aggregations" = some (.obj answers))
    (each : ∀ facet ∈ facets, Entries.get? answers facet.field = some (buckets documents (counted facet.field))) :
    results response facets = .ok (facets.map fun facet => resultOf documents (counted facet.field) facet) := by
  unfold results
  split
  · rename_i none
    rw [List.isEmpty_iff.1 none]
    rfl
  · rename_i some
    rw [given (by simpa using some)]
    refine mapM_ok fun facet mem => ?_
    unfold result
    simp only [Json.get?, each facet mem]
    rfl

end Facet

end SearchTenancy

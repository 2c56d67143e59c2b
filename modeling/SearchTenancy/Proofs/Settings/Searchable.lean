import SearchTenancy.Proofs.Settings.RoundTrip

/-!
# Which fields become searchable

The fields of a save are used as the names and the patterns of templates, and no name is
checked. One name is the pattern for all names: a field called `*` is not reported as
long as it is not mapped, and its template makes every field searchable that documents
add afterwards. For all other names a save reports what was requested, and documents add
nothing to it.
-/

namespace SearchTenancy

open Operation

/-- A template for all names makes new fields searchable. -/
def IndexMapping.EnablesAll (mapping : IndexMapping) : Prop :=
  ∃ template ∈ mapping.dynamicTemplates, template.isCatchAll ∧ template.index = some true

namespace Schema

variable {schema before after : Schema} {indexName : Option String}

theorem enablesAll_mapping : (schema.mapping indexName).EnablesAll ↔ "*" ∈ schema.waiting := by
  unfold IndexMapping.EnablesAll waiting
  cases templates : schema.templates with
  | none => simp [mapping, templates]
  | some both =>
    rw [dynamicTemplates_mapping templates]
    show _ ↔ "*" ∈ both.2
    constructor
    · rintro ⟨template, mem, all, indexed⟩
      rcases List.mem_append.1 mem with mem | general
      · obtain ⟨field, waits, rfl⟩ := List.mem_map.1 mem
        have named : field = "*" := by simpa [DynamicTemplate.isCatchAll] using all
        exact named ▸ waits
      · simp only [List.mem_cons, List.not_mem_nil, or_false] at general
        rcases general with rfl | rfl <;> cases indexed
    · exact fun waits => ⟨_, List.mem_append_left _ (List.mem_map.2 ⟨"*", waits, rfl⟩), rfl, rfl⟩

theorem field?_mapping_eq_none {field : String} :
    (schema.mapping indexName).field? field = none ↔ schema.properties.get? field = none := by
  rw [field?_mapping, mapped?_eq_none]

theorem field?_mapping_isSome {field : String} :
    ((schema.mapping indexName).field? field).isSome ↔ (schema.properties.get? field).isSome := by
  rw [field?_mapping, mapped?, Option.isSome_map]

/-- A template for all names waits if one is requested, unless a field of that name is indexed. -/
theorem Settles.pattern_waits {spec : SettingsSpec} (settles : Settles spec before after) {requested : List String}
    (given : spec.searchableFields = some requested) :
    ("*" ∈ after.waiting → "*" ∈ requested) ∧ ("*" ∈ requested → after.Lists "*" ∨ "*" ∈ after.waiting) := by
  rw [settles.waiting requested given]
  refine ⟨fun waits => (List.mem_filter.1 waits).1, fun wanted => ?_⟩
  by_cases indexed : before.flag? "*" = some true
  · left
    rw [settles.lists_iff_requested given, settles.flags requested given]
    simp [switch?, wanted, indexed]
  · exact .inr (List.mem_filter.2 ⟨wanted, by simpa using indexed⟩)

end Schema

namespace Memory

/-- The index has this mapping, and every reader of it is told the settings of the mapping. -/
structure Shows (memory : Memory) (index : TenantIndex) (mapping : IndexMapping) : Prop where
  read : runOn step (readMapping index.physical) memory = (.ok mapping, memory)
  reported : ∀ reader now, reader.physical = index.physical →
    memory.answer ⟨reader, now, .getSettings⟩ = .ok mapping.settings

theorem Shows.of_read {memory : Memory} {index : TenantIndex} {mapping : IndexMapping}
    (read : runOn step (readMapping index.physical) memory = (.ok mapping, memory)) : memory.Shows index mapping := by
  refine ⟨read, fun reader now same => ?_⟩
  rw [← same] at read
  exact congrArg Prod.fst (reader.runOn_getSettings_of_read read)

/-- In any run, a save makes the requested fields searchable and no others, except that a field called by the
pattern for all names has to be mapped as indexed. Documents make further fields searchable exactly if a
template for all names waits, which that field brings with it: then every field that was not mapped yet. -/
theorem searchable_after_save {run later : List Request} {index : TenantIndex} {now : Instant}
    {spec saved : SettingsSpec} {requested : List String} (given : spec.searchableFields = some requested)
    (succeeded : (empty.after run).answer ⟨index, now, .saveSettings spec⟩ = .ok saved)
    (documents : ∀ request ∈ later, request.act.isAdministrative = false) :
    ∃ mapping grown : IndexMapping,
      ((empty.after run).next ⟨index, now, .saveSettings spec⟩).Shows index mapping ∧
      (((empty.after run).next ⟨index, now, .saveSettings spec⟩).after later).Shows index grown ∧
      (∀ field, field ∈ mapping.searchableFields ↔
        field ∈ requested ∧ (field = "*" → (mapping.field? field).any FieldMapping.isSearchable)) ∧
      (mapping.EnablesAll → "*" ∈ requested) ∧
      ("*" ∈ requested → "*" ∈ mapping.searchableFields ∨ mapping.EnablesAll) ∧
      ∀ field, field ∈ grown.searchableFields ↔ field ∈ mapping.searchableFields ∨
        mapping.EnablesAll ∧ mapping.field? field = none ∧ (grown.field? field).isSome := by
  have sound := sound_empty.after run
  obtain ⟨ready, concrete, content, made, resolved, found, mappings⟩ := mappings_of_saved sound succeeded documents
  obtain ⟨schema, described⟩ := (made.sound sound).described concrete content found
  obtain ⟨settled, grown, settles, grows, before, after⟩ := mappings schema described
  obtain ⟨requested_of_waits, waits⟩ := settles.pattern_waits given
  refine ⟨_, _, .of_read before, .of_read after, ?_⟩
  simp only [Schema.mem_searchableFields, Schema.enablesAll_mapping, Schema.field?_mapping_eq_none,
    Schema.field?_mapping_isSome, Schema.any_isSearchable]
  exact ⟨settles.lists_iff_requested given, requested_of_waits, waits, grows.lists_iff_or⟩

/-- A field that is requested is searchable, and a field of a later document is not. -/
theorem only_title_is_searchable :
    (empty.answer (.atEpoch "acme" "products" (.saveSettings ⟨some ["title"], none⟩)) = .ok ⟨some ["title"], none⟩ ∧
      ∀ request ∈ [Request.atEpoch "acme" "products" (.put none (.obj [("material", .str "Oak")]))],
        request.act.isAdministrative = false) ∧
    ∃ grown : IndexMapping, ((empty.next (.atEpoch "acme" "products" (.saveSettings ⟨some ["title"], none⟩))).after
        [.atEpoch "acme" "products" (.put none (.obj [("material", .str "Oak")]))]).Shows
          ⟨.default, "acme", "products"⟩ grown ∧
      ∀ field, field ∈ grown.searchableFields ↔ field = "title" := by
  have succeeded : (empty.after []).answer (.atEpoch "acme" "products" (.saveSettings ⟨some ["title"], none⟩)) =
      .ok ⟨some ["title"], none⟩ := by rfl
  have documents : ∀ request ∈ [Request.atEpoch "acme" "products" (.put none (.obj [("material", .str "Oak")]))],
      request.act.isAdministrative = false := by
    intro request mem
    rw [List.mem_singleton.1 mem]
    rfl
  obtain ⟨mapping, grown, -, shows, right, needs, -, later⟩ :=
    searchable_after_save (show (⟨some ["title"], none⟩ : SettingsSpec).searchableFields = some ["title"] from rfl)
      succeeded documents
  refine ⟨⟨succeeded, documents⟩, grown, shows, fun field => ?_⟩
  have closed : ¬ mapping.EnablesAll := fun all => by simpa using needs all
  rw [later field, right field]
  simp only [closed, false_and, or_false, List.mem_singleton, and_iff_left_iff_imp]
  rintro rfl
  simp

/-- A field called by the pattern for all names is not reported, and fields that nobody requested are. -/
theorem pattern_as_field_enables_others :
    (empty.next (.atEpoch "acme" "products" (.saveSettings ⟨some ["*"], none⟩))).answer
        (.atEpoch "acme" "products" .getSettings) = .ok ⟨some [], none⟩ ∧
      ((empty.next (.atEpoch "acme" "products" (.saveSettings ⟨some ["*"], none⟩))).after
          [.atEpoch "acme" "products" (.put (some "1") (.obj [("material", .str "Oak")]))]).answer
        (.atEpoch "acme" "products" .getSettings) = .ok ⟨some ["material"], none⟩ :=
  ⟨by rfl, by rfl⟩

end Memory

end SearchTenancy

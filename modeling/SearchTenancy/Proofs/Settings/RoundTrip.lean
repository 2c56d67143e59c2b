import SearchTenancy.Proofs.Tenant.Runs

/-!
# Settings that are saved are the settings in effect

Settings are read from three places: what the properties say about being indexed, the
templates that wait for fields, and the record of the declared order. They agree in a
schema that is `Tidy`: no template waits for all names, and no field that a template
waits for is switched off. New documents and new settings keep a schema tidy, unless
settings declare a field called by the pattern for all names. So what was saved is
reported afterwards, however many documents are written in between.
-/

namespace SearchTenancy

open Operation

/-- The pattern for all names is not searchable, and no field that is waited for is switched off. -/
structure Schema.Tidy (schema : Schema) : Prop where
  plain : "*" ∉ schema.waiting
  unindexed : schema.flag? "*" ≠ some true
  consistent : ∀ field ∈ schema.waiting, schema.flag? field ≠ some false

namespace Schema

variable {before after schema : Schema} {indexName : Option String}

theorem tidy_empty : Tidy .empty := ⟨fun h => (nomatch h), fun h => (nomatch h), fun _ h => (nomatch h)⟩

/-- A listed field is not switched off. -/
theorem Tidy.not_disabled (h : Tidy schema) {field : String} (listed : schema.Lists field) :
    schema.flag? field ≠ some false := by
  rcases listed with indexed | ⟨waited, -⟩
  · simp [indexed]
  · exact h.consistent field waited

theorem Grows.flag?_of_mapped (grows : Grows before after) {field : String} {parameters : Members}
    (mapped : before.properties.get? field = some parameters) : after.flag? field = before.flag? field := by
  rw [flag?, flag?, mapped, grows.kept field parameters mapped]

/-- What becomes of a field that is not mapped yet: it is switched on exactly if it was waited for. -/
theorem Grows.flag?_of_unmapped (grows : Grows before after) (plain : "*" ∉ before.waiting) {field : String}
    (unmapped : before.properties.get? field = none) :
    after.properties.get? field = none ∨ (after.flag? field = some true ↔ field ∈ before.waiting) := by
  cases mapped : after.properties.get? field with
  | none => exact .inl rfl
  | some parameters =>
    have fresh := grows.fresh field unmapped (by simp [mapped])
    simpa [plain] using fresh

theorem Tidy.grows (h : Tidy before) (grows : Grows before after) : Tidy after := by
  refine ⟨by rw [grows.waiting]; exact h.plain, ?_, fun field waited => ?_⟩
  · cases mapped : before.properties.get? "*" with
    | some parameters =>
      rw [grows.flag?_of_mapped mapped]
      exact h.unindexed
    | none =>
      rcases grows.flag?_of_unmapped h.plain mapped with still | switched
      · simp [flag?, still]
      · exact fun indexed => h.plain (switched.1 indexed)
  · rw [grows.waiting] at waited
    cases mapped : before.properties.get? field with
    | some parameters =>
      rw [grows.flag?_of_mapped mapped]
      exact h.consistent field waited
    | none =>
      rcases grows.flag?_of_unmapped h.plain mapped with still | switched
      · simp [flag?, still]
      · simp [switched.2 waited]

/-- New documents make a field searchable only if a template waits for all names. -/
theorem Grows.lists_iff_or (grows : Grows before after) (field : String) :
    after.Lists field ↔ before.Lists field ∨
      "*" ∈ before.waiting ∧ before.properties.get? field = none ∧ (after.properties.get? field).isSome := by
  unfold Lists
  rw [grows.waiting]
  cases mapped : before.properties.get? field with
  | some parameters => simp [grows.flag?_of_mapped mapped]
  | none =>
    have unindexed : before.flag? field ≠ some true := by simp [flag?, mapped]
    cases there : after.properties.get? field with
    | none => simp [flag?, there, mapped]
    | some parameters =>
      -- A new field is listed for its flag now and was listed for its template before.
      have fresh := grows.fresh field mapped (by simp [there])
      by_cases named : field = "*"
      · subst named
        simp [fresh, unindexed]
      · by_cases waited : field ∈ before.waiting <;> simp [fresh, unindexed, named, waited]

/-- New documents do not change which fields are searchable. -/
theorem Grows.lists_iff (grows : Grows before after) (plain : "*" ∉ before.waiting) (field : String) :
    after.Lists field ↔ before.Lists field := by
  simp [grows.lists_iff_or field, plain]

theorem Tidy.settles {spec : SettingsSpec} (h : Tidy before)
    (plain : ∀ requested, spec.searchableFields = some requested → "*" ∉ requested)
    (settles : Settles spec before after) : Tidy after := by
  cases given : spec.searchableFields with
  | none =>
    obtain ⟨properties, templates, -⟩ := settles.kept given
    have waiting : after.waiting = before.waiting := by rw [waiting, waiting, templates]
    have flag (field : String) : after.flag? field = before.flag? field := by rw [flag?, flag?, properties]
    refine ⟨by rw [waiting]; exact h.plain, by rw [flag]; exact h.unindexed, fun field waited => ?_⟩
    rw [waiting] at waited
    rw [flag]
    exact h.consistent field waited
  | some requested =>
    have waiting := settles.waiting requested given
    refine ⟨fun waited => ?_, ?_, fun field waited => ?_⟩
    · rw [waiting] at waited
      exact plain requested given (List.mem_filter.1 waited).1
    · rw [settles.flags requested given, switch?]
      simp only [plain requested given, false_and, if_false]
      split
      · simp
      · simpa using h.unindexed
    · rw [waiting] at waited
      have wanted := (List.mem_filter.1 waited).1
      rw [settles.flags requested given]
      cases flag : before.flag? field with
      | none => simp [switch?, wanted, flag]
      | some indexed => cases indexed <;> simp [switch?, wanted, flag]

/-- Schemas that list the same fields in the same recorded order report the same fields. -/
theorem searchableFields_eq (same : ∀ field, after.Lists field ↔ before.Lists field)
    (declared : after.declared = before.declared) :
    (after.mapping indexName).searchableFields = (before.mapping indexName).searchableFields := by
  refine IndexMapping.searchableFields_congr sorted_mapping sorted_mapping declared fun field => ?_
  rw [mem_searchableFields, mem_searchableFields]
  exact same field

end Schema

namespace SettingsSpec

/-- The settings of an index that nothing is known of. -/
def unset : SettingsSpec := ⟨some [], none⟩

/-- Settings put on top of earlier ones: what is given replaces what was there. Each field is listed
once, and a list without facets is none. -/
def on (spec previous : SettingsSpec) : SettingsSpec where
  searchableFields := (spec.searchableFields.map List.eraseDups).or previous.searchableFields
  facets :=
    match spec.facets with
    | some facets => if facets.isEmpty then none else some facets
    | none => previous.facets

end SettingsSpec

/-- Settings that settle report themselves on top of the earlier ones. -/
theorem Schema.Settles.settings {spec : SettingsSpec} {before after : Schema} (settles : Settles spec before after)
    (plain : ∀ requested, spec.searchableFields = some requested → "*" ∉ requested) (indexName : Option String) :
    (after.mapping indexName).settings = spec.on (before.mapping indexName).settings := by
  have fields : some (after.mapping indexName).searchableFields =
      (spec.searchableFields.map List.eraseDups).or (some (before.mapping indexName).searchableFields) := by
    cases given : spec.searchableFields with
    | none =>
      obtain ⟨properties, templates, declared⟩ := settles.kept given
      refine congrArg some (searchableFields_eq (fun field => ?_) declared)
      rw [Lists, Lists, flag?, flag?, Schema.waiting, Schema.waiting, properties, templates]
    | some requested => exact congrArg some (settles.searchableFields given (plain requested given) indexName)
  have facets (schema : Schema) : (schema.mapping indexName).settings.facets =
      if schema.facets.isEmpty then none else some schema.facets := rfl
  have reported : (after.mapping indexName).settings.facets =
      (spec.on (before.mapping indexName).settings).facets := by
    rw [facets, settles.facets]
    unfold SettingsSpec.on
    cases spec.facets <;> rfl
  rw [IndexMapping.settings, fields, SettingsSpec.on]
  exact congrArg _ reported

/-- New documents do not change the settings. -/
theorem Schema.Grows.settings {before after : Schema} (grows : Grows before after) (tidy : Tidy before)
    (indexName : Option String) : (after.mapping indexName).settings = (before.mapping indexName).settings := by
  have fields : (after.mapping indexName).searchableFields = (before.mapping indexName).searchableFields :=
    searchableFields_eq (grows.lists_iff tidy.plain) grows.declared
  have facets : (after.mapping indexName).facets = (before.mapping indexName).facets := grows.facets
  rw [IndexMapping.settings, fields, facets]
  rfl

/-! ## Over whole runs -/

/-- The act saves settings that declare the field. -/
def Act.Declares (field : String) : Act → Prop
  | saveSettings spec => ∃ requested, spec.searchableFields = some requested ∧ field ∈ requested
  | _ => False

namespace Memory

/-- The settings of an index: those that it reports if there is storage for it, and otherwise none. -/
def HasSettings (memory : Memory) (index : TenantIndex) (settings : SettingsSpec) : Prop :=
  if (memory.aliases.get? index.physical).isSome then (runOn step index.getSettings memory).1 = .ok settings
  else settings = .unset

variable {memory ready : Memory} {index : TenantIndex} {now : Instant}

theorem tidy_after {run : List Request} (plain : ∀ request ∈ run, ¬ request.act.Declares "*") :
    Every Schema.Tidy (empty.after run) := by
  refine Every.after sound_empty (fun _ _ found => (nomatch found)) Schema.tidy_empty
    (fun _ _ tidy grows => tidy.grows grows) fun request mem spec before after saves tidy settles _ => ?_
  refine tidy.settles (fun requested given wanted => plain request mem ?_) settles
  rw [saves]
  exact ⟨requested, given, wanted⟩

/-- The settings of an index are those that its storage reports once it is ready. -/
theorem Ready.exists_settings (every : Every Schema.Tidy memory)
    (made : Ready memory index.physical now ready) {concrete : String} {content : StoredIndex}
    (resolved : ready.resolve index.physical = some concrete) (found : ready.indices.get? concrete = some content) :
    ∃ schema, Schema.Describes schema content.mappings ∧ schema.Tidy ∧
      memory.HasSettings index (schema.mapping (some concrete)).settings := by
  unfold HasSettings
  cases made with
  | there stands =>
    obtain ⟨schema, described, tidy⟩ := every concrete content found
    refine ⟨schema, described, tidy, ?_⟩
    rw [if_pos stands, index.runOn_getSettings resolved found described]
  | created unset unused =>
    rw [resolve_provision unset] at resolved
    cases resolved
    rw [provision_indices, if_pos rfl] at found
    cases found
    exact ⟨.empty, Schema.describes_empty, Schema.tidy_empty, by simp [unset]; rfl⟩

/-- What a save that succeeds does to the mapping of its index, and what documents do to it afterwards. -/
theorem mappings_of_saved (h : memory.Sound) {spec saved : SettingsSpec}
    (succeeded : memory.answer ⟨index, now, .saveSettings spec⟩ = .ok saved) {later : List Request}
    (documents : ∀ request ∈ later, request.act.isAdministrative = false) :
    ∃ ready concrete content, Ready memory index.physical now ready ∧
      ready.resolve index.physical = some concrete ∧ ready.indices.get? concrete = some content ∧
      ∀ schema, Schema.Describes schema content.mappings → ∃ settled grown,
        Schema.Settles spec schema settled ∧ Schema.Grows settled grown ∧
        runOn step (readMapping index.physical) (memory.next ⟨index, now, .saveSettings spec⟩) =
          (.ok (settled.mapping (some concrete)), memory.next ⟨index, now, .saveSettings spec⟩) ∧
        runOn step (readMapping index.physical) ((memory.next ⟨index, now, .saveSettings spec⟩).after later) =
          (.ok (grown.mapping (some concrete)), (memory.next ⟨index, now, .saveSettings spec⟩).after later) := by
  rcases index.runOn_saveSettings now h spec with
    ⟨-, error, run⟩ | ⟨ready, concrete, content, change, made, resolved, found, settles, run⟩
  · have failed : memory.answer ⟨index, now, .saveSettings spec⟩ = .error error := congrArg Prod.fst run
    rw [failed] at succeeded
    cases succeeded
  · refine ⟨ready, concrete, content, made, resolved, found, fun schema described => ?_⟩
    have left : memory.next ⟨index, now, .saveSettings spec⟩ = ready.modify concrete change := congrArg Prod.snd run
    obtain ⟨settled, described', settling, -⟩ := settles.schemas schema described
    -- The save settles the schema of the index, and the documents after it make that schema grow.
    have grows := (h.next ⟨index, now, .saveSettings spec⟩).grows_after documents
    rw [left] at grows ⊢
    have changed : (ready.modify concrete change).indices.get? concrete = some (change content) := by
      simp [modify, found]
    obtain ⟨grown, there, growth⟩ := grows.content concrete _ changed
    obtain ⟨last, described'', grew⟩ := growth settled described'
    obtain ⟨behind, stands⟩ := made.exists_behind
    have inside := ChangesOnly.modify ready concrete change
    have resolved' : (ready.modify concrete change).resolve index.physical = some concrete :=
      inside.resolve index.physical ▸ resolved
    exact ⟨settled, last, settling, grew, TenantIndex.runOn_readMapping resolved' changed described',
      TenantIndex.runOn_readMapping (grows.resolve (inside.aliases ▸ stands) resolved') there described''⟩

/-- A save that succeeds is reported by every later reading, as long as no settings are saved and no
index is moved or dropped. -/
theorem getSettings_of_saved (h : memory.Sound) (every : Every Schema.Tidy memory) {spec saved : SettingsSpec}
    (plain : ¬ (Act.saveSettings spec).Declares "*")
    (succeeded : memory.answer ⟨index, now, .saveSettings spec⟩ = .ok saved) {later : List Request}
    (documents : ∀ request ∈ later, request.act.isAdministrative = false) :
    ∃ previous, memory.HasSettings index previous ∧ ∀ reader now', reader.physical = index.physical →
      ((memory.next ⟨index, now, .saveSettings spec⟩).after later).answer ⟨reader, now', .getSettings⟩ =
        .ok (spec.on previous) := by
  have plain : ∀ requested, spec.searchableFields = some requested → "*" ∉ requested :=
    fun requested given wanted => plain ⟨requested, given, wanted⟩
  obtain ⟨ready, concrete, content, made, resolved, found, mappings⟩ := mappings_of_saved h succeeded documents
  obtain ⟨schema, described, tidy, has⟩ := made.exists_settings every resolved found
  obtain ⟨settled, grown, settling, grew, -, read⟩ := mappings schema described
  refine ⟨_, has, fun reader now' same => ?_⟩
  rw [← same] at read
  show (runOn step reader.getSettings _).1 = _
  rw [reader.runOn_getSettings_of_read read, grew.settings (tidy.settles plain settling), settling.settings plain]

/-- No field that is reported as searchable is switched off in the mapping. -/
theorem not_disabled_of_getSettings (h : memory.Sound) (every : Every Schema.Tidy memory) {settings : SettingsSpec}
    (reported : memory.answer ⟨index, now, .getSettings⟩ = .ok settings) :
    ∃ mapping, runOn step (readMapping index.physical) memory = (.ok mapping, memory) ∧
      ∀ field ∈ settings.searchableFields.getD [], (mapping.field? field).any FieldMapping.isDisabled = false := by
  have reported : (runOn step index.getSettings memory).1 = .ok settings := reported
  cases resolved : memory.resolve index.physical with
  | none =>
    have failed : runOn step index.getSettings memory = (.error (.indexNotFound index.physical), memory) :=
      runOn_bind_error step memory (TenantIndex.runOn_readMapping_missing resolved)
    rw [failed] at reported
    cases reported
  | some concrete =>
    obtain ⟨content, found⟩ := h.consistent.exists_content resolved
    obtain ⟨schema, described, tidy⟩ := every concrete content found
    rw [index.runOn_getSettings resolved found described] at reported
    cases reported
    refine ⟨_, TenantIndex.runOn_readMapping resolved found described, fun field listed => ?_⟩
    have lists : schema.Lists field := Schema.mem_searchableFields.1 listed
    rw [← Bool.not_eq_true, Schema.any_isDisabled]
    exact tidy.not_disabled lists

/-- In a run that never declares a field called by the pattern for all names, settings that are saved
are the settings in effect, on top of the earlier ones, whatever documents are written afterwards; and
no field that is reported is switched off. -/
theorem settings_round_trip {run : List Request} (plain : ∀ request ∈ run, ¬ request.act.Declares "*") :
    (∀ index now spec saved later, ¬ (Act.saveSettings spec).Declares "*" →
      (empty.after run).answer ⟨index, now, .saveSettings spec⟩ = .ok saved →
      (∀ request ∈ later, request.act.isAdministrative = false) →
      ∃ previous, (empty.after run).HasSettings index previous ∧ ∀ reader now', reader.physical = index.physical →
        (((empty.after run).next ⟨index, now, .saveSettings spec⟩).after later).answer
          ⟨reader, now', .getSettings⟩ = .ok (spec.on previous)) ∧
    ∀ index now settings, (empty.after run).answer ⟨index, now, .getSettings⟩ = .ok settings →
      ∃ mapping, runOn step (readMapping index.physical) (empty.after run) = (.ok mapping, empty.after run) ∧
        ∀ field ∈ settings.searchableFields.getD [], (mapping.field? field).any FieldMapping.isDisabled = false := by
  have sound := sound_empty.after run
  have every := tidy_after plain
  refine ⟨fun index now spec saved later declares succeeded documents => ?_, fun index now settings reported => ?_⟩
  · exact getSettings_of_saved sound every declares succeeded documents
  · exact not_disabled_of_getSettings sound every reported

/-- Settings saved after one document and read after another. -/
theorem saved_fields_are_reported :
    (∀ request ∈ [Request.atEpoch "acme" "products" (.put (some "1") (.obj [("title", .str "Lamp")]))],
      ¬ request.act.Declares "*") ∧
    (((empty.after [.atEpoch "acme" "products" (.put (some "1") (.obj [("title", .str "Lamp")]))]).next
          (.atEpoch "acme" "products" (.saveSettings ⟨some ["title", "material", "title"], some []⟩))).after
        [.atEpoch "acme" "products" (.put none (.obj [("material", .str "Oak")]))]).answer
      (.atEpoch "acme" "products" .getSettings) = .ok ⟨some ["title", "material"], none⟩ := by
  have plain : ∀ request ∈ [Request.atEpoch "acme" "products" (.put (some "1") (.obj [("title", .str "Lamp")]))],
      ¬ request.act.Declares "*" := by
    intro request mem
    rw [List.mem_singleton.1 mem]
    exact id
  have declares : ¬ (Act.saveSettings ⟨some ["title", "material", "title"], some []⟩).Declares "*" := by
    rintro ⟨requested, given, wanted⟩
    cases given
    simp at wanted
  have documents : ∀ request ∈ [Request.atEpoch "acme" "products" (.put none (.obj [("material", .str "Oak")]))],
      request.act.isAdministrative = false := by
    intro request mem
    rw [List.mem_singleton.1 mem]
    rfl
  obtain ⟨previous, -, reported⟩ :=
    (settings_round_trip plain).1 ⟨.default, "acme", "products"⟩ .epoch _
      ⟨some ["title", "material", "title"], some []⟩ _ declares (by rfl) documents
  exact ⟨plain, reported _ _ rfl⟩

end Memory

end SearchTenancy

import Mathlib.Tactic.Convert
import SearchTenancy.Proofs.Mapping.Schema

/-!
# Putting settings into effect

What an update of the mapping does to a schema (`Schema.Settles`). Facets alone change
the record only. An update for searchable fields switches fields that are mapped
already, replaces the templates and records the new order, so that exactly the
requested fields are searchable afterwards (`Settles.lists_iff`). The types and
sub-fields of mapped fields stay as they are (`Schema.Equips`).
-/

namespace SearchTenancy

open StoredIndex MappingUpdate IndexMapping

/-- A field after a choice of whether it is indexed, if one is made. -/
def FieldMapping.switched (choice : Option Bool) (field : FieldMapping) : FieldMapping :=
  { field with index := choice.or field.index }

namespace Schema

/-- How an update for searchable fields switches a field that is mapped, if it does. -/
def switch? (schema : Schema) (requested : List String) (field : String) : Option Bool :=
  if schema.Lists field ∧ field ∉ requested ∧ (schema.properties.get? field).isSome then some false
  else if field ∈ requested ∧ schema.flag? field = some false then some true
  else none

/-- The second schema comes about when settings are put into effect on the first. -/
structure Settles (spec : SettingsSpec) (before after : Schema) : Prop where
  facets : after.facets = spec.facets.getD before.facets
  kept : spec.searchableFields = none →
    after.properties = before.properties ∧ after.templates = before.templates ∧ after.declared = before.declared
  declared : ∀ requested, spec.searchableFields = some requested → after.declared = requested
  waiting : ∀ requested, spec.searchableFields = some requested →
    after.waiting = requested.filter fun field => before.flag? field ≠ some true
  flags : ∀ requested, spec.searchableFields = some requested → ∀ field,
    after.flag? field = (before.switch? requested field).or (before.flag? field)

/-- The requested fields are searchable, except that one called by the pattern for all names has to be mapped. -/
theorem Settles.lists_iff_requested {spec : SettingsSpec} {before after : Schema} (h : Settles spec before after)
    {requested : List String} (given : spec.searchableFields = some requested) (field : String) :
    after.Lists field ↔ field ∈ requested ∧ (field = "*" → after.flag? field = some true) := by
  unfold Lists
  rw [h.flags requested given, h.waiting requested given]
  by_cases wanted : field ∈ requested
  · cases flag : before.flag? field with
    | none => simp [switch?, wanted, flag]
    | some indexed => cases indexed <;> simp [switch?, wanted, flag]
  · by_cases indexed : before.flag? field = some true
    · have mapped : (before.properties.get? field).isSome := by
        cases found : before.properties.get? field with
        | none => simp [flag?, found] at indexed
        | some _ => rfl
      simp [switch?, wanted, Lists, indexed, mapped]
    · simp only [switch?, wanted, not_false_eq_true, true_and, false_and, if_false, List.mem_filter, or_false,
        iff_false]
      split
      · simp
      · simpa using indexed

/-- Exactly the requested fields are searchable, unless the pattern for all names is one of them. -/
theorem Settles.lists_iff {spec : SettingsSpec} {before after : Schema} (h : Settles spec before after)
    {requested : List String} (given : spec.searchableFields = some requested) (plain : "*" ∉ requested)
    (field : String) : after.Lists field ↔ field ∈ requested := by
  rw [h.lists_iff_requested given field]
  refine ⟨And.left, fun wanted => ⟨wanted, ?_⟩⟩
  rintro rfl
  exact absurd wanted plain

/-- The requested fields are reported, each once, in the order in which they are requested. -/
theorem Settles.searchableFields {spec : SettingsSpec} {before after : Schema} (h : Settles spec before after)
    {requested : List String} (given : spec.searchableFields = some requested) (plain : "*" ∉ requested)
    (indexName : Option String) : (after.mapping indexName).searchableFields = requested.eraseDups := by
  have declared : (after.mapping indexName).declaredSearchable = requested := h.declared requested given
  rw [IndexMapping.searchableFields_eq_eraseDups sorted_mapping, declared]
  intro field
  rw [mem_searchableFields, declared]
  exact h.lists_iff given plain field

/-! ## Switched properties -/

/-- The entries of an update switch the chosen fields, each once; their types stay. -/
structure Switches (current : IndexMapping) (entries : Members) (choice : String → Option Bool) : Prop where
  sorted : entries.Sorted
  chosen : ∀ field indexed, choice field = some indexed →
    ∃ existing, current.field? field = some existing ∧
      Entries.get? entries field = some (propertyEntry existing.fieldType indexed)
  others : ∀ field, choice field = none → Entries.get? entries field = none

theorem Switches.insert {current : IndexMapping} {entries : Members} {choice : String → Option Bool}
    (h : Switches current entries choice) {field : String} {existing : FieldMapping}
    (found : current.field? field = some existing) (indexed : Bool) :
    Switches current (Entries.insert entries field (propertyEntry existing.fieldType indexed))
      fun other => if field = other then some indexed else choice other where
  sorted := h.sorted.insert ..
  chosen other flag wanted := by
    rw [Entries.get?_insert]
    split at wanted
    · rename_i same
      cases wanted
      exact ⟨existing, same ▸ found, if_pos same⟩
    · rw [if_neg ‹_›]
      exact h.chosen other flag wanted
  others other unwanted := by
    rw [Entries.get?_insert]
    split at unwanted
    · cases unwanted
    · rw [if_neg ‹_›]
      exact h.others other unwanted

/-- Switching a list of fields, those of them that are mapped and affected. -/
theorem Switches.foldl {current : IndexMapping} {choice : String → Option Bool} {entries : Members}
    (h : Switches current entries choice) (indexed : Bool) (affected : FieldMapping → Bool) (fields : List String) :
    Switches current
      (fields.foldl (fun entries field =>
        match current.field? field with
        | some existing =>
          if affected existing then Entries.insert entries field (propertyEntry existing.fieldType indexed)
          else entries
        | none => entries) entries)
      fun field => if field ∈ fields ∧ (current.field? field).any affected then some indexed else choice field := by
  induction fields generalizing entries choice with
  | nil => simpa using h
  | cons first rest ih =>
    rw [List.foldl_cons]
    -- A field that is not mapped or not affected makes no difference to the choice.
    have unswitched (not : (current.field? first).any affected = false) (field : String) :
        (field ∈ first :: rest ∧ (current.field? field).any affected) ↔
          (field ∈ rest ∧ (current.field? field).any affected) := by
      by_cases same : field = first
      · subst same; simp [not]
      · simp [same]
    cases found : current.field? first with
    | none =>
      simp only [unswitched (by rw [found]; rfl)]
      exact ih h
    | some existing =>
      by_cases wanted : affected existing
      · simp only [wanted, if_true]
        convert ih (h.insert found indexed) using 2
        rename_i field
        by_cases same : field = first
        · subst same; simp [found, wanted]
        · simp [same, Ne.symm same]
      · simp only [unswitched (by rw [found]; simpa using wanted), wanted]
        exact ih h

/-- The entries for requested fields. -/
theorem switches_propertiesFor (schema : Schema) (indexName : Option String) (requested : List String) :
    Switches (schema.mapping indexName)
      (propertiesFor requested
        ((schema.mapping indexName).searchableFields.filter fun field => !requested.contains field)
        (schema.mapping indexName))
      (schema.switch? requested) := by
  have none : Switches (schema.mapping indexName) [] fun _ => none :=
    ⟨List.Pairwise.nil, fun _ _ h => (nomatch h), fun _ _ => rfl⟩
  -- Requested fields are switched on first; the listed ones that are not requested go off.
  have on := none.foldl true FieldMapping.isDisabled requested
  have off := on.foldl false (fun _ => true)
    ((schema.mapping indexName).searchableFields.filter fun field => !requested.contains field)
  have mapped (field : String) : ((schema.mapping indexName).field? field).any (fun _ => true) ↔
      (schema.properties.get? field).isSome := by
    rw [field?_mapping, mapped?]
    cases schema.properties.get? field <;> simp
  have unlisted (field : String) : (!requested.contains field) = true ↔ field ∉ requested := by simp
  simp only [List.mem_filter, mem_searchableFields, mapped, any_isDisabled, unlisted, and_assoc] at off
  exact off

/-- A switched entry replaces what its field says about being indexed, and nothing else. -/
theorem mergeProperty_propertyEntry {properties : Dict Members} {field : String} {existing : FieldMapping}
    (found : mapped? properties field = some existing) (indexed : Bool) :
    ∃ merged, mergeProperty (write properties) field (propertyEntry existing.fieldType indexed) = write merged ∧
      ∀ other, mapped? merged other =
        (mapped? properties other).map (FieldMapping.switched (if field = other then some indexed else none)) := by
  obtain ⟨parameters, there, read⟩ := Option.map_eq_some_iff.1 found
  have old : Entries.get? (write properties) field = some (.obj parameters) := by
    show (properties.map Json.obj).get? field = _
    rw [Dict.get?_map, there]
    rfl
  have written (parameters : Members) : Entries.insert (write properties) field (.obj parameters) =
      write (properties.insert field parameters) := by
    rw [write, write, Dict.map_insert]
    rfl
  simp only [mergeProperty, propertyEntry, old]
  refine ⟨_, written _, fun other => ?_⟩
  by_cases same : field = other
  · subst same
    simp only [mapped?, Dict.get?_insert_self, there, Option.map_some, if_true, FieldMapping.switched, ← read]
    cases fieldType : (Entries.get? parameters "type").bind Json.asString? with
    | none => simp [fieldOf, Json.get?, Json.optionalMember, fieldType, indexFlag?]
    | some name => simp [fieldOf, Json.get?, Json.optionalMember, fieldType, indexFlag?, Json.asString?]
  · have unswitched : FieldMapping.switched none = id := rfl
    simp [mapped?, same, unswitched]

/-- Merging entries that switch fields. -/
theorem Switches.merge {current : IndexMapping} {entries : Members} {choice : String → Option Bool}
    (h : Switches current entries choice) {properties : Dict Members}
    (mapped : ∀ field, (choice field).isSome → mapped? properties field = current.field? field) :
    ∃ merged, entries.foldl (fun properties change => mergeProperty properties change.1 change.2)
        (write properties) = write merged ∧
      ∀ field, mapped? merged field = (mapped? properties field).map (FieldMapping.switched (choice field)) := by
  induction entries generalizing choice properties with
  | nil =>
    refine ⟨properties, rfl, fun field => ?_⟩
    cases chosen : choice field with
    | none => exact Option.map_id'.symm
    | some indexed =>
      obtain ⟨_, -, found⟩ := h.chosen field indexed chosen
      cases found
  | cons entry rest ih =>
    obtain ⟨first, value⟩ := entry
    obtain ⟨above, sorted⟩ := List.pairwise_cons.1 h.sorted
    -- The entries are sorted, so no later one is about the first field.
    have fresh : Entries.get? rest first = none := by
      cases found : Entries.get? rest first with
      | none => rfl
      | some value => exact absurd (above _ (Entries.mem_of_get?_eq_some found)) (String.lt_irrefl _)
    obtain ⟨indexed, chosen⟩ : ∃ indexed, choice first = some indexed := by
      cases chosen : choice first with
      | some indexed => exact ⟨indexed, rfl⟩
      | none => simpa [Entries.get?] using h.others first chosen
    obtain ⟨existing, known, entry⟩ := h.chosen first indexed chosen
    have value_eq : value = propertyEntry existing.fieldType indexed := by simpa [Entries.get?] using entry
    subst value_eq
    have left : Switches current rest fun field => if first = field then none else choice field := by
      refine ⟨sorted, fun field flag wanted => ?_, fun field unwanted => ?_⟩
      · split at wanted
        · cases wanted
        · simpa [Entries.get?, *] using h.chosen field flag wanted
      · split at unwanted
        · subst_vars; exact fresh
        · simpa [Entries.get?, *] using h.others field unwanted
    have here : mapped? properties first = some existing := by rw [mapped first (by simp [chosen]), known]
    obtain ⟨middle, merged, switched⟩ := mergeProperty_propertyEntry here indexed
    have still (field : String) (other : first ≠ field) : mapped? middle field = mapped? properties field := by
      rw [switched field, if_neg other]
      exact Option.map_id'
    obtain ⟨last, all, others⟩ := ih left fun field later => by
      split at later
      · cases later
      · rw [still field ‹_›]
        exact mapped field later
    refine ⟨last, ?_, fun field => ?_⟩
    · rw [List.foldl_cons, merged]
      exact all
    · rw [others]
      by_cases same : first = field
      · subst same
        rw [switched first, if_pos rfl, if_pos rfl, chosen]
        exact Option.map_map ..
      · rw [if_neg same, still field same]

/-! ## Updates -/

variable {schema : Schema} {mappings : Members}

theorem applyUpdate_of_ne {key : String} (h : key ≠ "properties") (value : Json) :
    applyUpdate mappings (key, value) = Entries.insert mappings key value := by
  unfold applyUpdate
  split
  · rename_i same
    cases same
    exact absurd rfl h
  · rename_i same
    cases same
    rfl

/-- Templates and record are replaced. -/
theorem Describes.replaced (h : Describes schema mappings) (subfield : String)
    (waiting declared : List String) (facets : List FacetSpec) :
    Describes { schema with templates := some (subfield, waiting), declared := declared, facets := facets }
      (Entries.insert (Entries.insert mappings "_meta" (recordOf declared facets)) "dynamic_templates"
        (.arr (templatesOf subfield waiting))) where
  properties := by simpa using h.properties
  templates := by simp
  record := by simp

/-- Only mapped fields are switched. -/
theorem mapped_of_switch? {requested : List String} {field : String} {indexed : Bool}
    (switched : schema.switch? requested field = some indexed) : (mapped? schema.properties field).isSome := by
  rw [mapped?, Option.isSome_map]
  unfold switch? at switched
  split at switched
  · rename_i off
    exact off.2.2
  · split at switched
    · rename_i on
      cases found : schema.properties.get? field with
      | none => simp [flag?, found] at on
      | some _ => rfl
    · cases switched

/-- An update for searchable fields applies, and settles them, also on a mapping with more fields than were seen
when it was planned. -/
theorem Describes.forFields (h : Describes schema mappings) {seen : Schema}
    (kept : ∀ field, (mapped? seen.properties field).isSome →
      mapped? schema.properties field = mapped? seen.properties field)
    (requested : List String) (facets : List FacetSpec) (indexName : Option String) (subfield : String) :
    ∃ members settled, (MappingUpdate.forFields requested facets (seen.mapping indexName) subfield).body =
        .obj members ∧ Describes settled (members.foldl applyUpdate mappings) ∧
      settled.declared = requested ∧ settled.facets = facets ∧
      settled.templates = some (subfield, requested.filter fun field => seen.flag? field ≠ some true) ∧
      ∀ field, mapped? settled.properties field =
        (mapped? schema.properties field).map (FieldMapping.switched (seen.switch? requested field)) := by
  have switches := switches_propertiesFor seen indexName requested
  generalize entriesEq : propertiesFor requested
    ((seen.mapping indexName).searchableFields.filter fun field => !requested.contains field)
    (seen.mapping indexName) = entries at switches
  have waiting : (requested.filter fun field =>
      !(((seen.mapping indexName).field? field).any FieldMapping.isSearchable)) =
      requested.filter fun field => seen.flag? field ≠ some true := by
    refine List.filter_congr fun field _ => ?_
    rw [Bool.eq_iff_iff, Bool.not_eq_true', ← Bool.not_eq_true, any_isSearchable]
    simp
  have replaced := h.replaced subfield (requested.filter fun field => seen.flag? field ≠ some true) requested facets
  generalize afterEq : ({ schema with
    templates := some (subfield, requested.filter fun field => seen.flag? field ≠ some true)
    declared := requested
    facets := facets } : Schema) = after at replaced
  have mapped : after.properties = schema.properties := by rw [← afterEq]
  unfold MappingUpdate.forFields
  simp only [entriesEq, templatesFor, waiting]
  -- An update that switches no field is sent without properties.
  by_cases nothing : entries.isEmpty
  · refine ⟨_, after, rfl, ?_, by rw [← afterEq], by rw [← afterEq], by rw [← afterEq], fun field => ?_⟩
    · simp only [nothing, if_true, Json.optionalMember, List.append_nil, List.foldl_cons, List.foldl_nil,
        applyUpdate_of_ne (show "_meta" ≠ "properties" by decide),
        applyUpdate_of_ne (show "dynamic_templates" ≠ "properties" by decide)]
      exact replaced
    · rw [mapped]
      cases switched : seen.switch? requested field with
      | none => exact Option.map_id'.symm
      | some indexed =>
        obtain ⟨_, -, found⟩ := switches.chosen field indexed switched
        rw [List.isEmpty_iff.1 nothing] at found
        cases found
  · -- Only fields that were mapped already are switched.
    have known (field : String) (chosen : (seen.switch? requested field).isSome) :
        mapped? schema.properties field = (seen.mapping indexName).field? field := by
      obtain ⟨indexed, switched⟩ := Option.isSome_iff_exists.1 chosen
      rw [field?_mapping, kept field (mapped_of_switch? switched)]
    obtain ⟨merged, written, switched⟩ := switches.merge known
    refine ⟨_, { after with properties := merged }, rfl, ?_, by rw [← afterEq], by rw [← afterEq],
      by rw [← afterEq], switched⟩
    rw [← mapped] at written
    simp only [nothing, Json.optionalMember, List.cons_append, List.nil_append, List.foldl_cons,
      applyUpdate_of_ne (show "_meta" ≠ "properties" by decide),
      applyUpdate_of_ne (show "dynamic_templates" ≠ "properties" by decide)]
    exact replaced.updateProperties written

/-- What the properties say about being indexed once some fields are switched. -/
theorem flag?_switched {seen settled : Schema}
    (kept : ∀ field, (mapped? seen.properties field).isSome →
      mapped? schema.properties field = mapped? seen.properties field) {requested : List String}
    (switched : ∀ field, mapped? settled.properties field =
      (mapped? schema.properties field).map (FieldMapping.switched (seen.switch? requested field))) (field : String) :
    settled.flag? field = (seen.switch? requested field).or (schema.flag? field) := by
  rw [flag?_eq, flag?_eq, switched]
  cases mapped : mapped? schema.properties field with
  | some _ => rfl
  | none =>
    cases choice : seen.switch? requested field with
    | none => rfl
    | some indexed =>
      have known := mapped_of_switch? choice
      rw [← kept field known, mapped] at known
      cases known

/-- No field changes but in whether it is indexed, and templates add the given sub-field or are the old
ones. -/
structure Equips (subfield : String) (before after : Schema) : Prop where
  fields : ∀ field, ∃ choice, mapped? after.properties field =
    (mapped? before.properties field).map (FieldMapping.switched choice)
  templates : after.templates = before.templates ∨ ∃ waiting, after.templates = some (subfield, waiting)

theorem Equips.of_kept (subfield : String) {after : Schema} (properties : after.properties = schema.properties)
    (templates : after.templates = schema.templates) : Equips subfield schema after where
  fields field := ⟨none, by rw [properties]; exact Option.map_id'.symm⟩
  templates := .inl templates

/-- The planned update applies, and puts the settings into effect. -/
theorem Describes.plan (h : Describes schema mappings) (spec : SettingsSpec) (indexName : Option String)
    (subfield : String) :
    match MappingUpdate.plan spec (schema.mapping indexName) subfield with
    | none => Settles spec schema schema
    | some update => ∃ members settled, update.body = .obj members ∧
        Describes settled (members.foldl applyUpdate mappings) ∧ Settles spec schema settled ∧
        Equips subfield schema settled := by
  obtain ⟨searchable, facets⟩ := spec
  cases searchable with
  | none =>
    cases facets with
    | none =>
      exact ⟨rfl, fun _ => ⟨rfl, rfl, rfl⟩, fun _ h => (nomatch h), fun _ h => (nomatch h), fun _ h => (nomatch h)⟩
    | some facets =>
      refine ⟨[("_meta", recordOf schema.declared facets)], { schema with facets := facets }, rfl, ⟨?_, ?_, ?_⟩,
        ⟨rfl, fun _ => ⟨rfl, rfl, rfl⟩, fun _ h => (nomatch h), fun _ h => (nomatch h), fun _ h => (nomatch h)⟩,
        .of_kept subfield rfl rfl⟩
      · simpa [applyUpdate_of_ne] using h.properties
      · simpa [applyUpdate_of_ne] using h.templates
      · simp [applyUpdate_of_ne]
  | some requested =>
    have kept : ∀ field, (mapped? schema.properties field).isSome →
        mapped? schema.properties field = mapped? schema.properties field := fun _ _ => rfl
    obtain ⟨members, settled, body, described, declared, recorded, templates, switched⟩ :=
      h.forFields kept requested (facets.getD schema.facets) indexName subfield
    have flags := flag?_switched kept switched
    refine ⟨members, settled, body, described, ⟨recorded, fun h => (nomatch h), ?_, ?_, ?_⟩,
      fun field => ⟨_, switched field⟩, .inr ⟨_, templates⟩⟩
    · rintro _ ⟨⟩; exact declared
    · rintro _ ⟨⟩
      rw [waiting, templates]
      rfl
    · rintro _ ⟨⟩; exact flags

/-- A schema with what another one records. -/
def withRecordOf (schema seen : Schema) : Schema :=
  { schema with declared := seen.declared, facets := seen.facets }

/-- Every plan replaces the record before anything else. -/
theorem plan_body {spec : SettingsSpec} {current : IndexMapping} {subfield : String} {update : MappingUpdate}
    (planned : MappingUpdate.plan spec current subfield = some update) :
    ∃ record rest, update.body = .obj (("_meta", record) :: rest) := by
  obtain ⟨searchable, facets⟩ := spec
  cases searchable with
  | none =>
    cases facets with
    | none => cases planned
    | some facets =>
      cases planned
      exact ⟨_, _, rfl⟩
  | some requested =>
    cases planned
    exact ⟨_, _, rfl⟩

/-- A plan made for an earlier schema brings the record back that was seen then. Otherwise it settles as if
it were made now, provided that it would be the same plan. -/
theorem Describes.plan_late (h : Describes schema mappings) (seen : Schema) {spec : SettingsSpec}
    {indexName : Option String} {subfield : String} {update : MappingUpdate}
    (planned : MappingUpdate.plan spec (seen.mapping indexName) subfield = some update)
    (same : (schema.withRecordOf seen).mapping indexName = seen.mapping indexName ∨ spec.searchableFields = none) :
    ∃ members settled, update.body = .obj members ∧ Describes settled (members.foldl applyUpdate mappings) ∧
      Settles spec (schema.withRecordOf seen) settled := by
  -- The record in the mapping does not matter, since the plan replaces it.
  have recorded : Describes (schema.withRecordOf seen)
      (Entries.insert mappings "_meta" (recordOf seen.declared seen.facets)) :=
    ⟨by simpa [withRecordOf] using h.properties, by simpa [withRecordOf] using h.templates,
      .inl (by simp [withRecordOf])⟩
  have plans := recorded.plan spec indexName subfield
  have again : MappingUpdate.plan spec ((schema.withRecordOf seen).mapping indexName) subfield = some update := by
    rw [← planned]
    rcases same with same | facets_only
    · rw [same]
    · obtain ⟨searchable, facets⟩ := spec
      cases facets_only
      cases facets <;> rfl
  rw [again] at plans
  obtain ⟨members, settled, body, described, settles, -⟩ := plans
  obtain ⟨record, rest, written⟩ := plan_body planned
  obtain rfl : ("_meta", record) :: rest = members := Json.obj.inj (written.symm.trans body)
  refine ⟨_, settled, body, ?_, settles⟩
  rw [List.foldl_cons, applyUpdate_of_ne (by decide), Entries.insert_insert_self] at described
  rwa [List.foldl_cons, applyUpdate_of_ne (by decide)]

/-- What is read of a mapping does not depend on the schema that describes it. -/
theorem Describes.mapping_eq {other : Schema} (h : Describes schema mappings) (h' : Describes other mappings)
    (indexName : Option String) : other.mapping indexName = schema.mapping indexName := by
  have same : Except.ok (schema.mapping none) = (Except.ok (other.mapping none) : Except AnswerFault _) := by
    rw [← h.ofMappings, ← h'.ofMappings]
  have named (schema : Schema) :
      schema.mapping indexName = { schema.mapping none with indexName := indexName } := rfl
  rw [named, named schema, Except.ok.inj same]

end Schema

/-- Settings are put into effect on whatever describes the mapping of an index, for templates that add the
given sub-field. The documents of the index stay. -/
structure StoredIndex.Settles (subfield : String) (spec : SettingsSpec) (before after : StoredIndex) : Prop where
  documents : after.documents = before.documents
  schemas : ∀ schema, Schema.Describes schema before.mappings →
    ∃ settled, Schema.Describes settled after.mappings ∧ Schema.Settles spec schema settled ∧
      Schema.Equips subfield schema settled

end SearchTenancy

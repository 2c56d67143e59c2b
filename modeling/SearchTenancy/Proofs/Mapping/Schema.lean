import SearchTenancy.Backend.Memory
import SearchTenancy.Facet.Aggregation
import SearchTenancy.Mapping.Update
import SearchTenancy.Proofs.Json.Record
import SearchTenancy.Proofs.Mapping.Searchable

/-!
# What a stored mapping says

The mappings that the in-memory backend comes to hold are described by a `Schema`: the
properties, the templates, and the record of the declared order and the facets
(`Schema.Describes`). A described mapping is read without failure
(`Describes.ofMappings`). New documents make its properties grow, by the templates
(`Describes.mapFields`).
-/

namespace SearchTenancy

open StoredIndex MappingUpdate IndexMapping

theorem FacetSpec.read_toJson (facet : FacetSpec) : facet.toJson.readAs read = .ok facet := by
  obtain ⟨field, order⟩ := facet
  cases order <;> rfl

theorem Dict.map_insert {α β : Type} (f : α → β) (dict : Dict α) (key : String) (value : α) :
    (dict.insert key value).map f = (dict.map f).insert key (f value) := by
  refine ext_get? fun other => ?_
  rw [get?_map, get?_insert, get?_insert, get?_map]
  split <;> rfl

/-- Text has one of the sub-fields. -/
def FieldMapping.HasKeyword (names : List String) (field : FieldMapping) : Prop :=
  field.fieldType = some "text" → ∃ name ∈ names, field.hasSubfield name

/-- The properties, templates and records of a mapping. -/
structure Schema where
  properties : Dict Members
  /-- The sub-field that the templates add to strings, and the fields that wait for one of them. -/
  templates : Option (String × List String)
  declared : List String
  facets : List FacetSpec

namespace Schema

/-- The schema of an index that nothing is stored in. -/
def empty : Schema := ⟨.empty, none, [], []⟩

/-- The fields that a template waits for. -/
def waiting (schema : Schema) : List String := (schema.templates.map (·.2)).getD []

/-- What is read of the parameters of a field. -/
def mapped? (properties : Dict Members) (field : String) : Option FieldMapping :=
  (properties.get? field).map fun parameters => fieldOf (.obj parameters)

/-- What the parameters of a field say about its being indexed. -/
def flagOf (parameters : Members) : Option Bool := (Entries.get? parameters "index").bind indexFlag?

/-- Whether a field is indexed, if it is mapped and its parameters say so. -/
def flag? (schema : Schema) (field : String) : Option Bool := (schema.properties.get? field).bind flagOf

/-- The field is searchable: it is indexed, or a template of its own waits for it. -/
def Lists (schema : Schema) (field : String) : Prop :=
  schema.flag? field = some true ∨ field ∈ schema.waiting ∧ field ≠ "*"

instance (schema : Schema) (field : String) : Decidable (schema.Lists field) := inferInstanceAs (Decidable (_ ∨ _))

/-- The written templates. -/
def templatesOf (subfield : String) (waiting : List String) : List Json :=
  waiting.map (searchableTemplate subfield) ++ [stringsTemplate subfield, otherTemplate]

/-- The written properties. -/
def write (properties : Dict Members) : Members := (properties.map Json.obj).entries

/-- The mapping of an index is the one that the schema stands for. -/
structure Describes (schema : Schema) (mappings : Members) : Prop where
  properties : (Entries.get? mappings "properties").getD .empty = .obj (write schema.properties)
  templates : Entries.get? mappings "dynamic_templates" =
    schema.templates.map fun (subfield, waiting) => .arr (templatesOf subfield waiting)
  record : Entries.get? mappings "_meta" = some (recordOf schema.declared schema.facets) ∨
    Entries.get? mappings "_meta" = none ∧ schema.declared = [] ∧ schema.facets = []

theorem describes_empty : Describes .empty [] := ⟨rfl, rfl, .inr ⟨rfl, rfl, rfl⟩⟩

/-! ## Reading -/

/-- What is read of a schema. -/
def mapping (schema : Schema) (indexName : Option String) : IndexMapping where
  indexName := indexName
  properties := (schema.properties.map fun parameters => fieldOf (.obj parameters)).entries
  dynamicTemplates :=
    ((schema.templates.map fun (subfield, waiting) => templatesOf subfield waiting).getD []).filterMap templateOf?
  declaredSearchable := schema.declared
  facets := schema.facets

variable {schema : Schema} {mappings : Members} {indexName : Option String}

theorem sorted_mapping : (schema.mapping indexName).properties.Sorted := Dict.sorted _

theorem mapped?_eq_none {properties : Dict Members} {field : String} :
    mapped? properties field = none ↔ properties.get? field = none := Option.map_eq_none_iff

theorem flag?_eq (field : String) : schema.flag? field = (mapped? schema.properties field).bind FieldMapping.index := by
  unfold flag? mapped?
  cases schema.properties.get? field <;> rfl

theorem field?_mapping (field : String) :
    (schema.mapping indexName).field? field = mapped? schema.properties field := by
  show (schema.properties.map fun parameters => fieldOf (.obj parameters)).get? field = _
  exact Dict.get?_map ..

theorem any_isSearchable (field : String) :
    ((schema.mapping indexName).field? field).any FieldMapping.isSearchable ↔ schema.flag? field = some true := by
  rw [field?_mapping, flag?_eq]
  cases mapped? schema.properties field with
  | none => simp
  | some mapped => exact beq_iff_eq

theorem any_isDisabled (field : String) :
    ((schema.mapping indexName).field? field).any FieldMapping.isDisabled ↔ schema.flag? field = some false := by
  rw [field?_mapping, flag?_eq]
  cases mapped? schema.properties field with
  | none => simp
  | some mapped => exact beq_iff_eq

/-- The templates of the waiting fields are read before the general ones. -/
theorem dynamicTemplates_mapping {subfield : String} {waiting : List String}
    (templates : schema.templates = some (subfield, waiting)) :
    (schema.mapping indexName).dynamicTemplates =
      waiting.map (fun field => (⟨field, some field, some true⟩ : DynamicTemplate)) ++
        [⟨unsearchableStringsTemplate, some "*", some false⟩, ⟨catchAllTemplate, some "*", some false⟩] := by
  have read (field : String) :
      templateOf? (searchableTemplate subfield field) = some ⟨field, some field, some true⟩ := rfl
  have rest : [stringsTemplate subfield, otherTemplate].filterMap templateOf? =
      [⟨unsearchableStringsTemplate, some "*", some false⟩, ⟨catchAllTemplate, some "*", some false⟩] := rfl
  have fields : (waiting.map (searchableTemplate subfield)).filterMap templateOf? =
      waiting.map fun field => ⟨field, some field, some true⟩ := by
    rw [List.filterMap_map]
    induction waiting with
    | nil => rfl
    | cons field others ih => simp [read]
  simp only [mapping, templates, Option.map_some, Option.getD_some, templatesOf, List.filterMap_append, rest, fields]

/-- The general templates match all names, so they are no templates of a field. -/
theorem templatedFields_mapping : (schema.mapping indexName).templatedFields = schema.waiting.filter (· != "*") := by
  unfold templatedFields waiting
  cases templates : schema.templates with
  | none => simp [mapping, templates]
  | some both =>
    rw [dynamicTemplates_mapping templates]
    simp [List.filter_map, Function.comp_def, DynamicTemplate.isCatchAll, bne]

theorem mem_searchableFields {field : String} :
    field ∈ (schema.mapping indexName).searchableFields ↔ schema.Lists field := by
  rw [IndexMapping.mem_searchableFields sorted_mapping, any_isSearchable, templatedFields_mapping, Lists]
  simp

theorem filterMap_asString? (strings : List String) : (strings.map Json.str).filterMap Json.asString? = strings := by
  induction strings with
  | nil => rfl
  | cons first rest ih => simp [Json.asString?, ih]

/-- A described mapping is read without failure. -/
theorem Describes.ofMappings (h : Describes schema mappings) :
    IndexMapping.ofMappings (.obj mappings) = .ok (schema.mapping none) := by
  have properties : propertiesOf (.obj mappings) = .ok (schema.mapping none).properties := by
    have written := h.properties
    unfold propertiesOf
    simp only [Json.get?]
    cases found : Entries.get? mappings "properties" with
    | none =>
      rw [found] at written
      -- A mapping without properties is that of a schema without properties.
      have nothing : [] = write schema.properties := Json.obj.inj written
      have entries : schema.properties.entries = [] := List.map_eq_nil_iff.1 nothing.symm
      simp [mapping, Dict.map, entries]
    | some value =>
      rw [found] at written
      cases written
      simp [mapping, write, Dict.map]
  have templates : IndexMapping.templatesOf (.obj mappings) = .ok (schema.mapping none).dynamicTemplates := by
    unfold IndexMapping.templatesOf
    simp only [Json.get?, h.templates, mapping]
    cases schema.templates <;> rfl
  have record : declaredOf (.obj mappings) = schema.declared ∧ facetsOf (.obj mappings) = .ok schema.facets := by
    rcases h.record with recorded | ⟨missing, declared, facets⟩
    · have found : (Json.obj mappings).get? "_meta" = some (recordOf schema.declared schema.facets) := recorded
      have declared : ((recordOf schema.declared schema.facets).get? "searchable_fields") =
          some (.arr (schema.declared.map .str)) := rfl
      have facets : ((recordOf schema.declared schema.facets).get? "facets") =
          some (.arr (schema.facets.map FacetSpec.toJson)) := rfl
      have read : (Json.arr (schema.facets.map FacetSpec.toJson)).readAs (Written.readList FacetSpec.read) =
          .ok schema.facets :=
        Written.readList_restores fun facet _ => FacetSpec.read_toJson facet
      unfold declaredOf facetsOf
      simp only [found, Option.bind_some, declared, facets, read]
      exact ⟨filterMap_asString? schema.declared, trivial⟩
    · simp [declaredOf, facetsOf, Json.get?, missing, declared, facets]
  unfold IndexMapping.ofMappings
  simp only [properties, templates, record]
  rfl

/-- A described mapping in an answer is read as its schema says. -/
theorem Describes.ofResponse (h : Describes schema mappings) (concrete : String) :
    IndexMapping.ofResponse (.obj [(concrete, .obj [("mappings", .obj mappings)])]) =
      .ok (schema.mapping (some concrete)) := by
  have inner : (Json.obj [("mappings", .obj mappings)]).get? "mappings" = some (.obj mappings) := rfl
  simp only [IndexMapping.ofResponse, Json.asObject?, inner, h.ofMappings]
  rfl

/-! ## New documents -/

/-- The names of the sub-fields that keep strings: the one that backends add of their own accord, and
the one that the templates add. -/
def keywords (schema : Schema) : List String := Facet.defaultSubfield :: (schema.templates.map (·.1)).toList

/-- The properties of a schema have grown: fields keep their parameters. A new field is indexed
exactly if a template waits for it, and has a sub-field if it holds text. -/
structure Grows (before after : Schema) : Prop where
  templates : after.templates = before.templates
  declared : after.declared = before.declared
  facets : after.facets = before.facets
  kept : ∀ field parameters, before.properties.get? field = some parameters →
    after.properties.get? field = some parameters
  fresh : ∀ field, before.properties.get? field = none → (after.properties.get? field).isSome →
    (after.flag? field = some true ↔ field ∈ before.waiting ∨ "*" ∈ before.waiting)
  keyworded : ∀ field mapped, before.properties.get? field = none →
    mapped? after.properties field = some mapped → mapped.HasKeyword before.keywords

theorem Grows.refl (schema : Schema) : Grows schema schema where
  templates := rfl
  declared := rfl
  facets := rfl
  kept _ _ h := h
  fresh field missing there := by rw [missing] at there; cases there
  keyworded field mapped missing there := by rw [mapped?, missing] at there; cases there

theorem Grows.waiting {before after : Schema} (h : Grows before after) : after.waiting = before.waiting := by
  rw [Schema.waiting, h.templates, Schema.waiting]

/-- Fields that are mapped stay as they are. -/
theorem Grows.mapped?_eq {before after : Schema} (h : Grows before after) {field : String}
    (known : (mapped? before.properties field).isSome) :
    mapped? after.properties field = mapped? before.properties field := by
  rw [mapped?, Option.isSome_map] at known
  obtain ⟨parameters, found⟩ := Option.isSome_iff_exists.1 known
  rw [mapped?, mapped?, found, h.kept field parameters found]

theorem Grows.trans {before middle after : Schema} (first : Grows before middle) (rest : Grows middle after) :
    Grows before after where
  templates := rest.templates.trans first.templates
  declared := rest.declared.trans first.declared
  facets := rest.facets.trans first.facets
  kept field parameters found := rest.kept field parameters (first.kept field parameters found)
  fresh field missing there := by
    cases between : middle.properties.get? field with
    | none => rw [rest.fresh field between there, first.waiting]
    | some parameters =>
      have same : after.flag? field = middle.flag? field := by
        rw [flag?, flag?, between, rest.kept field parameters between]
      rw [same]
      exact first.fresh field missing (by simp [between])
  keyworded field mapped missing there := by
    cases between : middle.properties.get? field with
    | none =>
      have keyworded := rest.keyworded field mapped between there
      rwa [keywords, first.templates] at keyworded
    | some old =>
      rw [mapped?, rest.kept field old between, ← between] at there
      exact first.keyworded field mapped missing there

/-- The type that replaces an open one is all that a new field takes from its value. -/
theorem withType_obj (fieldType : String) (parameters : Members) :
    ∃ typed, withType fieldType (.obj parameters) = .obj typed ∧
      fieldOf (.obj typed) = { fieldOf (.obj parameters) with
        fieldType := if (fieldOf (.obj parameters)).fieldType = some dynamicType then some fieldType
          else (fieldOf (.obj parameters)).fieldType } := by
  unfold withType
  split
  · rename_i members same
    cases same
    split
    · rename_i isOpen
      have isOpen : (fieldOf (.obj parameters)).fieldType = some dynamicType := isOpen
      refine ⟨_, rfl, ?_⟩
      rw [if_pos isOpen]
      simp [fieldOf, Json.get?, Json.asString?]
    · rename_i closed
      have closed : ¬ (fieldOf (.obj parameters)).fieldType = some dynamicType := closed
      exact ⟨_, rfl, by rw [if_neg closed]⟩
  · rename_i notObject
    exact absurd rfl (notObject parameters)

/-- What the template of a searchable field gives to it. -/
def searchableParameters (subfield : String) : Members :=
  [("fields", keywordFields subfield), ("index", .bool true), ("type", .str dynamicType)]

/-- What other strings are given. -/
def stringParameters (subfield : String) : Members :=
  [("fields", keywordFields subfield), ("index", .bool false), ("type", .str "text")]

/-- What all other values are given. -/
def otherParameters : Members := [("index", .bool false), ("type", .str dynamicType)]

/-- What the templates give to a field whose value is of a kind. -/
def templated (subfield : String) (waiting : List String) (field kind : String) : Members :=
  if field ∈ waiting ∨ "*" ∈ waiting then searchableParameters subfield
  else if kind = "string" then stringParameters subfield
  else otherParameters

theorem templateMapping?_template (field kind name pattern wanted : String) (mapping : Json) :
    templateMapping? field kind (template name pattern wanted mapping) =
      if (pattern = "*" ∨ pattern = field) ∧ (wanted = "*" ∨ wanted = kind) then some mapping else none := rfl

/-- Among the templates of a schema one applies. -/
theorem findSome?_templates (subfield : String) (waiting : List String) (field kind : String) :
    (templatesOf subfield waiting).findSome? (templateMapping? field kind) =
      some (.obj (templated subfield waiting field kind)) := by
  unfold templated
  induction waiting with
  | nil =>
    -- Only the general templates are left.
    by_cases text : "string" = kind
    · simp [templatesOf, stringsTemplate, templateMapping?_template, text, stringParameters]
    · simp [templatesOf, stringsTemplate, otherTemplate, templateMapping?_template, text, Ne.symm text, otherParameters]
  | cons first others ih =>
    have step : (templatesOf subfield (first :: others)).findSome? (templateMapping? field kind) =
        (templateMapping? field kind (searchableTemplate subfield first)).or
          ((templatesOf subfield others).findSome? (templateMapping? field kind)) := by
      simp only [templatesOf, List.map_cons, List.cons_append, List.findSome?_cons]
      cases templateMapping? field kind (searchableTemplate subfield first) <;> rfl
    rw [step, searchableTemplate, templateMapping?_template, ih]
    -- The first template that applies decides.
    by_cases applies : first = "*" ∨ first = field
    · have waited : field ∈ first :: others ∨ "*" ∈ first :: others := by
        rcases applies with rfl | rfl <;> simp
      rw [if_pos waited]
      simp [applies, searchableParameters]
    · simp only [not_or] at applies
      simp [applies, Ne.symm applies.1, Ne.symm applies.2]

/-- The type of a string is text, and no other value is given this type. -/
theorem kind_of_text {value : Json} {kind : String} (detected : detectedType value = some (kind, "text")) :
    kind = "string" := by
  cases value with
  | str s =>
    cases detected
    rfl
  | num n =>
    unfold detectedType at detected
    cases double : n.isDouble <;> simp [double] at detected
  | bool b => simp [detectedType] at detected
  | null | arr _ | obj _ => cases detected

/-- A templated field is indexed if it is waited for, and has the sub-field of the templates if it holds
text. -/
theorem exists_typed (subfield : String) (waiting : List String) (field : String) {value : Json}
    {kind fieldType : String} (detected : detectedType value = some (kind, fieldType)) :
    ∃ typed, withType fieldType (.obj (templated subfield waiting field kind)) = .obj typed ∧
      (flagOf typed = some true ↔ field ∈ waiting ∨ "*" ∈ waiting) ∧
      (fieldOf (.obj typed)).HasKeyword [Facet.defaultSubfield, subfield] := by
  obtain ⟨typed, same, read⟩ := withType_obj fieldType (templated subfield waiting field kind)
  have flag : flagOf typed = flagOf (templated subfield waiting field kind) := congrArg FieldMapping.index read
  refine ⟨typed, same, ?_⟩
  unfold FieldMapping.HasKeyword
  rw [flag, read]
  unfold templated
  by_cases waited : field ∈ waiting ∨ "*" ∈ waiting
  · rw [if_pos waited]
    exact ⟨by simp [waited, flagOf, searchableParameters, Entries.get?, indexFlag?],
      fun _ => ⟨subfield, by simp, by simp [searchableParameters, FieldMapping.hasSubfield, fieldOf, keywordFields,
        Json.get?, Entries.get?, Json.asObject?]⟩⟩
  · rw [if_neg waited]
    by_cases text : kind = "string"
    · rw [if_pos text]
      exact ⟨by simp [waited, flagOf, stringParameters, Entries.get?, indexFlag?],
        fun _ => ⟨subfield, by simp, by simp [stringParameters, FieldMapping.hasSubfield, fieldOf, keywordFields,
          Json.get?, Entries.get?, Json.asObject?]⟩⟩
    · rw [if_neg text]
      refine ⟨by simp [waited, flagOf, otherParameters, Entries.get?, indexFlag?], fun is => ?_⟩
      -- The type stays open, and that of the value is not text.
      have isType : some fieldType = some "text" := by
        simpa [otherParameters, fieldOf, Json.get?, Entries.get?, Json.asString?] using is
      rw [Option.some.inj isType] at detected
      exact absurd (kind_of_text detected) text

/-- A new field is mapped as the templates say. -/
theorem Describes.newMapping (h : Describes schema mappings) (field : String) {value : Json} {kind fieldType : String}
    (detected : detectedType value = some (kind, fieldType)) :
    ∃ parameters, StoredIndex.newMapping mappings field kind fieldType = .obj parameters ∧
      (flagOf parameters = some true ↔ field ∈ schema.waiting ∨ "*" ∈ schema.waiting) ∧
      (fieldOf (.obj parameters)).HasKeyword schema.keywords := by
  unfold StoredIndex.newMapping
  rw [h.templates, waiting, keywords]
  cases schema.templates with
  | none =>
    by_cases text : fieldType = "text"
    · subst text
      exact ⟨_, rfl, by simp [flagOf, Entries.get?], fun _ => ⟨_, List.mem_cons_self, rfl⟩⟩
    · have default : defaultMapping fieldType = .obj [("type", .str fieldType)] := if_neg text
      obtain ⟨typed, same, read⟩ := withType_obj fieldType [("type", .str fieldType)]
      have flag : flagOf typed = none := congrArg FieldMapping.index read
      refine ⟨typed, ?_, by simp [flag], fun is => ?_⟩
      · rw [← same, ← default]
        rfl
      · rw [read] at is
        simp [fieldOf, Json.get?, Entries.get?, Json.asString?, text] at is
  | some both =>
    obtain ⟨subfield, waiting⟩ := both
    obtain ⟨typed, same, rest⟩ := exists_typed subfield waiting field detected
    refine ⟨typed, ?_, rest⟩
    simp only [Option.map_some, Option.bind_some, Json.asArray?, Option.getD_some, findSome?_templates, same]

/-- A change of the written properties changes those of the schema. -/
theorem Describes.updateProperties (h : Describes schema mappings) {change : Members → Members}
    {changed : Dict Members} (written : change (write schema.properties) = write changed) :
    Describes { schema with properties := changed } (StoredIndex.updateProperties change mappings) := by
  unfold StoredIndex.updateProperties
  rw [h.properties]
  refine ⟨?_, ?_, ?_⟩
  · simp [written]
  · simpa using h.templates
  · simpa using h.record

theorem Describes.property?_eq (h : Describes schema mappings) (field : String) :
    property? mappings field = (schema.properties.get? field).map Json.obj := by
  have look : ((Entries.get? mappings "properties").getD .empty).get? field =
      (schema.properties.map Json.obj).get? field := by rw [h.properties]; rfl
  rw [Dict.get?_map] at look
  unfold property?
  cases found : Entries.get? mappings "properties" with
  | none =>
    rw [found] at look
    exact look
  | some value =>
    rw [found] at look
    exact look

/-- Mapping the field of a value makes a schema grow. -/
theorem Describes.mapField (h : Describes schema mappings) (field : String) (value : Json) :
    ∃ grown, Describes grown (StoredIndex.mapField mappings field value) ∧ Grows schema grown := by
  unfold StoredIndex.mapField
  split
  · exact ⟨schema, h, .refl schema⟩
  · rename_i kind fieldType detected
    split
    · exact ⟨schema, h, .refl schema⟩
    · rename_i new
      rw [h.property?_eq] at new
      have missing : schema.properties.get? field = none := by simpa using new
      obtain ⟨parameters, written, waited, keyworded⟩ := h.newMapping field detected
      have insertion : Entries.insert (write schema.properties) field
          (StoredIndex.newMapping mappings field kind fieldType) =
          write (schema.properties.insert field parameters) := by
        rw [written, write, write, Dict.map_insert]
        rfl
      refine ⟨_, h.updateProperties insertion, rfl, rfl, rfl, ?_, ?_, ?_⟩
      · intro other kept found
        -- The insertion is under a name that was not mapped.
        have different : field ≠ other := by
          rintro rfl
          rw [missing] at found
          cases found
        simpa [different] using found
      · intro other absent there
        by_cases same : field = other
        · subst same
          simpa [flag?] using waited
        · simp [same, absent] at there
      · intro other typed absent there
        by_cases same : field = other
        · subst same
          simp only [mapped?, Dict.get?_insert_self, Option.map_some, Option.some.injEq] at there
          exact there ▸ keyworded
        · simp [mapped?, same, absent] at there

/-- Mapping the fields of a document makes a schema grow. -/
theorem Describes.mapFields (h : Describes schema mappings) (source : Members) :
    ∃ grown, Describes grown (StoredIndex.mapFields mappings source) ∧ Grows schema grown := by
  induction source generalizing schema mappings with
  | nil => exact ⟨schema, h, .refl schema⟩
  | cons member rest ih =>
    obtain ⟨middle, described, first⟩ := h.mapField member.1 member.2
    obtain ⟨grown, described', others⟩ := ih described
    exact ⟨grown, described', first.trans others⟩

end Schema

end SearchTenancy

import SearchTenancy.Proofs.Json.Member
import SearchTenancy.Proofs.Json.Record
import SearchTenancy.Proofs.Mapping.Searchable
import SearchTenancy.Proofs.Text.Bytes

/-!
# The searchable fields of a written mapping

What the list of searchable fields says of the JSON that a mapping was read from. A field
is listed if its property is flagged as indexed (`Enables`) or a template with a pattern
of its own is called so (`Awaits`). The recorded fields come first, in the order in which
the record first has them, and the others in the order of their bytes (`Precedes`). A
mapping with the same fields in the same recorded order lists them alike, however often
and in whatever order its templates name them.
-/

namespace SearchTenancy.IndexMapping

/-- The mapping has a property of that name, and its flag reads as enabled. -/
def Enables (mappings : Json) (name : String) : Prop :=
  ∃ properties field flag, mappings.get? "properties" = some (.obj properties) ∧ (name, field) ∈ properties ∧
    field.get? "index" = some flag ∧ flag ∈ [Json.bool true, .str "true", .str "analyzed"]

/-- The mapping has a template of that name, and its pattern is not the one for all names. The name of a template
is the smallest one in its entry. -/
def Awaits (mappings : Json) (name : String) : Prop :=
  ∃ entries members template pattern, mappings.get? "dynamic_templates" = some (.arr entries) ∧
    Json.obj members ∈ entries ∧ (name, template) ∈ members ∧ (∀ member ∈ members, name ≤ member.1) ∧
    template.get? "match" = some (.str pattern) ∧ pattern ≠ "*"

/-- The record of the declared order has the field at this place. -/
def RecordedAt (mappings : Json) (name : String) (place : Nat) : Prop :=
  ∃ record items, mappings.get? "_meta" = some record ∧ record.get? "searchable_fields" = some (.arr items) ∧
    items[place]? = some (.str name)

/-- The record has the first field before it has the second one, if it has the second one at all. -/
def RecordedBefore (mappings : Json) (a b : String) : Prop :=
  ∃ place, RecordedAt mappings a place ∧ ∀ other, RecordedAt mappings b other → place < other

/-- The order in which fields are listed. -/
inductive Precedes (mappings : Json) (a b : String) : Prop
  | recorded (before : RecordedBefore mappings a b)
  /-- Neither is recorded, and the bytes of the first are smaller. -/
  | named (first : ∀ place, ¬ RecordedAt mappings a place) (second : ∀ place, ¬ RecordedAt mappings b place)
      (below : Text.bytes a < Text.bytes b)

variable {mappings : Json} {mapping : IndexMapping} {a b name : String}

/-! ## Reading -/

theorem indexFlag?_eq_some_true {flag : Json} :
    indexFlag? flag = some true ↔ flag ∈ [Json.bool true, .str "true", .str "analyzed"] := by
  fun_cases indexFlag? flag <;> simp_all

theorem isSearchable_fieldOf {field : Json} : (fieldOf field).isSearchable ↔
    ∃ flag, field.get? "index" = some flag ∧ flag ∈ [Json.bool true, .str "true", .str "analyzed"] := by
  simp only [FieldMapping.isSearchable, fieldOf, beq_iff_eq, Option.bind_eq_some_iff, indexFlag?_eq_some_true]

theorem not_isCatchAll {template : DynamicTemplate} :
    (!template.isCatchAll) = true ↔ ∃ pattern, template.matchPattern = some pattern ∧ pattern ≠ "*" := by
  unfold DynamicTemplate.isCatchAll
  cases template.matchPattern <;> simp

/-- The parts of a mapping are read one by one. -/
theorem parts_of_ofMappings (accepted : ofMappings mappings = .ok mapping) :
    propertiesOf mappings = .ok mapping.properties ∧ templatesOf mappings = .ok mapping.dynamicTemplates ∧
      mapping.declaredSearchable = declaredOf mappings := by
  unfold ofMappings at accepted
  obtain ⟨properties, readProperties, others⟩ := exists_of_bind_eq_ok accepted
  obtain ⟨templates, readTemplates, others⟩ := exists_of_bind_eq_ok others
  obtain ⟨facets, -, made⟩ := exists_of_bind_eq_ok others
  cases made
  exact ⟨readProperties, readTemplates, rfl⟩

/-! ## The members of the list -/

/-- The properties are the members of an object, read one by one. -/
theorem properties_of_propertiesOf {properties : Entries FieldMapping} (read : propertiesOf mappings = .ok properties) :
    ∃ members : Members, properties = members.map (fun member => (member.1, fieldOf member.2)) ∧
      (mappings.get? "properties" = some (.obj members) ∨ mappings.get? "properties" = none ∧ members = []) := by
  unfold propertiesOf at read
  split at read
  · rename_i missing
    cases read
    exact ⟨[], rfl, .inr ⟨missing, rfl⟩⟩
  · rename_i members given
    cases read
    exact ⟨members, rfl, .inl given⟩
  · cases read

theorem mem_templates_of_templatesOf {templates : List DynamicTemplate} (read : templatesOf mappings = .ok templates)
    (template : DynamicTemplate) : template ∈ templates ↔
      ∃ entries entry, mappings.get? "dynamic_templates" = some (.arr entries) ∧ entry ∈ entries ∧
        templateOf? entry = some template := by
  unfold templatesOf at read
  split at read
  · rename_i missing
    cases read
    simp [missing]
  · rename_i entries given
    cases read
    simp [given]
  · cases read

theorem sorted_properties (canonical : mappings.Canonical) (accepted : ofMappings mappings = .ok mapping) :
    mapping.properties.Sorted := by
  obtain ⟨members, read, given⟩ := properties_of_propertiesOf (parts_of_ofMappings accepted).1
  have sorted : Entries.Sorted members := by
    rcases given with given | ⟨-, rfl⟩
    · exact (Json.canonical_obj.1 (canonical.get? given)).1
    · exact List.Pairwise.nil
  rw [read]
  exact List.pairwise_map.2 sorted

theorem any_isSearchable_iff (canonical : mappings.Canonical) (accepted : ofMappings mappings = .ok mapping) :
    (mapping.field? name).any FieldMapping.isSearchable ↔ Enables mappings name := by
  obtain ⟨members, read, given⟩ := properties_of_propertiesOf (parts_of_ofMappings accepted).1
  have mapped : mapping.field? name = (members.get? name).map fieldOf := by
    rw [field?, read]
    exact Entries.get?_map fieldOf members name
  rw [mapped, Option.any_map, Enables]
  rcases given with given | ⟨missing, rfl⟩
  · have sorted := (Json.canonical_obj.1 (canonical.get? given)).1
    simp [given, sorted.mem_iff, Option.any_eq_true, isSearchable_fieldOf]
  · simp [missing]

theorem mem_templatedFields_iff (canonical : mappings.Canonical) (accepted : ofMappings mappings = .ok mapping) :
    name ∈ mapping.templatedFields ↔ Awaits mappings name := by
  have templates (template : DynamicTemplate) := mem_templates_of_templatesOf (parts_of_ofMappings accepted).2.1 template
  have read {entries : List Json} (given : mappings.get? "dynamic_templates" = some (.arr entries)) {entry : Json}
      (mem : entry ∈ entries) : entry.Canonical := Json.canonical_arr.1 (canonical.get? given) entry mem
  unfold templatedFields
  simp only [List.mem_map, List.mem_filter, not_isCatchAll, templates]
  constructor
  · rintro ⟨template, ⟨⟨entries, entry, given, mem, named⟩, pattern, matching, narrow⟩, rfl⟩
    obtain ⟨⟨key, value⟩, first, rfl⟩ := Option.map_eq_some_iff.1 named
    obtain ⟨members, rfl, here, least⟩ := (Json.firstMember?_eq_some_iff (read given mem)).1 first
    exact ⟨entries, members, value, pattern, given, mem, here, least, Json.bind_asString?_eq_some.1 matching, narrow⟩
  · rintro ⟨entries, members, value, pattern, given, mem, here, least, matching, narrow⟩
    have first := (Json.firstMember?_eq_some_iff (read given mem)).2 ⟨members, rfl, here, least⟩
    refine ⟨_, ⟨⟨entries, _, given, mem, congrArg (Option.map _) first⟩, pattern, ?_, narrow⟩, rfl⟩
    exact Json.bind_asString?_eq_some.2 matching

/-- The listed fields are those that the mapping enables or has a template for. -/
theorem mem_searchableFields_iff (canonical : mappings.Canonical) (accepted : ofMappings mappings = .ok mapping) :
    name ∈ mapping.searchableFields ↔ Enables mappings name ∨ Awaits mappings name := by
  rw [mem_searchableFields (sorted_properties canonical accepted), any_isSearchable_iff canonical accepted,
    mem_templatedFields_iff canonical accepted]

/-! ## The order of the list -/

/-- The record is a list of items, of which those that are no strings are passed over. -/
theorem exists_record (mappings : Json) : ∃ items : List Json, declaredOf mappings = items.filterMap Json.asString? ∧
    ∀ name place, RecordedAt mappings name place ↔ items[place]? = some (.str name) := by
  let found := ((mappings.get? "_meta").bind (·.get? "searchable_fields")).bind Json.asArray?
  refine ⟨found.getD [], rfl, fun name place => ?_⟩
  have given (items : List Json) : found = some items ↔
      ∃ record, mappings.get? "_meta" = some record ∧ record.get? "searchable_fields" = some (.arr items) :=
    Json.bind_asArray?_eq_some.trans Option.bind_eq_some_iff
  constructor
  · rintro ⟨record, items, noted, list, here⟩
    rw [(given items).2 ⟨record, noted, list⟩]
    exact here
  · intro here
    cases items : found with
    | none => simp [items] at here
    | some list =>
      obtain ⟨record, noted, listed⟩ := (given list).1 items
      rw [items] at here
      exact ⟨record, list, noted, listed, here⟩

/-- An element stands in front of all places of another one. -/
theorem exists_before_cons_iff {α : Type} {first x y : α} {rest : List α} :
    (∃ place : Nat, (first :: rest)[place]? = some x ∧ ∀ other : Nat, (first :: rest)[other]? = some y → place < other) ↔
      first ≠ y ∧ (first = x ∨
        ∃ place : Nat, rest[place]? = some x ∧ ∀ other : Nat, rest[other]? = some y → place < other) := by
  constructor
  · rintro ⟨place, here, before⟩
    refine ⟨?_, ?_⟩
    · rintro rfl
      exact absurd (before 0 rfl) (Nat.not_lt_zero _)
    · cases place with
      | zero => exact .inl (Option.some.inj here)
      | succ place => exact .inr ⟨place, here, fun other there => Nat.lt_of_succ_lt_succ (before (other + 1) there)⟩
  · rintro ⟨different, rfl | ⟨place, here, before⟩⟩
    · refine ⟨0, rfl, fun other there => Nat.pos_of_ne_zero ?_⟩
      rintro rfl
      exact different (Option.some.inj there)
    · refine ⟨place + 1, here, fun other there => ?_⟩
      cases other with
      | zero => exact absurd (Option.some.inj there) different
      | succ other => exact Nat.succ_lt_succ (before other there)

/-- The first places of two strings are in the same order whether the other items are counted or not. -/
theorem idxOf_filterMap_lt_iff (items : List Json) (a b : String) :
    (items.filterMap Json.asString?).idxOf a < (items.filterMap Json.asString?).idxOf b ↔
      ∃ place : Nat, items[place]? = some (.str a) ∧ ∀ other : Nat, items[other]? = some (.str b) → place < other := by
  induction items with
  | nil => simp
  | cons item rest ih =>
    rw [exists_before_cons_iff, ← ih]
    cases item with
    | str s =>
      rw [List.filterMap_cons_some (show Json.asString? (.str s) = some s from rfl), idxOf_cons_lt_idxOf_cons]
      simp
    | _ => simp [List.filterMap_cons, Json.asString?]

section Accepted

variable (accepted : ofMappings mappings = .ok mapping)
include accepted

/-- The places of two fields are in the order in which the record has them first. -/
theorem place_lt_place_iff : mapping.place a < mapping.place b ↔ RecordedBefore mappings a b := by
  obtain ⟨items, declared, recorded⟩ := exists_record mappings
  rw [place, place, (parts_of_ofMappings accepted).2.2, declared, idxOf_filterMap_lt_iff, RecordedBefore]
  simp only [recorded]

theorem mem_declaredSearchable_iff : name ∈ mapping.declaredSearchable ↔ ∃ place, RecordedAt mappings name place := by
  obtain ⟨items, declared, recorded⟩ := exists_record mappings
  rw [(parts_of_ofMappings accepted).2.2, declared, List.mem_filterMap]
  simp only [recorded, ← List.mem_iff_getElem?]
  constructor
  · rintro ⟨item, mem, string⟩
    cases item with
    | str s =>
      cases string
      exact mem
    | _ => cases string
  · exact fun mem => ⟨_, mem, rfl⟩

/-- Fields that compare as smaller precede. -/
theorem precedes_of_compareFields (below : mapping.compareFields a b = .lt) : Precedes mappings a b := by
  rcases compareFields_eq_lt_iff.1 below with before | ⟨level, names⟩
  · exact .recorded ((place_lt_place_iff accepted).1 before)
  · -- Two recorded fields have different places.
    have different : a ≠ b := by
      rintro rfl
      exact String.lt_irrefl _ names
    have first : a ∉ mapping.declaredSearchable := fun mem => different ((List.idxOf_inj mem).1 level)
    have second : b ∉ mapping.declaredSearchable := fun mem => different ((List.idxOf_inj mem).1 level.symm).symm
    rw [mem_declaredSearchable_iff accepted, not_exists] at first second
    exact .named first second (Text.bytes_lt_iff.2 names)

end Accepted

/-- The searchable fields of any mapping that can be read are the properties flagged as indexed and the names of
templates with a pattern of their own, each once. The recorded ones come first, in the order in which the record
first has them, and then the others, in the order of their bytes. So the list is the same for any other mapping
that has the same searchable fields and the same order among those of them that it records. -/
theorem fields_form_ordered_set (canonical : mappings.Canonical) (accepted : ofMappings mappings = .ok mapping) :
    (∀ name, name ∈ mapping.searchableFields ↔ Enables mappings name ∨ Awaits mappings name) ∧
    mapping.searchableFields.Nodup ∧
    mapping.searchableFields.Pairwise (Precedes mappings) ∧
    ∀ (mappings' : Json) (mapping' : IndexMapping), mappings'.Canonical → ofMappings mappings' = .ok mapping' →
      (∀ name, Enables mappings' name ∨ Awaits mappings' name ↔ Enables mappings name ∨ Awaits mappings name) →
      (∀ a ∈ mapping.searchableFields, ∀ b ∈ mapping.searchableFields,
        (RecordedBefore mappings' a b ↔ RecordedBefore mappings a b)) →
      mapping'.searchableFields = mapping.searchableFields := by
  have sorted := sorted_properties canonical accepted
  have ordered := (pairwise_searchableFields sorted).imp (precedes_of_compareFields accepted)
  refine ⟨fun name => mem_searchableFields_iff canonical accepted, nodup_searchableFields sorted, ordered, ?_⟩
  intro mappings' mapping' canonical' accepted' same recorded
  refine searchableFields_congr_places sorted (sorted_properties canonical' accepted') ?_ fun name => ?_
  · intro a here b there
    rw [place_lt_place_iff accepted', place_lt_place_iff accepted]
    exact recorded a here b there
  · rw [mem_searchableFields_iff canonical' accepted', mem_searchableFields_iff canonical accepted]
    exact same name

/-- Flags of all kinds, a field that is mapped and templated, names that are recorded twice or not at all, and a
name beyond ASCII; with each template given twice, and the first ones in reverse, the list is the same. -/
theorem zone_is_listed_first :
    let template (name pattern : String) : Json := .obj [(name, .obj [("match", .str pattern)])]
    let templates := [template "brand" "b*", template "all" "*", template "zone" "zone", template "area" "area"]
    let repeated := templates.reverse ++ templates
    let shop (templates : List Json) : Json := .obj [
      ("_meta", .obj [("searchable_fields", .arr [.str "zone", .null, .str "brand", .str "zone", .str "gone"])]),
      ("dynamic_templates", .arr templates),
      ("properties", .obj [("code", .obj [("index", .str "not_analyzed")]), ("title", .obj [("index", .str "analyzed")]),
        ("zone", .obj [("index", .bool true)]), ("été", .obj [("index", .str "true")])])]
    ((shop templates).Canonical ∧ (shop repeated).Canonical) ∧
    ∃ mapping mapping', ofMappings (shop templates) = .ok mapping ∧ ofMappings (shop repeated) = .ok mapping' ∧
      mapping.searchableFields = ["zone", "brand", "area", "title", "été"] ∧
      (Enables (shop templates) "été" ∨ Awaits (shop templates) "été") ∧
      mapping.searchableFields.Pairwise (Precedes (shop templates)) ∧
      mapping'.searchableFields = mapping.searchableFields := by
  intro template templates repeated shop
  have canonical : (shop templates).Canonical := by
    simp only [shop, templates, template, Json.Canonical, Json.CanonicalItems, Json.CanonicalMembers, Entries.Sorted,
      and_true]
    decide
  have canonical' : (shop repeated).Canonical := by
    simp only [shop, repeated, templates, template, List.reverse_cons, List.reverse_nil, List.nil_append,
      List.cons_append, Json.Canonical, Json.CanonicalItems, Json.CanonicalMembers, Entries.Sorted, and_true]
    decide
  obtain ⟨right, -, ordered, unique⟩ := fields_form_ordered_set canonical rfl
  refine ⟨⟨canonical, canonical'⟩, _, _, rfl, rfl, by decide +kernel, (right "été").1 (by decide +kernel), ordered, ?_⟩
  -- The properties and the records are the same, and so are the templates up to order and repetition.
  have entries (entry : Json) : entry ∈ repeated ↔ entry ∈ templates := by simp [repeated]
  refine unique (shop repeated) _ canonical' rfl (fun name => or_congr Iff.rfl ?_) fun a _ b _ => Iff.rfl
  constructor
  · rintro ⟨_, members, value, pattern, ⟨rfl⟩, entry, rest⟩
    exact ⟨_, members, value, pattern, rfl, (entries _).1 entry, rest⟩
  · rintro ⟨_, members, value, pattern, ⟨rfl⟩, entry, rest⟩
    exact ⟨_, members, value, pattern, rfl, (entries _).2 entry, rest⟩

end SearchTenancy.IndexMapping

import SearchTenancy.Proofs.Json.Canonical
import SearchTenancy.Json.Record

/-!
# Reading records and lists

What holds of a record that was read follows from what its fields enter into it, and a
record that was written is read field by field. A field without a value has no member.
-/

namespace SearchTenancy

/-- What succeeds in two steps has succeeded in each of them. -/
theorem exists_of_bind_eq_ok {ε α β : Type} {first : Except ε α} {next : α → Except ε β} {result : β}
    (h : (first >>= next) = .ok result) : ∃ value, first = .ok value ∧ next value = .ok result := by
  cases first with
  | error fault => cases h
  | ok value => exact ⟨value, rfl, h⟩

/-- The members of a record, of which only those with a value are written. -/
def Json.present (slots : List (String × Option Json)) : Members :=
  slots.flatMap fun slot => Json.optionalMember slot.1 slot.2

/-- A value that is given; null stands for absence. -/
def Json.given (value : Option Json) : Option Json := value.filter fun value => !value.isNull

theorem Json.given_eq_self_iff {value : Option Json} :
    Json.given value = value ↔ ∀ given ∈ value, given.isNull = false := by
  cases value <;> simp [Json.given, Option.filter]

namespace Written

variable {ρ σ α : Type}

/-! ## Plain values -/

theorem readJson_eq_ok {written : Written} {value : Json} :
    (readJson written : Reading ρ Json) = .ok value ↔ written.toJson? = some value := by
  unfold readJson expect
  cases written.toJson? <;> simp

theorem canonical_of_readJson {written : Written} {value : Json}
    (h : (readJson written : Reading ρ Json) = .ok value) : value.Canonical :=
  canonical_of_toJson? (readJson_eq_ok.1 h)

/-- Only null is read as null. -/
theorem isNull_of_readJson {written : Written} (notNull : written ≠ null) {value : Json}
    (h : (readJson written : Reading ρ Json) = .ok value) : value.isNull = false := by
  have found := readJson_eq_ok.1 h
  cases value with
  | null => exact absurd (eq_null_of_toJson? found) notNull
  | _ => rfl

theorem readAs_readJson {value : Json} (h : value.Canonical) :
    value.readAs readJson = (.ok value : Reading ρ Json) := readJson_eq_ok.2 (toJson?_ofJson h)

theorem canonical_of_readMembers {written : Written} {members : Members}
    (h : (readMembers written : Reading ρ Members) = .ok members) : (Json.obj members).Canonical := by
  unfold readMembers expect at h
  split at h
  · split at h
    case h_1 found =>
      cases h
      exact canonical_of_membersToJson? Json.canonical_empty found
    case h_2 => cases h
  · cases h

theorem readAs_readMembers {members : Members} (h : (Json.obj members).Canonical) :
    (Json.obj members).readAs readMembers = (.ok members : Reading ρ Members) := by
  have found : membersToJson? [] (ofMembers members) = some members :=
    membersToJson?_ofMembers [] h.1 h.2
  simp [Json.readAs, ofJson, readMembers, found, expect]

mutual

theorem grammatical_ofJson : ∀ value : Json, (ofJson value).grammatical
  | .null | .bool _ | .num _ | .str _ => rfl
  | .arr items => grammaticalItems_ofItems items
  | .obj members => grammaticalMembers_ofMembers members

theorem grammaticalItems_ofItems : ∀ items : List Json, grammaticalItems (ofItems items)
  | [] => rfl
  | item :: rest => by
    simp [ofItems, grammaticalItems, grammatical_ofJson item, grammaticalItems_ofItems rest]

theorem grammaticalMembers_ofMembers : ∀ members : List (String × Json), grammaticalMembers (ofMembers members)
  | [] => rfl
  | (name, value) :: rest => by
    simp [ofMembers, grammaticalMembers, grammatical_ofJson value, grammaticalMembers_ofMembers rest]

end

/-! ## Lists -/

theorem exists_of_mem_readItems {read : Written → Reading ρ α} {items : List Written} {values : List α}
    (h : readItems read items = .ok values) {value : α} (mem : value ∈ values) :
    ∃ item, read item = .ok value := by
  induction items generalizing values with
  | nil =>
    cases h
    cases mem
  | cons item rest ih =>
    unfold readItems at h
    cases first : read item with
    | error fault =>
      rw [first] at h
      cases h
    | ok one =>
      cases others : readItems read rest with
      | error fault =>
        rw [first, others] at h
        cases h
      | ok more =>
        rw [first, others] at h
        cases h
        rcases List.mem_cons.1 mem with rfl | mem
        · exact ⟨item, first⟩
        · exact ih others mem

theorem exists_of_mem_readList {read : Written → Reading ρ α} {written : Written} {values : List α}
    (h : readList read written = .ok values) {value : α} (mem : value ∈ values) :
    ∃ item, read item = .ok value := by
  unfold readList at h
  split at h
  · exact exists_of_mem_readItems h mem
  · cases h

/-- A list that is written item by item is read item by item. -/
theorem readItems_ofItems (read : Written → Reading ρ α) (write : α → Json) (values : List α) :
    readItems read (ofItems (values.map write)) = values.mapM fun value => (write value).readAs read := by
  induction values with
  | nil => rfl
  | cons value rest ih =>
    rw [List.mapM_cons, ← ih]
    rfl

theorem mapM_eq_ok {read : α → Reading ρ α} {values : List α} (h : ∀ value ∈ values, read value = .ok value) :
    values.mapM read = .ok values := by
  induction values with
  | nil => rfl
  | cons value rest ih =>
    rw [List.mapM_cons, h value (List.mem_cons_self ..), ih fun other mem => h other (List.mem_cons_of_mem _ mem)]
    rfl

/-- A list is restored if its items are. -/
theorem readList_restores {read : Written → Reading ρ α} {write : α → Json} {values : List α}
    (h : ∀ value ∈ values, (write value).readAs read = .ok value) :
    (Json.arr (values.map write)).readAs (readList read) = .ok values := by
  show readItems read (ofItems (values.map write)) = .ok values
  rw [readItems_ofItems, mapM_eq_ok h]

theorem readList_ofStrings (strings : List String) :
    (Json.ofStrings strings).readAs (readList readString) = (.ok strings : Reading ρ (List String)) :=
  readList_restores fun _ _ => rfl

/-! ## Fields -/

section

variable (name : String) (read : Written → Reading ρ α)

@[simp]
theorem required_name (set : α → σ → σ) : (required name read set).name = name := rfl

@[simp]
theorem required_optional (set : α → σ → σ) : (required name read set).optional = false := rfl

@[simp]
theorem optional_name (set : Option α → σ → σ) : (Written.optional name read set).name = name := rfl

@[simp]
theorem optional_optional (set : Option α → σ → σ) : (Written.optional name read set).optional = true := rfl

end

/-! ## What holds of a record that was read -/

/-- What the field enters into a record keeps the property. -/
def Field.Keeps (property : σ → Prop) (field : Field ρ σ) : Prop :=
  ∀ written record result, field.enter written record = .ok result → property record → property result

theorem keeps_required {property : σ → Prop} (good : α → Prop) {name : String} {read : Written → Reading ρ α}
    {set : α → σ → σ} (reads : ∀ written value, read written = .ok value → good value)
    (h : ∀ value record, good value → property record → property (set value record)) :
    (required name read set).Keeps property := by
  intro written record result entered holds
  cases found : read written with
  | error fault => simp [required, found, Except.map] at entered
  | ok value =>
    simp only [required, found, Except.map, Except.ok.injEq] at entered
    subst entered
    exact h value record (reads written value found) holds

/-- Null enters no value. -/
theorem keeps_optional {property : σ → Prop} (good : α → Prop) {name : String} {read : Written → Reading ρ α}
    {set : Option α → σ → σ} (reads : ∀ written value, written ≠ null → read written = .ok value → good value)
    (h : ∀ value record, (∀ given ∈ value, good given) → property record → property (set value record)) :
    (optional name read set).Keeps property := by
  intro written record result entered holds
  by_cases isNull : written = null
  · subst isNull
    cases entered
    exact h none record (by simp) holds
  · have given : readOption read written = (read written).map some := by
      cases written <;> first | rfl | exact absurd rfl isNull
    simp only [optional, given] at entered
    cases found : read written with
    | error fault => simp [found, Except.map] at entered
    | ok value =>
      simp only [found, Except.map, Except.ok.injEq] at entered
      subst entered
      exact h (some value) record (by simpa using reads written value isNull found) holds

/-- Fields that the property does not look at keep it. -/
theorem keeps_required_any {property : σ → Prop} {name : String} {read : Written → Reading ρ α} {set : α → σ → σ}
    (h : ∀ value record, property record → property (set value record)) :
    (required name read set).Keeps property :=
  keeps_required (fun _ => True) (fun _ _ _ => trivial) fun value record _ => h value record

theorem keeps_optional_any {property : σ → Prop} {name : String} {read : Written → Reading ρ α}
    {set : Option α → σ → σ} (h : ∀ value record, property record → property (set value record)) :
    (optional name read set).Keeps property :=
  keeps_optional (fun _ => True) (fun _ _ _ _ => trivial) fun value record _ => h value record

theorem enterMembers_keeps {property : σ → Prop} {fields : List (Field ρ σ)}
    (kept : ∀ field ∈ fields, field.Keeps property) {given : List String}
    {members : List (Option String × Written)} {record result : σ}
    (h : enterMembers fields given members record = .ok result) (holds : property record) : property result := by
  induction members generalizing given record with
  | nil =>
    unfold enterMembers at h
    split at h <;> cases h
    exact holds
  | cons member rest ih =>
    obtain ⟨_ | name, value⟩ := member
    · cases h
    · unfold enterMembers at h
      split at h
      case h_1 field found =>
        split at h
        · cases h
        · obtain ⟨next, entered, rest⟩ := exists_of_bind_eq_ok h
          exact ih rest (kept field (List.mem_of_find?_eq_some found) _ _ _ entered holds)
      case h_2 =>
        split at h
        · exact ih h holds
        · cases h

theorem enterItems_keeps {property : σ → Prop} {fields : List (Field ρ σ)}
    (kept : ∀ field ∈ fields, field.Keeps property) {items : List Written} {record result : σ}
    (h : enterItems fields items record = .ok result) (holds : property record) : property result := by
  induction fields generalizing items record with
  | nil =>
    cases items <;> cases h
    exact holds
  | cons field fields ih =>
    cases items with
    | nil =>
      unfold enterItems at h
      split at h <;> cases h
      exact holds
    | cons item items =>
      unfold enterItems at h
      obtain ⟨next, entered, rest⟩ := exists_of_bind_eq_ok h
      exact ih (fun field mem => kept field (List.mem_cons_of_mem _ mem)) rest
        (kept field (List.mem_cons_self ..) _ _ _ entered holds)

/-- What the blank record has and every field keeps, a record has that was read. -/
theorem readRecord_keeps (property : σ → Prop) {fields : List (Field ρ σ)} {blank : σ}
    (kept : ∀ field ∈ fields, field.Keeps property) (holds : property blank) {written : Written} {record : σ}
    (h : readRecord fields blank written = .ok record) : property record := by
  unfold readRecord at h
  split at h
  · exact enterMembers_keeps kept h holds
  · exact enterItems_keeps kept h holds
  · cases h

/-! ## Reading a record that was written -/

/-- Enters a member into a record, if it has a value and its name is that of a field. -/
def enterSlot (fields : List (Field ρ σ)) (record : σ) : String × Option Json → Reading ρ σ
  | (_, none) => .ok record
  | (name, some value) =>
    match fields.find? (fun field => field.name == name) with
    | some field => field.enter (ofJson value) record
    | none => .ok record

theorem enterMembers_present {fields : List (Field ρ σ)} {slots : List (String × Option Json)}
    (distinct : (slots.map (·.1)).Nodup) {given : List String} (fresh : ∀ slot ∈ slots, slot.1 ∉ given)
    (complete : ∀ field ∈ fields, field.optional ∨ field.name ∈ given ∨
      ∃ value, (field.name, some value) ∈ slots) (record : σ) :
    enterMembers fields given (ofMembers (Json.present slots)) record = slots.foldlM (enterSlot fields) record := by
  induction slots generalizing given record with
  | nil =>
    have all : fields.all (fun field => field.optional || given.contains field.name) := by
      simpa using complete
    show (if _ then _ else _) = _
    rw [if_pos all]
    rfl
  | cons slot rest ih =>
    obtain ⟨name, value⟩ := slot
    obtain ⟨other, tail⟩ := List.nodup_cons.1 distinct
    have freshRest : ∀ slot ∈ rest, slot.1 ∉ given := fun slot mem => fresh slot (List.mem_cons_of_mem _ mem)
    cases value with
    | none =>
      refine ih tail freshRest (fun field mem => ?_) record
      rcases complete field mem with h | h | ⟨value, h⟩
      · exact Or.inl h
      · exact Or.inr (Or.inl h)
      · exact Or.inr (Or.inr ⟨value, by simpa using h⟩)
    | some value =>
      show enterMembers fields given ((some name, ofJson value) :: ofMembers (Json.present rest)) record = _
      have notGiven : given.contains name = false := by
        simpa using fresh _ (List.mem_cons_self ..)
      rw [List.foldlM_cons, enterMembers, enterSlot]
      cases found : fields.find? (fun field => field.name == name) with
      | none =>
        simp only [grammatical_ofJson, if_true]
        refine ih tail freshRest (fun field mem => ?_) record
        have unknown : field.name ≠ name := by simpa using List.find?_eq_none.1 found field mem
        rcases complete field mem with h | h | ⟨value, h⟩
        · exact Or.inl h
        · exact Or.inr (Or.inl h)
        · exact Or.inr (Or.inr ⟨value, by simpa [unknown] using h⟩)
      | some field =>
        simp only [notGiven]
        refine bind_congr fun next => ih tail (fun slot mem => ?_) (fun field mem => ?_) next
        · have different : slot.1 ≠ name := fun same => other (List.mem_map.2 ⟨slot, mem, same⟩)
          simpa [different] using freshRest slot mem
        · rcases complete field mem with h | h | ⟨value, h⟩
          · exact Or.inl h
          · exact Or.inr (Or.inl (List.mem_cons_of_mem _ h))
          · rcases List.mem_cons.1 h with same | h
            · simp [(Prod.mk.inj same).1]
            · exact Or.inr (Or.inr ⟨value, h⟩)

/-- A record whose required fields have a value is read field by field, in the order of its members. -/
theorem readRecord_present {fields : List (Field ρ σ)} {blank : σ} {slots : List (String × Option Json)}
    (distinct : (slots.map (·.1)).Nodup)
    (complete : ∀ field ∈ fields, field.optional ∨ ∃ value, (field.name, some value) ∈ slots) :
    readRecord fields blank (ofJson (.obj (Json.present slots))) = slots.foldlM (enterSlot fields) blank :=
  enterMembers_present distinct (by simp) (fun field mem => (complete field mem).imp id Or.inr) blank

/-- Entering members one after the other leads from one record to another. -/
inductive Enters (fields : List (Field ρ σ)) : σ → List (String × Option Json) → σ → Prop where
  | nil (record : σ) : Enters fields record [] record
  | cons {record next result : σ} {slot : String × Option Json} {rest : List (String × Option Json)} :
    enterSlot fields record slot = .ok next → Enters fields next rest result →
      Enters fields record (slot :: rest) result

theorem Enters.foldlM_eq {fields : List (Field ρ σ)} {record result : σ} {slots : List (String × Option Json)}
    (h : Enters fields record slots result) : slots.foldlM (enterSlot fields) record = .ok result := by
  induction h with
  | nil => rfl
  | cons entered _ ih =>
    rw [List.foldlM_cons, entered]
    exact ih

/-- A record is restored if entering its members leads to it. -/
theorem readRecord_of_enters {fields : List (Field ρ σ)} {blank record : σ} {slots : List (String × Option Json)}
    (distinct : (slots.map (·.1)).Nodup)
    (complete : ∀ field ∈ fields, field.optional ∨ ∃ value, (field.name, some value) ∈ slots)
    (enters : Enters fields blank slots record) :
    (Json.obj (Json.present slots)).readAs (readRecord fields blank) = .ok record :=
  (readRecord_present distinct complete).trans enters.foldlM_eq

variable {fields : List (Field ρ σ)} {name : String} {read : Written → Reading ρ α} {record : σ}

theorem foldlM_enterSlot_error {slot : String × Option Json} {rest : List (String × Option Json)}
    {fault : Misfit ρ} (h : enterSlot fields record slot = .error fault) :
    (slot :: rest).foldlM (enterSlot fields) record = .error fault := by
  rw [List.foldlM_cons, h]
  rfl

theorem enterSlot_of_enter {field : Field ρ σ} (found : fields.find? (fun field => field.name == name) = some field)
    {value : Json} {next : σ} (entered : field.enter (ofJson value) record = .ok next) :
    enterSlot fields record (name, some value) = .ok next := by
  rw [enterSlot, found]
  exact entered

theorem enterSlot_required {set : α → σ → σ}
    (found : fields.find? (fun field => field.name == name) = some (required name read set)) {value : Json}
    {result : α} (reads : value.readAs read = .ok result) :
    enterSlot fields record (name, some value) = .ok (set result record) :=
  enterSlot_of_enter found (congrArg (Except.map (set · record)) reads)

/-- An optional value that is not null is entered. -/
theorem enterSlot_given {set : Option α → σ → σ}
    (found : fields.find? (fun field => field.name == name) = some (optional name read set)) {value : Json}
    (notNull : value.isNull = false) :
    enterSlot fields record (name, some value) = (value.readAs read).map fun value => set (some value) record := by
  have given : readOption read (ofJson value) = (value.readAs read).map some := by
    cases value <;> first | rfl | cases notNull
  rw [enterSlot, found]
  simp only [optional, given]
  cases value.readAs read <;> rfl

/-- An optional value that is restored is entered where no value was. -/
theorem enterSlot_restored {set : Option α → σ → σ}
    (found : fields.find? (fun field => field.name == name) = some (optional name read set))
    (blank : set none record = record) {write : α → Json} (notNull : ∀ value, (write value).isNull = false)
    {value : Option α} (restores : ∀ given ∈ value, (write given).readAs read = .ok given) :
    enterSlot fields record (name, value.map write) = .ok (set value record) := by
  cases value with
  | none => exact congrArg Except.ok blank.symm
  | some given =>
    rw [Option.map_some, enterSlot_given found (notNull given), restores given rfl]
    rfl

/-- Of an optional plain value null is none. -/
theorem enterSlot_json {set : Option Json → σ → σ}
    (found : fields.find? (fun field => field.name == name) = some (optional name readJson set))
    (blank : set none record = record) {value : Option Json} (canonical : ∀ given ∈ value, given.Canonical) :
    enterSlot fields record (name, value) = .ok (set (Json.given value) record) := by
  cases value with
  | none => exact congrArg Except.ok blank.symm
  | some value =>
    cases null : value.isNull with
    | true =>
      cases value <;> cases null
      rw [enterSlot, found]
      rfl
    | false =>
      rw [enterSlot_given found null, readAs_readJson (canonical value rfl)]
      simp only [Json.given, Option.filter, null]
      rfl

end Written

end SearchTenancy

import SearchTenancy.Json.Written
import SearchTenancy.Proofs.Dict

/-!
# Canonical values

Reading a plain value keeps the members of every object in key order, however they were
written, and a canonical value is read as itself.
-/

namespace SearchTenancy

namespace Json

theorem canonicalMembers_iff {members : List (String × Json)} :
    CanonicalMembers members ↔ ∀ member ∈ members, member.2.Canonical := by
  induction members with
  | nil => simp [CanonicalMembers]
  | cons member rest ih =>
    obtain ⟨name, value⟩ := member
    simp [CanonicalMembers, ih]

theorem canonical_obj {members : Members} :
    (obj members).Canonical ↔ Entries.Sorted members ∧ ∀ member ∈ members, member.2.Canonical := by
  rw [Canonical, canonicalMembers_iff]

theorem canonical_arr {items : List Json} : (arr items).Canonical ↔ ∀ item ∈ items, item.Canonical := by
  rw [Canonical]
  induction items with
  | nil => simp [CanonicalItems]
  | cons item rest ih => simp [CanonicalItems, ih]

/-- A member of a canonical value is canonical. -/
theorem Canonical.get? {value member : Json} {name : String} (h : value.Canonical)
    (found : value.get? name = some member) : member.Canonical := by
  cases value with
  | obj members => exact (canonical_obj.1 h).2 (name, member) (Entries.mem_of_get?_eq_some found)
  | _ => cases found

theorem canonical_empty : (obj []).Canonical := ⟨List.Pairwise.nil, trivial⟩

/-- A body stays canonical without one of its members. -/
theorem Canonical.erase {members : Members} (h : (obj members).Canonical) (key : String) :
    (obj (Entries.erase members key)).Canonical := by
  obtain ⟨sorted, canonical⟩ := canonical_obj.1 h
  exact canonical_obj.2 ⟨sorted.erase key, fun member mem => canonical member (List.mem_filter.1 mem).1⟩

theorem Canonical.insert {members : Members} (h : (obj members).Canonical) {key : String} {value : Json}
    (new : value.Canonical) : (obj (Entries.insert members key value)).Canonical := by
  obtain ⟨sorted, canonical⟩ := canonical_obj.1 h
  refine canonical_obj.2 ⟨sorted.insert key value, fun member mem => ?_⟩
  rcases Entries.mem_insert mem with rfl | mem
  · exact new
  · exact canonical member mem

end Json

namespace Written

/-! ## A canonical value is read as itself -/

mutual

theorem toJson?_ofJson : ∀ {value : Json}, value.Canonical → (ofJson value).toJson? = some value
  | .null, _ | .bool _, _ | .num _, _ | .str _, _ => rfl
  | .arr items, h => by simp [ofJson, toJson?, itemsToJson?_ofItems h]
  | .obj members, ⟨sorted, canonical⟩ => by
    simp [ofJson, toJson?, membersToJson?_ofMembers [] sorted canonical]

theorem itemsToJson?_ofItems : ∀ {items : List Json}, Json.CanonicalItems items →
    itemsToJson? (ofItems items) = some items
  | [], _ => rfl
  | item :: rest, ⟨first, others⟩ => by
    simp [ofItems, itemsToJson?, toJson?_ofJson first, itemsToJson?_ofItems others]

theorem membersToJson?_ofMembers : ∀ (before : Members) {members : Members}, Entries.Sorted (before ++ members) →
    Json.CanonicalMembers members → membersToJson? before (ofMembers members) = some (before ++ members)
  | before, [], _, _ => by simp [ofMembers, membersToJson?]
  | before, (name, value) :: rest, sorted, ⟨first, others⟩ => by
    have above : ∀ entry ∈ before, entry.1 < name := fun entry mem =>
      (List.pairwise_append.1 sorted).2.2 entry mem (name, value) (List.mem_cons_self ..)
    have next : Entries.Sorted ((before ++ [(name, value)]) ++ rest) := by simpa using sorted
    simp [ofMembers, membersToJson?, toJson?_ofJson first, Entries.insert_of_above value above,
      membersToJson?_ofMembers _ next others]

end

/-! ## What is read is canonical -/

mutual

theorem canonical_of_toJson? : ∀ {written : Written} {value : Json}, written.toJson? = some value →
    value.Canonical
  | null, _, h | bool _, _, h | num _, _, h | str _, _, h => by cases h; trivial
  | arr items, value, h => by
    obtain ⟨found, read, rfl⟩ := Option.map_eq_some_iff.1 h
    exact canonical_of_itemsToJson? read
  | obj members, value, h => by
    obtain ⟨found, read, rfl⟩ := Option.map_eq_some_iff.1 h
    exact canonical_of_membersToJson? Json.canonical_empty read
  | unrepresentable, _, h | tooDeep _, _, h | broken, _, h => by cases h

theorem canonical_of_itemsToJson? : ∀ {items : List Written} {values : List Json},
    itemsToJson? items = some values → Json.CanonicalItems values
  | [], values, h => by cases h; trivial
  | item :: rest, values, h => by
    unfold itemsToJson? at h
    split at h
    case h_1 first others =>
      cases h
      exact ⟨canonical_of_toJson? first, canonical_of_itemsToJson? others⟩
    case h_2 => cases h

theorem canonical_of_membersToJson? : ∀ {members : List (Option String × Written)} {before after : Members},
    (Json.obj before).Canonical → membersToJson? before members = some after → (Json.obj after).Canonical
  | [], before, after, canonical, h => by cases h; exact canonical
  | (some name, value) :: rest, before, after, canonical, h => by
    unfold membersToJson? at h
    split at h
    case h_1 first => exact canonical_of_membersToJson? (canonical.insert (canonical_of_toJson? first)) h
    case h_2 => cases h
  | (none, _) :: _, _, _, _, h => by cases h

end

/-- Only null is read as null. -/
theorem eq_null_of_toJson? {written : Written} (h : written.toJson? = some .null) : written = null := by
  cases written <;> simp_all [toJson?]

end Written

end SearchTenancy

import SearchTenancy.Dict

/-!
# Look-ups in dictionaries

What the remaining operations on entries and dictionaries do to look-ups, and how the
names of a dictionary relate to them.
-/

namespace SearchTenancy

universe u v

variable {α : Type u} {β : Type v}

namespace Entries

theorem get?_insert (entries : Entries α) (key other : String) (value : α) :
    (entries.insert key value).get? other = if key = other then some value else entries.get? other := by
  by_cases h : key = other
  · subst h; simp
  · simp [h]

/-- A second insertion under the same name replaces the first. -/
theorem insert_insert_self (entries : Entries α) (key : String) (first value : α) :
    (entries.insert key first).insert key value = entries.insert key value := by
  induction entries with
  | nil => simp [insert]
  | cons entry rest ih =>
    obtain ⟨name, old⟩ := entry
    by_cases below : key < name
    · simp [insert, below]
    · by_cases same : key = name
      · simp [insert, same]
      · simp [insert, below, same, ih]

/-- A name above all others is put at the end. -/
theorem insert_of_above {entries : Entries α} {key : String} (value : α)
    (above : ∀ entry ∈ entries, entry.1 < key) : entries.insert key value = entries ++ [(key, value)] := by
  induction entries with
  | nil => rfl
  | cons entry rest ih =>
    obtain ⟨name, old⟩ := entry
    have below : name < key := above _ (List.mem_cons_self ..)
    have different : ¬ key = name := by
      rintro rfl
      exact String.lt_irrefl _ below
    simp [insert, String.lt_asymm below, different, ih fun entry mem => above entry (List.mem_cons_of_mem _ mem)]

theorem get?_map (f : α → β) (entries : Entries α) (key : String) :
    Entries.get? (entries.map fun entry => (entry.1, f entry.2)) key = (entries.get? key).map f := by
  induction entries with
  | nil => rfl
  | cons entry rest ih =>
    by_cases h : entry.1 = key
    · simp [get?, h]
    · simpa [get?, h] using ih

theorem get?_isSome_iff {entries : Entries α} {key : String} :
    (entries.get? key).isSome ↔ key ∈ entries.map (·.1) := by
  induction entries with
  | nil => simp
  | cons entry rest ih =>
    by_cases h : entry.1 = key
    · simp [get?, h]
    · simp [get?, h, ih, Ne.symm h]

/-- Look-up among entries whose values are given by their names. -/
theorem get?_ofList_map (value : String → α) (keys : List String) (key : String) :
    Entries.get? (ofList (keys.map fun key => (key, value key))) key = if key ∈ keys then some (value key) else none := by
  suffices h : ∀ sorted : Entries α,
      Entries.get? ((keys.map fun key => (key, value key)).foldl
        (fun sorted entry => Entries.insert sorted entry.1 entry.2) sorted) key =
        if key ∈ keys then some (value key) else Entries.get? sorted key from h []
  induction keys with
  | nil => exact fun _ => rfl
  | cons first rest ih =>
    intro sorted
    rw [List.map_cons, List.foldl_cons, ih, get?_insert]
    by_cases later : key ∈ rest
    · simp [later]
    · by_cases same : first = key
      · simp [same]
      · simp [later, same, Ne.symm same]

/-- In a sorted list the entries are the look-ups. -/
theorem Sorted.mem_iff {entries : Entries α} (h : entries.Sorted) {key : String} {value : α} :
    (key, value) ∈ entries ↔ entries.get? key = some value :=
  ⟨h.get?_of_mem, mem_of_get?_eq_some⟩

theorem Sorted.nodup_keys {entries : Entries α} (h : entries.Sorted) : (entries.map (·.1)).Nodup := by
  rw [List.Nodup, List.pairwise_map]
  refine h.imp fun {a b} below same => ?_
  rw [same] at below
  exact String.lt_irrefl _ below

theorem Sorted.get?_filter {entries : Entries α} (h : entries.Sorted) (keep : α → Bool) (key : String) :
    Entries.get? (entries.filter fun entry => keep entry.2) key = (entries.get? key).filter keep := by
  have sorted : Sorted (entries.filter fun entry => keep entry.2) := List.Pairwise.filter _ h
  cases found : entries.get? key with
  | none =>
    cases kept : Entries.get? (entries.filter fun entry => keep entry.2) key with
    | none => rfl
    | some value =>
      have mem := (List.mem_filter.1 (mem_of_get?_eq_some kept)).1
      rw [h.get?_of_mem mem] at found
      cases found
  | some value =>
    by_cases kept : keep value
    · simp only [Option.filter, kept, if_true]
      exact sorted.get?_of_mem (List.mem_filter.2 ⟨mem_of_get?_eq_some found, kept⟩)
    · simp only [Option.filter, kept]
      cases found' : Entries.get? (entries.filter fun entry => keep entry.2) key with
      | none => rfl
      | some other =>
        obtain ⟨mem, good⟩ := List.mem_filter.1 (mem_of_get?_eq_some found')
        have same := h.get?_of_mem mem
        rw [found] at same
        cases same
        exact absurd good kept

end Entries

namespace Dict

theorem get?_insert (dict : Dict α) (key other : String) (value : α) :
    (dict.insert key value).get? other = if key = other then some value else dict.get? other :=
  Entries.get?_insert ..

theorem get?_erase (dict : Dict α) (key other : String) :
    (dict.erase key).get? other = if key = other then none else dict.get? other := by
  by_cases h : key = other
  · subst h; simp
  · simp [h]

@[simp]
theorem get?_map (f : α → β) (dict : Dict α) (key : String) : (dict.map f).get? key = (dict.get? key).map f :=
  Entries.get?_map ..

@[simp]
theorem get?_filter (keep : α → Bool) (dict : Dict α) (key : String) :
    (dict.filter keep).get? key = (dict.get? key).filter keep := dict.sorted.get?_filter keep key

theorem contains_eq (dict : Dict α) (key : String) : dict.contains key = (dict.get? key).isSome := rfl

theorem mem_keys {dict : Dict α} {key : String} : key ∈ dict.keys ↔ (dict.get? key).isSome :=
  Entries.get?_isSome_iff.symm

theorem keys_nodup (dict : Dict α) : dict.keys.Nodup := dict.sorted.nodup_keys

theorem length_keys (dict : Dict α) : dict.keys.length = dict.size := List.length_map ..

/-- A dictionary that is not empty has a first name. -/
theorem exists_head_keys {dict : Dict α} (h : dict.isEmpty = false) : ∃ key, dict.keys.head? = some key := by
  obtain ⟨entries, sorted⟩ := dict
  cases entries with
  | nil => cases h
  | cons entry rest => exact ⟨entry.1, rfl⟩

theorem isEmpty_eq_false_iff {dict : Dict α} : dict.isEmpty = false ↔ ∃ key, (dict.get? key).isSome := by
  constructor
  · intro h
    obtain ⟨key, first⟩ := exists_head_keys h
    exact ⟨key, mem_keys.1 (List.mem_of_head? first)⟩
  · rintro ⟨key, h⟩
    obtain ⟨entries, sorted⟩ := dict
    cases entries with
    | nil => cases h
    | cons entry rest => rfl

theorem isEmpty_insert (dict : Dict α) (key : String) (value : α) : (dict.insert key value).isEmpty = false :=
  isEmpty_eq_false_iff.2 ⟨key, by simp⟩

end Dict

namespace Names

/-- A set of names is determined by its members. -/
theorem ext {a b : Names} (same : ∀ name, a.contains name = b.contains name) : a = b := by
  refine Dict.ext_get? fun name => ?_
  have h := same name
  simp only [Dict.contains_eq] at h
  cases ha : a.get? name <;> cases hb : b.get? name <;> simp_all

end Names

end SearchTenancy

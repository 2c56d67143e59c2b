/-!
# Dictionaries in key order

A list of named entries, and the dictionaries kept in increasing order of their
names. Look-up, insertion and removal are defined on plain lists (a JSON object
holds one), and `Dict` carries the proof that the names increase, so two
dictionaries that answer every look-up alike are equal (`Dict.ext_get?`).

Names are compared code point by code point, which is also the order of their
UTF-8 bytes.
-/

namespace SearchTenancy

universe u v

/-- Values with a name each. -/
abbrev Entries (α : Type u) := List (String × α)

namespace Entries

variable {α : Type u} {β : Type v}

/-- The value of the first entry named `key`. -/
def get? : Entries α → String → Option α
  | [], _ => none
  | (name, value) :: rest, key => if name = key then some value else get? rest key

/-- Puts `value` under `key`: in place of an entry of that name, otherwise in front
of the first larger name. -/
def insert : Entries α → String → α → Entries α
  | [], key, value => [(key, value)]
  | (name, old) :: rest, key, value =>
    if key < name then (key, value) :: (name, old) :: rest
    else if key = name then (key, value) :: rest
    else (name, old) :: insert rest key value

/-- Drops every entry named `key`. -/
def erase (entries : Entries α) (key : String) : Entries α :=
  entries.filter (fun entry => entry.1 ≠ key)

/-- Whether some entry is named `key`. -/
def contains (entries : Entries α) (key : String) : Bool := (entries.get? key).isSome

/-- The entries in key order; of two with one name the later wins. -/
def ofList (entries : List (String × α)) : Entries α :=
  entries.foldl (fun sorted entry => sorted.insert entry.1 entry.2) []

/-- The names increase strictly. -/
def Sorted (entries : Entries α) : Prop := entries.Pairwise (fun a b => a.1 < b.1)

instance (entries : Entries α) : Decidable entries.Sorted :=
  inferInstanceAs (Decidable (entries.Pairwise _))

@[simp]
theorem get?_nil (key : String) : get? ([] : Entries α) key = none := rfl

@[simp]
theorem get?_insert_self (entries : Entries α) (key : String) (value : α) :
    (entries.insert key value).get? key = some value := by
  induction entries with
  | nil => simp [insert, get?]
  | cons entry rest ih =>
    obtain ⟨name, old⟩ := entry
    by_cases below : key < name
    · simp [insert, get?, below]
    · by_cases same : key = name
      · simp [insert, get?, same]
      · have other : ¬ name = key := fun h => same h.symm
        simp [insert, get?, below, same, other, ih]

@[simp]
theorem get?_insert_of_ne (entries : Entries α) {key other : String} (value : α) (h : key ≠ other) :
    (entries.insert key value).get? other = entries.get? other := by
  induction entries with
  | nil => simp [insert, get?, h]
  | cons entry rest ih =>
    obtain ⟨name, old⟩ := entry
    by_cases below : key < name
    · simp [insert, get?, below, h]
    · by_cases same : key = name
      · subst same
        simp [insert, get?, h]
      · simp [insert, get?, below, same, ih]

@[simp]
theorem get?_erase_self (entries : Entries α) (key : String) : (entries.erase key).get? key = none := by
  induction entries with
  | nil => rfl
  | cons entry rest ih =>
    by_cases same : entry.1 = key
    · simpa [erase, same] using ih
    · simpa [erase, same, get?] using ih

@[simp]
theorem get?_erase_of_ne (entries : Entries α) {key other : String} (h : key ≠ other) :
    (entries.erase key).get? other = entries.get? other := by
  induction entries with
  | nil => rfl
  | cons entry rest ih =>
    obtain ⟨name, value⟩ := entry
    by_cases same : name = key
    · subst same
      simpa [erase, get?, h] using ih
    · by_cases wanted : name = other
      · subst wanted
        simp [erase, get?, same]
      · simpa [erase, get?, same, wanted] using ih

theorem mem_of_get?_eq_some {entries : Entries α} {key : String} {value : α}
    (h : entries.get? key = some value) : (key, value) ∈ entries := by
  induction entries with
  | nil => simp at h
  | cons entry rest ih =>
    obtain ⟨name, found⟩ := entry
    by_cases same : name = key
    · simp [get?, same] at h
      simp [same, h]
    · simp [get?, same] at h
      exact List.mem_cons_of_mem _ (ih h)

theorem mem_insert {entries : Entries α} {key : String} {value : α} {entry : String × α}
    (h : entry ∈ entries.insert key value) : entry = (key, value) ∨ entry ∈ entries := by
  induction entries with
  | nil => simp [insert] at h; exact Or.inl h
  | cons head rest ih =>
    obtain ⟨name, old⟩ := head
    unfold insert at h
    split at h
    · simpa using h
    · split at h
      · rcases List.mem_cons.1 h with rfl | h
        · exact Or.inl rfl
        · exact Or.inr (List.mem_cons_of_mem _ h)
      · rcases List.mem_cons.1 h with rfl | h
        · exact Or.inr (List.mem_cons_self ..)
        · exact (ih h).imp id (List.mem_cons_of_mem _)

theorem Sorted.insert {entries : Entries α} (h : entries.Sorted) (key : String) (value : α) :
    (Entries.insert entries key value).Sorted := by
  induction entries with
  | nil => simp [Entries.insert, Sorted]
  | cons entry rest ih =>
    obtain ⟨name, old⟩ := entry
    obtain ⟨above, tail⟩ := List.pairwise_cons.1 h
    unfold Entries.insert
    split
    case isTrue below =>
      refine List.pairwise_cons.2 ⟨fun other mem => ?_, h⟩
      rcases List.mem_cons.1 mem with rfl | mem
      · exact below
      · exact String.lt_trans below (above other mem)
    case isFalse notBelow =>
      split
      case isTrue same =>
        subst same
        exact List.pairwise_cons.2 ⟨above, tail⟩
      case isFalse different =>
        have beyond : name < key :=
          String.not_le.1 fun le => different (String.le_antisymm le (String.not_lt.1 notBelow))
        refine List.pairwise_cons.2 ⟨fun other mem => ?_, ih tail⟩
        rcases mem_insert mem with rfl | mem
        · exact beyond
        · exact above other mem

theorem Sorted.erase {entries : Entries α} (h : entries.Sorted) (key : String) :
    (Entries.erase entries key).Sorted := List.Pairwise.filter _ h

theorem sorted_ofList (entries : List (String × α)) : (ofList entries).Sorted := by
  suffices h : ∀ sorted : Entries α, sorted.Sorted →
      (entries.foldl (fun sorted entry => Entries.insert sorted entry.1 entry.2) sorted).Sorted from
    h [] List.Pairwise.nil
  induction entries with
  | nil => exact fun _ h => h
  | cons entry rest ih => exact fun sorted h => ih _ (h.insert entry.1 entry.2)

/-- In a sorted list an entry is found under its name. -/
theorem Sorted.get?_of_mem {entries : Entries α} (h : entries.Sorted) {key : String} {value : α}
    (mem : (key, value) ∈ entries) : entries.get? key = some value := by
  induction entries with
  | nil => simp at mem
  | cons entry rest ih =>
    obtain ⟨name, found⟩ := entry
    obtain ⟨above, tail⟩ := List.pairwise_cons.1 h
    rcases List.mem_cons.1 mem with same | mem
    · cases same
      simp [get?]
    · have different : name ≠ key := by
        rintro rfl
        exact String.lt_irrefl _ (above (name, value) mem)
      simp [get?, different, ih tail mem]

/-- Sorted entries are determined by their look-ups. -/
theorem Sorted.ext {a b : Entries α} (ha : a.Sorted) (hb : b.Sorted)
    (same : ∀ key, a.get? key = b.get? key) : a = b := by
  induction a generalizing b with
  | nil =>
    cases b with
    | nil => rfl
    | cons entry rest => simpa [get?] using same entry.1
  | cons entry rest ih =>
    obtain ⟨name, value⟩ := entry
    cases b with
    | nil => simpa [get?] using same name
    | cons other others =>
      obtain ⟨name', value'⟩ := other
      obtain ⟨above, tail⟩ := List.pairwise_cons.1 ha
      obtain ⟨above', tail'⟩ := List.pairwise_cons.1 hb
      have heads : name = name' := by
        have left := same name
        have right := same name'
        simp only [get?, if_true] at left right
        by_cases h : name' = name
        · exact h.symm
        · rw [if_neg h] at left
          rw [if_neg (Ne.symm h)] at right
          exact absurd (above _ (mem_of_get?_eq_some right))
            (String.lt_asymm (above' _ (mem_of_get?_eq_some left.symm)))
      subst heads
      have values : value = value' := by simpa [get?] using same name
      subst values
      congr 1
      refine ih tail tail' fun key => ?_
      by_cases h : name = key
      · subst h
        have absent : ∀ {l : Entries α}, (∀ entry ∈ l, name < entry.1) → l.get? name = none := by
          intro l bound
          cases found : l.get? name with
          | none => rfl
          | some value => exact absurd (bound _ (mem_of_get?_eq_some found)) (String.lt_irrefl _)
        rw [absent above, absent above']
      · simpa [get?, h] using same key

end Entries

/-- Entries whose names increase strictly: a finite map from names to values. -/
structure Dict (α : Type u) where
  entries : Entries α
  sorted : entries.Sorted

namespace Dict

variable {α : Type u} {β : Type v}

/-- The dictionary without entries. -/
def empty : Dict α := ⟨[], List.Pairwise.nil⟩

instance : EmptyCollection (Dict α) := ⟨empty⟩

instance : Inhabited (Dict α) := ⟨empty⟩

instance [DecidableEq α] : DecidableEq (Dict α) := fun a b =>
  if h : a.entries = b.entries then .isTrue (by cases a; cases b; simp_all)
  else .isFalse fun same => h (congrArg entries same)

/-- The value under `key`. -/
def get? (dict : Dict α) (key : String) : Option α := dict.entries.get? key

/-- Whether `key` has a value. -/
def contains (dict : Dict α) (key : String) : Bool := dict.entries.contains key

/-- Sets the value under `key`. -/
def insert (dict : Dict α) (key : String) (value : α) : Dict α :=
  ⟨dict.entries.insert key value, dict.sorted.insert key value⟩

/-- Removes `key` and its value. -/
def erase (dict : Dict α) (key : String) : Dict α := ⟨dict.entries.erase key, dict.sorted.erase key⟩

/-- The names that have a value, in increasing order. -/
def keys (dict : Dict α) : List String := dict.entries.map (·.1)

/-- The number of entries. -/
def size (dict : Dict α) : Nat := dict.entries.length

/-- Whether there is no entry. -/
def isEmpty (dict : Dict α) : Bool := dict.entries.isEmpty

/-- Applies `f` to every value. -/
def map (f : α → β) (dict : Dict α) : Dict β :=
  ⟨dict.entries.map fun entry => (entry.1, f entry.2), by
    simpa [Entries.Sorted, List.pairwise_map] using dict.sorted⟩

/-- Keeps the entries whose value satisfies `keep`. -/
def filter (keep : α → Bool) (dict : Dict α) : Dict α :=
  ⟨dict.entries.filter fun entry => keep entry.2, List.Pairwise.filter _ dict.sorted⟩

/-- The entries as a dictionary; of two with one name the later wins. -/
def ofList (entries : List (String × α)) : Dict α := ⟨Entries.ofList entries, Entries.sorted_ofList entries⟩

@[simp]
theorem get?_empty (key : String) : (empty : Dict α).get? key = none := rfl

@[simp]
theorem get?_insert_self (dict : Dict α) (key : String) (value : α) :
    (dict.insert key value).get? key = some value := Entries.get?_insert_self ..

@[simp]
theorem get?_insert_of_ne (dict : Dict α) {key other : String} (value : α) (h : key ≠ other) :
    (dict.insert key value).get? other = dict.get? other := Entries.get?_insert_of_ne _ _ h

@[simp]
theorem get?_erase_self (dict : Dict α) (key : String) : (dict.erase key).get? key = none :=
  Entries.get?_erase_self ..

@[simp]
theorem get?_erase_of_ne (dict : Dict α) {key other : String} (h : key ≠ other) :
    (dict.erase key).get? other = dict.get? other := Entries.get?_erase_of_ne _ h

/-- A dictionary is determined by its look-ups. -/
theorem ext_get? {a b : Dict α} (same : ∀ key, a.get? key = b.get? key) : a = b := by
  obtain ⟨a, ha⟩ := a
  obtain ⟨b, hb⟩ := b
  congr 1
  exact Entries.Sorted.ext ha hb same

end Dict

/-- A finite set of names, listed in increasing order. -/
abbrev Names := Dict Unit

end SearchTenancy

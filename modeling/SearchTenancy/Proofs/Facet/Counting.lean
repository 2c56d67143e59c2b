import Mathlib.Algebra.BigOperators.Group.List.Basic
import Mathlib.Data.UInt
import SearchTenancy.Proofs.Facet.Aggregation
import SearchTenancy.Proofs.Facet.Order
import SearchTenancy.Proofs.Json.Equality

/-!
# The counts of a facet

Counting the values of a field one after the other keeps a tally of them: different
values, each with the number of its occurrences (`StoredIndex.Tally.countValue`). The
entries that are read from the buckets are those of the tally in another order, so a
facet counts for each value the documents that have it, and in total those that have
any (`Facet.counts_resultOf`).
-/

namespace SearchTenancy

/-! ## Tallies -/

namespace StoredIndex

/-- One of the entries is of the value and counts one more, or none is and a new one is appended. -/
theorem countValue_cases (value : Json) (counts : List (Json × Nat)) :
    (∃ front key count back, counts = front ++ (key, count) :: back ∧ key.sameValue value ∧
      countValue value counts = front ++ (key, count + 1) :: back) ∨
    (∀ key ∈ counts.map (·.1), ¬ key.sameValue value) ∧ countValue value counts = counts ++ [(value, 1)] := by
  induction counts with
  | nil => exact .inr ⟨fun _ mem => absurd mem List.not_mem_nil, rfl⟩
  | cons entry rest ih =>
    obtain ⟨key, count⟩ := entry
    unfold countValue
    by_cases same : key.sameValue value
    · rw [if_pos same]
      exact .inl ⟨[], key, count, rest, rfl, same, rfl⟩
    · rw [if_neg same]
      rcases ih with ⟨front, other, number, back, parts, equal, counted⟩ | ⟨new, counted⟩
      · exact .inl ⟨(key, count) :: front, other, number, back, by rw [parts]; rfl, equal, by rw [counted]; rfl⟩
      · exact .inr ⟨List.forall_mem_cons.2 ⟨same, new⟩, by rw [counted]; rfl⟩

/-- Different values, and how often each of them occurs among given ones. -/
structure Tally (values : List Json) (counts : List (Json × Nat)) : Prop where
  distinct : (counts.map (·.1)).Pairwise fun a b => ¬ a.sameValue b
  held : ∀ key ∈ counts.map (·.1), key ∈ values
  listed : ∀ value ∈ values, ∃ key ∈ counts.map (·.1), key.sameValue value
  counted : ∀ entry ∈ counts, entry.2 = values.countP entry.1.sameValue
  total : (counts.map (·.2)).sum = values.length

theorem tally_nil : Tally [] [] := by constructor <;> simp

variable {values : List Json} {counts : List (Json × Nat)} {value : Json}

theorem countP_append_one (key : Json) (values : List Json) (value : Json) :
    (values ++ [value]).countP key.sameValue =
      values.countP key.sameValue + if key.sameValue value then 1 else 0 := by
  rw [List.countP_append, List.countP_singleton]

/-- A value that is listed occurs once more. -/
theorem Tally.again {front back : List (Json × Nat)} {key : Json} {count : Nat}
    (h : Tally values (front ++ (key, count) :: back)) (same : key.sameValue value) :
    Tally (values ++ [value]) (front ++ (key, count + 1) :: back) := by
  have equality := Json.equivalence_sameValue
  have keys : (front ++ (key, count + 1) :: back).map (·.1) = (front ++ (key, count) :: back).map (·.1) := by simp
  -- No other entry is of the value, since it would be of the same key.
  have others : ∀ entry ∈ front ++ back, ¬ entry.1.sameValue value := by
    have distinct := h.distinct
    simp only [List.map_append, List.map_cons, List.pairwise_append, List.pairwise_cons, List.mem_cons] at distinct
    obtain ⟨-, ⟨behind, -⟩, before⟩ := distinct
    intro entry mem equal
    rcases List.mem_append.1 mem with mem | mem
    · exact before _ (List.mem_map_of_mem mem) key (.inl rfl) (equality.trans equal (equality.symm same))
    · exact behind _ (List.mem_map_of_mem mem) (equality.trans same (equality.symm equal))
  have unchanged : ∀ entry ∈ front ++ back, entry.2 = (values ++ [value]).countP entry.1.sameValue := by
    intro entry mem
    rw [countP_append_one, if_neg (others entry mem)]
    exact h.counted entry (List.mem_append.2 ((List.mem_append.1 mem).imp_right (List.mem_cons_of_mem _)))
  constructor
  case distinct => exact keys ▸ h.distinct
  case held => exact fun found mem => List.mem_append_left _ (h.held found (keys ▸ mem))
  case listed =>
    intro found mem
    rw [keys]
    rcases List.mem_append.1 mem with mem | mem
    · exact h.listed found mem
    · exact ⟨key, by simp, List.mem_singleton.1 mem ▸ same⟩
  case counted =>
    intro entry mem
    rcases List.mem_append.1 mem with mem | mem
    · exact unchanged entry (List.mem_append_left _ mem)
    · rcases List.mem_cons.1 mem with rfl | mem
      · rw [countP_append_one, if_pos same]
        exact congrArg (· + 1) (h.counted (key, count) (by simp))
      · exact unchanged entry (List.mem_append_right _ mem)
  case total =>
    have total := h.total
    simp only [List.map_append, List.map_cons, List.sum_append, List.sum_cons, List.length_append,
      List.length_singleton] at total ⊢
    omega

/-- A value that is not listed did not occur before. -/
theorem Tally.append (h : Tally values counts) (new : ∀ key ∈ counts.map (·.1), ¬ key.sameValue value) :
    Tally (values ++ [value]) (counts ++ [(value, 1)]) := by
  have equality := Json.equivalence_sameValue
  have never : values.countP value.sameValue = 0 := by
    refine List.countP_eq_zero.2 fun found mem equal => ?_
    obtain ⟨key, among, same⟩ := h.listed found mem
    exact new key among (equality.trans same (equality.symm equal))
  constructor
  case distinct =>
    rw [List.map_append, List.pairwise_append]
    refine ⟨h.distinct, List.pairwise_singleton _ _, fun key mem other single => ?_⟩
    obtain rfl := List.mem_singleton.1 single
    exact new key mem
  case held =>
    intro key mem
    rw [List.map_append] at mem
    rcases List.mem_append.1 mem with mem | mem
    · exact List.mem_append_left _ (h.held key mem)
    · exact List.mem_append_right _ mem
  case listed =>
    intro found mem
    rw [List.map_append]
    rcases List.mem_append.1 mem with mem | mem
    · obtain ⟨key, among, same⟩ := h.listed found mem
      exact ⟨key, List.mem_append_left _ among, same⟩
    · obtain rfl := List.mem_singleton.1 mem
      exact ⟨found, by simp, equality.refl found⟩
  case counted =>
    intro entry mem
    rw [countP_append_one]
    rcases List.mem_append.1 mem with mem | mem
    · rw [if_neg (new entry.1 (List.mem_map_of_mem mem))]
      exact h.counted entry mem
    · obtain rfl := List.mem_singleton.1 mem
      rw [never, if_pos (equality.refl value)]
  case total => simp [h.total]

/-- A tally is kept when one more value is counted. -/
theorem Tally.countValue (h : Tally values counts) (value : Json) :
    Tally (values ++ [value]) (StoredIndex.countValue value counts) := by
  rcases countValue_cases value counts with ⟨front, key, count, back, rfl, same, counted⟩ | ⟨new, counted⟩
  · exact counted ▸ h.again same
  · exact counted ▸ h.append new

theorem Tally.foldl (h : Tally values counts) (more : List Json) :
    Tally (values ++ more) (more.foldl (fun counts value => StoredIndex.countValue value counts) counts) := by
  induction more generalizing values counts with
  | nil => simpa using h
  | cons value rest ih => simpa using ih (h.countValue value)

theorem tally_countValues (documents : List (String × Members)) (field : String) :
    Tally (documents.filterMap fun document => Entries.get? document.2 field) (countValues documents field) :=
  tally_nil.foldl _

end StoredIndex

/-! ## Entries -/

namespace Facet

open StoredIndex

/-- The entries are of the values that a field has among some documents, each with the number of documents that have
it, and altogether with the number of those that have any. -/
structure Counts (documents : List (String × Members)) (field : String) (entries : List FacetValue) : Prop where
  distinct : (entries.map (·.value)).Pairwise fun a b => ¬ a.sameValue b
  held : ∀ value ∈ entries.map (·.value), ∃ document ∈ documents, Entries.get? document.2 field = some value
  listed : ∀ document ∈ documents, ∀ value, Entries.get? document.2 field = some value →
    ∃ found ∈ entries.map (·.value), found.sameValue value
  counted : ∀ entry ∈ entries, entry.count =
    (documents.countP fun document => (Entries.get? document.2 field).any entry.value.sameValue).toUInt64
  total : (entries.map (·.count)).sum =
    (documents.countP fun document => (Entries.get? document.2 field).isSome).toUInt64

/-- The order of the entries does not matter. -/
theorem Counts.perm {documents : List (String × Members)} {field : String} {entries others : List FacetValue}
    (h : Counts documents field entries) (perm : entries.Perm others) : Counts documents field others where
  distinct := by
    refine ((perm.map _).pairwise_iff fun {a b} differ same => differ ?_).1 h.distinct
    exact Json.equivalence_sameValue.symm same
  held value mem := h.held value ((perm.map _).mem_iff.2 mem)
  listed document mem value has := by
    obtain ⟨found, among, same⟩ := h.listed document mem value has
    exact ⟨found, (perm.map _).mem_iff.1 among, same⟩
  counted entry mem := h.counted entry (perm.mem_iff.2 mem)
  total := by
    rw [← h.total]
    exact (perm.map FacetValue.count).sum_eq.symm

/-- The entry of a count. -/
def entryOf (count : Json × Nat) : FacetValue := ⟨count.1, count.2.toUInt64⟩

theorem sum_toUInt64 (numbers : List Nat) : (numbers.map Nat.toUInt64).sum = numbers.sum.toUInt64 := by
  induction numbers with
  | nil => rfl
  | cons first rest ih =>
    rw [List.map_cons, List.sum_cons, List.sum_cons, ih]
    exact (UInt64.ofNat_add ..).symm

theorem counts_of_tally {documents : List (String × Members)} {field : String} {counts : List (Json × Nat)}
    (h : Tally (documents.filterMap fun document => Entries.get? document.2 field) counts) :
    Counts documents field (counts.map entryOf) := by
  have has (key : Json) : (documents.filterMap fun document => Entries.get? document.2 field).countP key.sameValue =
      documents.countP fun document => (Entries.get? document.2 field).any key.sameValue := by
    rw [List.countP_filterMap]
    refine List.countP_congr fun document _ => ?_
    cases Entries.get? document.2 field <;> simp
  have keys : (counts.map entryOf).map (·.value) = counts.map (·.1) := by
    rw [List.map_map]
    rfl
  constructor
  case distinct => exact keys ▸ h.distinct
  case held =>
    intro value mem
    exact List.mem_filterMap.1 (h.held value (keys ▸ mem))
  case listed =>
    intro document mem value found
    rw [keys]
    exact h.listed value (List.mem_filterMap.2 ⟨document, mem, found⟩)
  case counted =>
    intro entry mem
    obtain ⟨count, counted, rfl⟩ := List.mem_map.1 mem
    exact congrArg Nat.toUInt64 ((h.counted count counted).trans (has count.1))
  case total =>
    have numbers : (counts.map entryOf).map (·.count) = (counts.map (·.2)).map Nat.toUInt64 := by
      rw [List.map_map, List.map_map]
      rfl
    rw [numbers, sum_toUInt64, h.total, List.length_filterMap_eq_countP]

/-- The entries that are read are those of the counts, the buckets of which are sorted twice. -/
theorem perm_resultOf (documents : List (String × Members)) (field : String) (facet : FacetSpec) :
    (resultOf documents (some field) facet).values.Perm ((countValues documents field).map entryOf) := by
  have read : (resultOf documents (some field) facet).values = sortValues
      ((stableSort (fun a b => compare b.2 a.2) (countValues documents field)).map entryOf) facet.order := by
    unfold resultOf buckets
    show sortValues (List.map bucketValue (List.map _ _)) facet.order = _
    rw [List.map_map]
    rfl
  rw [read]
  exact (stableSort_perm _ _).trans ((stableSort_perm _ _).map entryOf)

theorem counts_resultOf (documents : List (String × Members)) (field : String) (facet : FacetSpec) :
    Counts documents field (resultOf documents (some field) facet).values :=
  (counts_of_tally (tally_countValues documents field)).perm (perm_resultOf documents field facet).symm

end Facet

end SearchTenancy

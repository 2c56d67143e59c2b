import SearchTenancy.Backend.Memory
import SearchTenancy.Proofs.Sorting
import SearchTenancy.Search.Query

/-!
# The order of hits

The clauses of a request order documents lexicographically, and documents that no
clause tells apart stand in the order of their ids (`StandsBefore`). Sorting by one
clause after the other, the last one first, puts documents in this order
(`pairwise_sortByAll`), if the values of each field that is sorted by are all numbers
or all strings. Otherwise values compare equal that are not, and there may be no order to
sort by (`exists_sortByAll?_iff`).
-/

namespace SearchTenancy

/-- One value of a field is smaller than another one. A field that is absent counts as larger than all values. -/
inductive Smaller : Option Json → Option Json → Prop
  | number {a b : Number} (below : a.toDouble.rank < b.toDouble.rank) : Smaller (some (.num a)) (some (.num b))
  | string {a b : String} (below : a < b) : Smaller (some (.str a)) (some (.str b))
  | absent (value : Json) : Smaller (some value) none

/-- A clause puts a document in front of another one: the one with the smaller value, or with the larger one if
the order is descending. -/
def SortClause.Prefers (clause : SortClause) (a b : Members) : Prop :=
  if clause.direction = some .descending then Smaller (Entries.get? b clause.field) (Entries.get? a clause.field)
  else Smaller (Entries.get? a clause.field) (Entries.get? b clause.field)

/-- The comparison that a clause sorts by. -/
def SortClause.compare (clause : SortClause) : String × Members → String × Members → Ordering :=
  StoredIndex.compareBy clause.field (clause.direction = some .descending)

/-- The first clause that tells two documents apart decides on their order, and the ids do if there is none. -/
def StandsBefore : List SortClause → String × Members → String × Members → Prop
  | [], a, b => a.1 < b.1
  | clause :: rest, a, b => clause.Prefers a.2 b.2 ∨ ¬ clause.Prefers b.2 a.2 ∧ StandsBefore rest a b

/-- Where documents have a field, it is always a number, or always a string. -/
def Uniform (field : String) (documents : List (String × Members)) : Prop :=
  (∀ document ∈ documents, Entries.get? document.2 field = none ∨
    ∃ number, Entries.get? document.2 field = some (.num number)) ∨
  ∀ document ∈ documents, Entries.get? document.2 field = none ∨
    ∃ text, Entries.get? document.2 field = some (.str text)

theorem Uniform.of_perm {field : String} {documents others : List (String × Members)} (h : Uniform field documents)
    (perm : documents.Perm others) : Uniform field others := by
  refine h.imp ?_ ?_
  · exact fun numbers document mem => numbers document (perm.mem_iff.2 mem)
  · exact fun strings document mem => strings document (perm.mem_iff.2 mem)

namespace StoredIndex

/-! ## Values -/

theorem compareValues_eq_lt {a b : Option Json} : compareValues a b = .lt ↔ Smaller a b := by
  constructor
  · intro below
    unfold compareValues at below
    split at below
    · exact .number (Int.compare_eq_lt.1 below)
    · exact .string (compareOfLessAndEq_eq_lt.1 below)
    · cases below
    · exact .absent _
    · cases below
  · intro smaller
    cases smaller with
    | number below => exact Int.compare_eq_lt.2 below
    | string below => exact compareOfLessAndEq_eq_lt.2 below
    | absent value => cases value <;> rfl

/-- The kinds of values in their order: numbers, strings, all others, and none. -/
def kindOf : Option Json → Nat
  | some (.num _) => 0
  | some (.str _) => 1
  | some _ => 2
  | none => 3

/-- The number that a value is. -/
def rankOf : Option Json → Int
  | some (.num number) => number.toDouble.rank
  | _ => 0

/-- The string that a value is. -/
def textOf : Option Json → String
  | some (.str text) => text
  | _ => ""

/-- An order of all values, by kind first. -/
def orderValues : Option Json → Option Json → Ordering :=
  compareLex (compareOn kindOf) (compareLex (compareOn rankOf) (compareOn textOf))

instance : Std.TransCmp orderValues := inferInstanceAs (Std.TransCmp (compareLex _ _))

-- The backend compares by this order where the values are of one kind.
theorem compareValues_numbers {a b : Option Json} (ha : a = none ∨ ∃ number, a = some (.num number))
    (hb : b = none ∨ ∃ number, b = some (.num number)) : compareValues a b = orderValues a b := by
  rcases ha with rfl | ⟨number, rfl⟩ <;> rcases hb with rfl | ⟨other, rfl⟩
  · rfl
  · rfl
  · rfl
  · simp [compareValues, orderValues, compareLex, compareOn, kindOf, rankOf, textOf, Double.compare]

theorem compareValues_strings {a b : Option Json} (ha : a = none ∨ ∃ text, a = some (.str text))
    (hb : b = none ∨ ∃ text, b = some (.str text)) : compareValues a b = orderValues a b := by
  rcases ha with rfl | ⟨text, rfl⟩ <;> rcases hb with rfl | ⟨other, rfl⟩
  · rfl
  · rfl
  · rfl
  · simp [compareValues, orderValues, compareLex, compareOn, kindOf, rankOf, textOf]

theorem compareValues_uniform {field : String} {documents : List (String × Members)}
    (uniform : Uniform field documents) {a b : String × Members} (ha : a ∈ documents) (hb : b ∈ documents) :
    compareValues (Entries.get? a.2 field) (Entries.get? b.2 field) =
      orderValues (Entries.get? a.2 field) (Entries.get? b.2 field) := by
  rcases uniform with numbers | strings
  · exact compareValues_numbers (numbers a ha) (numbers b hb)
  · exact compareValues_strings (strings a ha) (strings b hb)

/-! ## Clauses -/

def orderBy (clause : SortClause) (a b : String × Members) : Ordering :=
  if clause.direction = some .descending then orderValues (Entries.get? b.2 clause.field) (Entries.get? a.2 clause.field)
  else orderValues (Entries.get? a.2 clause.field) (Entries.get? b.2 clause.field)

instance (clause : SortClause) : Std.TransCmp (orderBy clause) where
  eq_swap {a b} := by
    unfold orderBy
    split
    · show orderValues _ _ = (orderValues _ _).swap
      exact Std.OrientedCmp.eq_swap
    · show orderValues _ _ = (orderValues _ _).swap
      exact Std.OrientedCmp.eq_swap
  isLE_trans {a b c} first second := by
    unfold orderBy at first second ⊢
    split at first
    · rename_i descending
      rw [if_pos descending] at second ⊢
      exact Std.TransCmp.isLE_trans second first
    · rename_i ascending
      rw [if_neg ascending] at second ⊢
      exact Std.TransCmp.isLE_trans first second

theorem sortKey?_sortClause (clause : SortClause) :
    sortKey? (CompiledQuery.sortClause clause) = some (clause.field, decide (clause.direction = some .descending)) := by
  obtain ⟨field, direction⟩ := clause
  rcases direction with _ | direction
  · rfl
  · cases direction <;> rfl

/-- A clause of a request sorts by its comparison. -/
theorem sortBy?_sortClause (documents : List (String × Members)) (clause : SortClause) :
    sortBy? documents (CompiledQuery.sortClause clause) = stableSort? clause.compare documents := by
  unfold sortBy?
  rw [sortKey?_sortClause]
  rfl

theorem sortBy?_perm {documents sorted : List (String × Members)} {clause : Json}
    (h : sortBy? documents clause = some sorted) : sorted.Perm documents := by
  unfold sortBy? at h
  split at h
  · obtain ⟨-, rfl⟩ := stableSort?_eq_some_iff.1 h
    exact stableSort_perm ..
  · cases h
    exact .refl _

section Uniform

variable {documents : List (String × Members)} {clause : SortClause} (uniform : Uniform clause.field documents)

include uniform

theorem compare_uniform {a b : String × Members} (ha : a ∈ documents) (hb : b ∈ documents) :
    clause.compare a b = orderBy clause a b := by
  unfold SortClause.compare compareBy
  rw [compareValues_uniform uniform ha hb, orderBy]
  by_cases descending : clause.direction = some .descending
  · rw [if_pos (by simpa using descending), if_pos descending]
    exact Std.OrientedCmp.eq_swap.symm
  · rw [if_neg (by simpa using descending), if_neg descending]

theorem orders_of_uniform : Orders clause.compare documents :=
  (Orders.of_transCmp (orderBy clause) documents).congr fun _ ha _ hb => (compare_uniform uniform ha hb).symm

theorem orderBy_eq_lt {a b : String × Members} (ha : a ∈ documents) (hb : b ∈ documents) :
    orderBy clause a b = .lt ↔ clause.Prefers a.2 b.2 := by
  unfold orderBy SortClause.Prefers
  split
  · rw [← compareValues_uniform uniform hb ha, compareValues_eq_lt]
  · rw [← compareValues_uniform uniform ha hb, compareValues_eq_lt]

/-- Documents that a clause does not tell apart keep their order. -/
theorem pairwise_sortBy {before : String × Members → String × Members → Prop} (given : documents.Pairwise before)
    {sorted : List (String × Members)} (sorts : sortBy? documents (CompiledQuery.sortClause clause) = some sorted) :
    sorted.Pairwise fun a b => clause.Prefers a.2 b.2 ∨ ¬ clause.Prefers b.2 a.2 ∧ before a b := by
  rw [sortBy?_sortClause] at sorts
  obtain ⟨-, rfl⟩ := stableSort?_eq_some_iff.1 sorts
  rw [stableSort_congr fun a ha b hb => compare_uniform uniform ha hb]
  refine (pairwise_stableSort_before (orderBy clause) given).imp_of_mem fun {a b} memA memB sorted => ?_
  have ha : a ∈ documents := (stableSort_perm ..).mem_iff.1 memA
  have hb : b ∈ documents := (stableSort_perm ..).mem_iff.1 memB
  rw [← orderBy_eq_lt uniform ha hb, ← orderBy_eq_lt uniform hb ha]
  rcases sorted with below | ⟨equal, earlier⟩
  · exact .inl below
  · have swapped : orderBy clause b a = (orderBy clause a b).swap := Std.OrientedCmp.eq_swap
    exact .inr ⟨by simp [swapped, equal], earlier⟩

end Uniform

/-! ## All clauses -/

theorem sortByAll?_cons (clause : Json) (rest : List Json) (documents : List (String × Members)) :
    sortByAll? (clause :: rest) documents = (sortByAll? rest documents).bind (sortBy? · clause) := by
  unfold sortByAll?
  rw [List.reverse_cons, List.foldlM_append]
  simp

theorem sortByAll?_perm {clauses : List Json} {documents sorted : List (String × Members)}
    (h : sortByAll? clauses documents = some sorted) : sorted.Perm documents := by
  induction clauses generalizing sorted with
  | nil =>
    cases h
    exact .refl _
  | cons clause rest ih =>
    rw [sortByAll?_cons] at h
    obtain ⟨middle, others, last⟩ := Option.bind_eq_some_iff.1 h
    exact (sortBy?_perm last).trans (ih others)

/-- Documents can be sorted by some clauses if they can be sorted by each of them. -/
theorem exists_sortByAll?_iff {clauses : List SortClause} {documents : List (String × Members)} :
    (∃ sorted, sortByAll? (clauses.map CompiledQuery.sortClause) documents = some sorted) ↔
      ∀ clause ∈ clauses, Sortable clause.compare documents := by
  induction clauses with
  | nil => exact ⟨fun _ _ mem => absurd mem List.not_mem_nil, fun _ => ⟨documents, rfl⟩⟩
  | cons clause rest ih =>
    simp only [List.map_cons, sortByAll?_cons, Option.bind_eq_some_iff, sortBy?_sortClause, stableSort?_eq_some_iff,
      List.forall_mem_cons, ← ih]
    constructor
    · rintro ⟨_, middle, others, sortable, -⟩
      exact ⟨sortable.of_perm (sortByAll?_perm others), middle, others⟩
    · rintro ⟨sortable, middle, others⟩
      exact ⟨_, middle, others, sortable.of_perm (sortByAll?_perm others).symm, rfl⟩

/-- Documents that stand in the order of their ids are put into the order of the clauses. -/
theorem pairwise_sortByAll {clauses : List SortClause} {documents sorted : List (String × Members)}
    (ids : documents.Pairwise fun a b => a.1 < b.1) (uniform : ∀ clause ∈ clauses, Uniform clause.field documents)
    (sorts : sortByAll? (clauses.map CompiledQuery.sortClause) documents = some sorted) :
    sorted.Pairwise (StandsBefore clauses) := by
  induction clauses generalizing sorted with
  | nil =>
    cases sorts
    exact ids
  | cons clause rest ih =>
    rw [List.map_cons, sortByAll?_cons] at sorts
    obtain ⟨middle, others, last⟩ := Option.bind_eq_some_iff.1 sorts
    have still := (uniform clause List.mem_cons_self).of_perm (sortByAll?_perm others).symm
    exact pairwise_sortBy still (ih (fun other mem => uniform other (List.mem_cons_of_mem _ mem)) others) last

end StoredIndex

end SearchTenancy

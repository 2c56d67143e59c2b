import SearchTenancy.Proofs.Facet.Order
import SearchTenancy.Proofs.Json.Rounding

/-!
# Facets of integers

Integers are compared through their nearest doubles, which keeps their order but does
not tell all of them apart. So the entries of a facet are brought into the order of
their integers if none of these has more than 53 binary digits; in general if and only
if the entries with one nearest double stood in this order before
(`Facet.integers_in_order`).
-/

namespace SearchTenancy.Facet

/-- The integer that a value is, if it is a number of such a kind. -/
def integer? : Json → Option Int
  | .num n => n.integer?
  | _ => none

/-- The values of two entries are integers, the first one not above the second one. -/
def Ascending (a b : FacetValue) : Prop := ∃ m ∈ integer? a.value, ∃ n ∈ integer? b.value, m ≤ n

instance (a b : FacetValue) : Decidable (Ascending a b) :=
  inferInstanceAs (Decidable (∃ m ∈ integer? a.value, ∃ n ∈ integer? b.value, m ≤ n))

theorem compareValues_integers {a b : Json} {m n : Int} (ha : integer? a = some m) (hb : integer? b = some n) :
    compareValues a b = compare (Double.integerRank m) (Double.integerRank n) := by
  cases a with
  | num a =>
    cases b with
    | num b => rw [compareValues, Double.compare, Number.rank_toDouble ha, Number.rank_toDouble hb]
    | _ => cases hb
  | _ => cases ha

/-- Of two integers with different nearest doubles the one with the smaller double is smaller. -/
theorem ascending_of_lt {a b : FacetValue} (ha : (integer? a.value).isSome) (hb : (integer? b.value).isSome)
    (below : compareValues a.value b.value = .lt) : Ascending a b := by
  obtain ⟨m, hm⟩ := Option.isSome_iff_exists.1 ha
  obtain ⟨n, hn⟩ := Option.isSome_iff_exists.1 hb
  refine ⟨m, hm, n, hn, Int.le_of_lt (Int.not_le.1 fun above => ?_)⟩
  rw [compareValues_integers hm hn, Int.compare_eq_lt] at below
  exact Int.not_le.2 below (Double.integerRank_mono above)

/-- Integers of at most 53 binary digits have nearest doubles of their own. -/
theorem eq_of_tied {a b : Json} {m n : Int} (ha : integer? a = some m) (hb : integer? b = some n)
    (small : m.natAbs ≤ 2 * binade ∧ n.natAbs ≤ 2 * binade) (tied : compareValues a b = .eq) : m = n := by
  rw [compareValues_integers ha hb, Int.compare_eq_eq] at tied
  rcases Int.lt_trichotomy m n with below | same | above
  · have apart := Double.integerRank_strict below (by omega) (by omega)
    omega
  · exact same
  · have apart := Double.integerRank_strict above (by omega) (by omega)
    omega

/-- Sorting entries by their values, which are integers, sorts these integers if and only if those of them with
the same nearest double stood in order before. So it does if none is beyond `2 ^ 53` on either side of zero. -/
theorem integers_in_order (values : List FacetValue) (integers : ∀ entry ∈ values, (integer? entry.value).isSome) :
    ((sortValues values .value).Pairwise Ascending ↔
      values.Pairwise fun a b => Tied .value a b → Ascending a b) ∧
    ((sortValues values .valueDescending).Pairwise (fun a b => Ascending b a) ↔
      values.Pairwise fun a b => Tied .valueDescending a b → Ascending b a) ∧
    ((∀ entry ∈ values, ∀ n ∈ integer? entry.value, n.natAbs ≤ 2 * binade) →
      (sortValues values .value).Pairwise Ascending ∧
      (sortValues values .valueDescending).Pairwise fun a b => Ascending b a) := by
  have ascending : (sortValues values .value).Pairwise Ascending ↔
      values.Pairwise fun a b => Tied .value a b → Ascending a b :=
    pairwise_stableSort_iff (compareEntries .value) fun a memA b memB =>
      ascending_of_lt (integers a memA) (integers b memB)
  have descending : (sortValues values .valueDescending).Pairwise (fun a b => Ascending b a) ↔
      values.Pairwise fun a b => Tied .valueDescending a b → Ascending b a := by
    simp only [tied_iff]
    exact pairwise_stableSort_iff (compareEntries .valueDescending) fun a memA b memB =>
      ascending_of_lt (integers b memB) (integers a memA)
  refine ⟨ascending, descending, fun small => ?_⟩
  -- Entries that are tied are of one integer, so they stand in both orders.
  have same : ∀ a ∈ values, ∀ b ∈ values, compareValues a.value b.value = .eq → Ascending a b ∧ Ascending b a := by
    intro a memA b memB tied
    obtain ⟨m, hm⟩ := Option.isSome_iff_exists.1 (integers a memA)
    obtain ⟨n, hn⟩ := Option.isSome_iff_exists.1 (integers b memB)
    obtain rfl := eq_of_tied hm hn ⟨small a memA m hm, small b memB n hn⟩ tied
    exact ⟨⟨m, hm, m, hn, Int.le_refl m⟩, ⟨m, hn, m, hm, Int.le_refl m⟩⟩
  rw [ascending, descending]
  exact ⟨List.pairwise_of_forall_mem_list fun a memA b memB tied => (same a memA b memB tied).1,
    List.pairwise_of_forall_mem_list fun a memA b memB tied => (same a memA b memB tied).2⟩

/-- Two integers that have one nearest double, the larger one first. -/
def neighbours : List FacetValue := [⟨.num (.natural 9007199254740993), 1⟩, ⟨.num (.natural 9007199254740992), 1⟩]

/-- The order that is asked for brings them in front of a negative integer, but leaves them as they stood. -/
theorem neighbours_among_others :
    (∀ entry ∈ ⟨.num (.negative 4), 3⟩ :: neighbours, (integer? entry.value).isSome) ∧
    (sortValues (⟨.num (.negative 4), 3⟩ :: neighbours) .valueDescending).Pairwise (fun a b => Ascending b a) ∧
    ¬ (sortValues (⟨.num (.negative 4), 3⟩ :: neighbours) .value).Pairwise Ascending := by
  have integers : ∀ entry ∈ ⟨.num (.negative 4), 3⟩ :: neighbours, (integer? entry.value).isSome := by decide +kernel
  have inOrder : (⟨.num (.negative 4), 3⟩ :: neighbours).Pairwise fun a b =>
      Tied .valueDescending a b → Ascending b a := by decide +kernel
  have outOfOrder : ¬ (⟨.num (.negative 4), 3⟩ :: neighbours).Pairwise fun a b =>
      Tied .value a b → Ascending a b := by decide +kernel
  have sorted := integers_in_order _ integers
  exact ⟨integers, sorted.2.1.2 inOrder, fun ascending => outOfOrder (sorted.1.1 ascending)⟩

/-- They stand in decreasing order after they have been sorted in increasing order. -/
theorem neighbours_stay_reversed :
    (∀ entry ∈ neighbours, (integer? entry.value).isSome) ∧
    sortValues neighbours .value = neighbours ∧ ¬ (sortValues neighbours .value).Pairwise Ascending :=
  ⟨by decide, by rfl, by decide +kernel⟩

end SearchTenancy.Facet

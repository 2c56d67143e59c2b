import SearchTenancy.Facet.Aggregation
import SearchTenancy.Proofs.Json.Opening
import SearchTenancy.Proofs.Sorting

/-!
# The order of facet values

Values of all kinds are in one order: strings, then numbers, then all others
(`Facet.compareValues_eq`). Within strings and numbers the values decide, and within the
others the texts; between the kinds it is the first characters of the texts. So the
order is total, and sorting puts the entries of a facet in it (`Facet.values_in_order`).
-/

namespace SearchTenancy.Facet

/-! ## Values -/

/-- The number that a value is. -/
def rankOf : Json → Int
  | .num n => n.toDouble.rank
  | _ => 0

/-- What a value is compared by within its kind, unless it is a number. -/
def textOf : Json → String
  | .num _ => ""
  | .str s => s
  | value => value.render

/-- Between kinds the texts decide, which are in the order of the kinds. -/
theorem compareValues_of_ne {a b : Json} (unlike : a.opening.1 ≠ b.opening.1) :
    compareValues a b = compare a.opening.1 b.opening.1 := by
  have texts : compare a.render b.render = compare a.opening.1 b.opening.1 := by
    rcases Nat.lt_or_gt_of_ne unlike with below | above
    · rw [Json.compare_render below, Nat.compare_eq_lt.2 below]
    · have swapped : compare a.render b.render = (compare b.render a.render).swap := Std.OrientedCmp.eq_swap
      rw [swapped, Json.compare_render above, Nat.compare_eq_gt.2 above]
      rfl
  unfold compareValues
  split
  · exact absurd rfl unlike
  · exact absurd rfl unlike
  · exact texts

theorem compareValues_of_eq {a b : Json} (alike : a.opening.1 = b.opening.1) :
    compareValues a b = (compare (rankOf a) (rankOf b)).then (compare (textOf a) (textOf b)) := by
  cases a <;> cases b <;> simp_all [Json.opening, compareValues, rankOf, textOf, Double.compare]

/-- An order by kind, number and text. -/
theorem compareValues_eq :
    compareValues = compareLex (compareOn fun value => value.opening.1) (compareLex (compareOn rankOf) (compareOn textOf)) := by
  funext a b
  by_cases alike : a.opening.1 = b.opening.1
  · simp [compareValues_of_eq alike, compareLex, compareOn, alike]
  · have decided : compare a.opening.1 b.opening.1 ≠ .eq := fun same => alike (Nat.compare_eq_eq.1 same)
    rw [compareValues_of_ne alike]
    cases order : compare a.opening.1 b.opening.1 <;> simp_all [compareLex, compareOn]

instance : Std.TransCmp compareValues := compareValues_eq ▸ inferInstanceAs (Std.TransCmp (compareLex _ _))

/-! ## Entries -/

/-- An order of one thing orders what has it. -/
theorem transCmp_on {α β : Type} (f : α → β) (cmp : β → β → Ordering) [Std.TransCmp cmp] :
    Std.TransCmp fun a b => cmp (f a) (f b) where
  eq_swap := Std.OrientedCmp.eq_swap
  isLE_trans := Std.TransCmp.isLE_trans

instance (order : FacetOrder) : Std.TransCmp (compareEntries order) :=
  match order with
  | .count => transCmp_on FacetValue.count compare
  | .countDescending => transCmp_on FacetValue.count fun a b => compare b a
  | .value => transCmp_on FacetValue.value compareValues
  | .valueDescending => transCmp_on FacetValue.value fun a b => compareValues b a

/-- An entry may stand in front of another one. -/
def InOrder (order : FacetOrder) (a b : FacetValue) : Prop :=
  match order with
  | .count => a.count ≤ b.count
  | .countDescending => b.count ≤ a.count
  | .value => (compareValues a.value b.value).isLE
  | .valueDescending => (compareValues b.value a.value).isLE

/-- An order does not tell two entries apart. -/
def Tied (order : FacetOrder) (a b : FacetValue) : Prop :=
  match order with
  | .count | .countDescending => a.count = b.count
  | .value | .valueDescending => compareValues a.value b.value = .eq

instance (order : FacetOrder) (a : FacetValue) : DecidablePred (Tied order a) := fun b =>
  match order with
  | .count | .countDescending => inferInstanceAs (Decidable (a.count = b.count))
  | .value | .valueDescending => inferInstanceAs (Decidable (compareValues a.value b.value = .eq))

theorem inOrder_iff {order : FacetOrder} {a b : FacetValue} : InOrder order a b ↔ (compareEntries order a b).isLE := by
  cases order with
  | count => exact Std.isLE_compare.symm
  | countDescending => exact Std.isLE_compare.symm
  | value => rfl
  | valueDescending => rfl

theorem tied_iff {order : FacetOrder} {a b : FacetValue} : Tied order a b ↔ compareEntries order a b = .eq := by
  cases order with
  | count => exact Std.compare_eq_iff_eq.symm
  | countDescending => exact Std.compare_eq_iff_eq.symm.trans Std.OrientedCmp.eq_comm
  | value => rfl
  | valueDescending => exact Std.OrientedCmp.eq_comm

/-- Values of all kinds are in one order that is total and transitive. So the entries of a facet can be sorted by
every order: they stand as it says, and those that it does not tell apart as they stood before. -/
theorem values_in_order :
    (∀ a b : Json, compareValues b a = (compareValues a b).swap) ∧
    (∀ a b c : Json, (compareValues a b).isLE → (compareValues b c).isLE → (compareValues a c).isLE) ∧
    ∀ (values : List FacetValue) (order : FacetOrder),
      (sortValues values order).Perm values ∧
      (sortValues values order).Pairwise (InOrder order) ∧
      ∀ entry, (sortValues values order).filter (Tied order entry) = values.filter (Tied order entry) := by
  refine ⟨fun a b => Std.OrientedCmp.eq_swap, fun a b c => Std.TransCmp.isLE_trans, fun values order => ⟨?_, ?_, ?_⟩⟩
  · exact stableSort_perm _ _
  · exact (pairwise_stableSort (compareEntries order) values).imp inOrder_iff.2
  · intro entry
    simp only [tied_iff]
    exact filter_stableSort (compareEntries order) entry values

/-- A string, a number and a list, each two of which are compared by their texts. -/
theorem unlike_values_in_order :
    (compareValues (.str "10") (.num (.natural 9))).isLE ∧ (compareValues (.num (.natural 9)) (.arr [])).isLE ∧
    (compareValues (.str "10") (.arr [])).isLE := by
  have first : (compareValues (.str "10") (.num (.natural 9))).isLE := by rfl
  have second : (compareValues (.num (.natural 9)) (.arr [])).isLE := by rfl
  exact ⟨first, second, values_in_order.2.1 _ _ _ first second⟩

-- The numbers `1` and `1.0` are tied, so they stay as they stood.
example : (sortValues [⟨.bool true, 1⟩, ⟨.num (.natural 1), 2⟩, ⟨.num (.double (.ofNat false 1)), 3⟩, ⟨.str "b", 4⟩]
    .value).map (·.count) = [4, 2, 3, 1] := by decide +kernel

end SearchTenancy.Facet

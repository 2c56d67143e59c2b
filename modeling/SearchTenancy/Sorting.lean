/-!
# Stable sorting

Sorting by insertion: each element in turn is moved towards the front past the
elements that it is smaller than. Elements that compare equal keep their order. Where
the comparison orders the elements of a list (`Orders`), every stable sort comes to this
(`stableSort`).

Where it does not, a sort may come upon comparisons that contradict each other and stop,
and if it does not stop it promises no order. Only short lists are sorted by insertion
whatever the comparison is. `stableSort?` has a result where there is one to rely on.
-/

namespace SearchTenancy

universe u

variable {α : Type u}

/-- Puts `x` into a list sorted from the largest to the smallest, in front of the first element
that it is not smaller than. -/
def sink (cmp : α → α → Ordering) (x : α) : List α → List α
  | [] => [x]
  | y :: rest => if cmp x y = .lt then y :: sink cmp x rest else x :: y :: rest

/-- The elements from the smallest to the largest, equal ones in the order of the list. -/
def stableSort (cmp : α → α → Ordering) (list : List α) : List α :=
  (list.foldl (fun sorted x => sink cmp x sorted) []).reverse

/-- The comparison is an order of the elements of a list. Different elements may be equal in it. -/
structure Orders (cmp : α → α → Ordering) (list : List α) : Prop where
  oriented : ∀ a ∈ list, ∀ b ∈ list, cmp a b = (cmp b a).swap
  transitive : ∀ a ∈ list, ∀ b ∈ list, ∀ c ∈ list, (cmp a b).isLE → (cmp b c).isLE → (cmp a c).isLE

instance (cmp : α → α → Ordering) (list : List α) : Decidable (Orders cmp list) :=
  decidable_of_iff ((∀ a ∈ list, ∀ b ∈ list, cmp a b = (cmp b a).swap) ∧
    ∀ a ∈ list, ∀ b ∈ list, ∀ c ∈ list, (cmp a b).isLE → (cmp b c).isLE → (cmp a c).isLE)
    ⟨fun h => ⟨h.1, h.2⟩, fun h => ⟨h.oriented, h.transitive⟩⟩

/-- The length up to which a list is sorted by insertion, whatever the comparison is. -/
def insertionLimit : Nat := 20

/-- A list for which a sort is sure to end with a result: a short one, or one that the comparison orders. -/
def Sortable (cmp : α → α → Ordering) (list : List α) : Prop := list.length ≤ insertionLimit ∨ Orders cmp list

instance (cmp : α → α → Ordering) (list : List α) : Decidable (Sortable cmp list) :=
  inferInstanceAs (Decidable (_ ∨ _))

/-- The result of a sort, if it is sure to have one. -/
def stableSort? (cmp : α → α → Ordering) (list : List α) : Option (List α) :=
  if Sortable cmp list then some (stableSort cmp list) else none

theorem sink_perm (cmp : α → α → Ordering) (x : α) (list : List α) : (sink cmp x list).Perm (x :: list) := by
  induction list with
  | nil => exact .refl _
  | cons y rest ih =>
    unfold sink
    split
    · exact (ih.cons y).trans (.swap x y rest)
    · exact .refl _

theorem stableSort_perm (cmp : α → α → Ordering) (list : List α) : (stableSort cmp list).Perm list := by
  suffices h : ∀ sorted : List α,
      (list.foldl (fun sorted x => sink cmp x sorted) sorted).Perm (list ++ sorted) by
    simpa [stableSort] using (List.reverse_perm _).trans (h [])
  induction list with
  | nil => exact fun sorted => .refl _
  | cons x rest ih =>
    intro sorted
    refine (ih (sink cmp x sorted)).trans ?_
    exact ((sink_perm cmp x sorted).append_left rest).trans List.perm_middle

end SearchTenancy

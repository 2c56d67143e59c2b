import Mathlib.Data.List.Basic
import SearchTenancy.Sorting

/-!
# Sorted lists

Sorting puts a list in order if the comparison is one (`pairwise_stableSort`), and keeps
the order of elements that compare equal (`pairwise_stableSort_before`,
`filter_stableSort`). So it puts a list in a coarser order as far as these elements
already are in it (`pairwise_stableSort_iff`). Whether a sort may stop does not depend on
how the list stands at first (`Sortable.of_perm`). A list without repetition is determined
by its members and a strict order in which they stand (`eq_of_pairwise_lt`); in a list
without its later repetitions the elements stand in the order of their first places
(`pairwise_eraseDups`).
-/

namespace SearchTenancy

universe u

variable {α : Type u}

section Comparison

variable (cmp : α → α → Ordering)

/-- Only the comparisons of elements of the list matter. -/
theorem stableSort_congr {cmp other : α → α → Ordering} {list : List α}
    (alike : ∀ a ∈ list, ∀ b ∈ list, cmp a b = other a b) : stableSort cmp list = stableSort other list := by
  have sinks {x : α} {sorted : List α} (alike : ∀ y ∈ sorted, cmp x y = other x y) :
      sink cmp x sorted = sink other x sorted := by
    induction sorted with
    | nil => rfl
    | cons y rest ih =>
      rw [sink, sink, alike y List.mem_cons_self, ih fun z mem => alike z (List.mem_cons_of_mem _ mem)]
  -- What is sorted so far is made of elements of the list, too.
  suffices h : ∀ rest sorted : List α, rest ⊆ list → sorted ⊆ list →
      rest.foldl (fun sorted x => sink cmp x sorted) sorted = rest.foldl (fun sorted x => sink other x sorted) sorted by
    rw [stableSort, stableSort, h list [] (List.Subset.refl _) (List.nil_subset _)]
  intro rest
  induction rest with
  | nil => exact fun _ _ _ => rfl
  | cons x others ih =>
    intro sorted within sortedWithin
    have here : x ∈ list := within List.mem_cons_self
    rw [List.foldl_cons, List.foldl_cons, sinks fun y mem => alike x here y (sortedWithin mem)]
    refine ih _ (fun y mem => within (List.mem_cons_of_mem _ mem)) fun y mem => ?_
    rcases List.mem_cons.1 ((sink_perm other x sorted).mem_iff.1 mem) with rfl | mem
    · exact here
    · exact sortedWithin mem

variable [Std.TransCmp cmp] {before : α → α → Prop}

/-- The order of a stable sort: elements that compare equal stand as they stood before. -/
def SortedBefore (before : α → α → Prop) (a b : α) : Prop := cmp a b = .lt ∨ cmp a b = .eq ∧ before a b

/-- An element finds its place in a list sorted from the largest to the smallest, behind all that it is equal
to. -/
theorem pairwise_sink (x : α) {list : List α} (sorted : list.Pairwise fun a b => SortedBefore cmp before b a)
    (earlier : ∀ y ∈ list, before y x) : (sink cmp x list).Pairwise fun a b => SortedBefore cmp before b a := by
  induction list with
  | nil => exact List.pairwise_singleton _ _
  | cons y rest ih =>
    obtain ⟨above, tail⟩ := List.pairwise_cons.1 sorted
    unfold sink
    split
    · rename_i below
      refine List.pairwise_cons.2 ⟨fun z mem => ?_, ih tail fun z mem => earlier z (List.mem_cons_of_mem _ mem)⟩
      rcases List.mem_cons.1 ((sink_perm cmp x rest).mem_iff.1 mem) with rfl | mem
      · exact .inl below
      · exact above z mem
    · rename_i notBelow
      have least : (cmp y x).isLE := by
        have swapped : cmp y x = (cmp x y).swap := Std.OrientedCmp.eq_swap
        cases order : cmp x y <;> simp_all
      refine List.pairwise_cons.2 ⟨fun z mem => ?_, sorted⟩
      have below : (cmp z x).isLE := by
        rcases List.mem_cons.1 mem with rfl | mem
        · exact least
        · refine Std.TransCmp.isLE_trans ?_ least
          rcases above z mem with lt | ⟨eq, -⟩
          · rw [lt]; rfl
          · rw [eq]; rfl
      rcases Ordering.isLE_iff_eq_lt_or_eq_eq.1 below with lt | eq
      · exact .inl lt
      · exact .inr ⟨eq, earlier z mem⟩

/-- Sorting keeps the order of elements that compare equal. -/
theorem pairwise_stableSort_before {list : List α} (given : list.Pairwise before) :
    (stableSort cmp list).Pairwise (SortedBefore cmp before) := by
  -- What is sorted so far runs from the largest to the smallest, and stood before all that is left.
  suffices h : ∀ sorted : List α, sorted.Pairwise (fun a b => SortedBefore cmp before b a) →
      (∀ y ∈ sorted, ∀ x ∈ list, before y x) →
      (list.foldl (fun sorted x => sink cmp x sorted) sorted).Pairwise fun a b => SortedBefore cmp before b a by
    exact List.pairwise_reverse.2 (h [] List.Pairwise.nil fun _ mem => absurd mem List.not_mem_nil)
  induction list with
  | nil => exact fun _ sorted _ => sorted
  | cons x rest ih =>
    obtain ⟨first, others⟩ := List.pairwise_cons.1 given
    refine fun sorted h earlier => ih others _ (pairwise_sink cmp x h fun y mem => earlier y mem x List.mem_cons_self) ?_
    intro y mem z later
    rcases List.mem_cons.1 ((sink_perm cmp x sorted).mem_iff.1 mem) with rfl | mem
    · exact first z later
    · exact earlier y mem z (List.mem_cons_of_mem _ later)

theorem pairwise_stableSort (list : List α) : (stableSort cmp list).Pairwise fun a b => (cmp a b).isLE := by
  have given : list.Pairwise fun _ _ => True := List.pairwise_of_forall fun _ _ => trivial
  refine (pairwise_stableSort_before cmp given).imp fun {a b} ordered => ?_
  rcases ordered with lt | ⟨eq, -⟩
  · rw [lt]; rfl
  · rw [eq]; rfl

/-- An element moves past those only that it differs from. -/
theorem filter_sink (a x : α) (list : List α) :
    (sink cmp x list).filter (cmp a · = .eq) = (x :: list).filter (cmp a · = .eq) := by
  induction list with
  | nil => rfl
  | cons y rest ih =>
    unfold sink
    split
    · rename_i below
      rw [List.filter_cons, ih]
      by_cases same : cmp a x = .eq
      · have differs : ¬ cmp a y = .eq := fun same' => by
          have equal : cmp x y = .eq := Std.TransCmp.eq_trans (Std.OrientedCmp.eq_symm same) same'
          rw [equal] at below
          cases below
        simp [same, differs]
      · simp [same, List.filter_cons]
    · rfl

/-- Elements that compare equal keep their order. -/
theorem filter_stableSort (a : α) (list : List α) :
    (stableSort cmp list).filter (cmp a · = .eq) = list.filter (cmp a · = .eq) := by
  suffices h : ∀ sorted : List α, (list.foldl (fun sorted x => sink cmp x sorted) sorted).filter (cmp a · = .eq) =
      (list.filter (cmp a · = .eq)).reverse ++ sorted.filter (cmp a · = .eq) by
    rw [stableSort, List.filter_reverse, h [], List.filter_nil, List.append_nil, List.reverse_reverse]
  induction list with
  | nil => exact fun _ => rfl
  | cons x rest ih =>
    intro sorted
    rw [List.foldl_cons, ih, filter_sink, List.filter_cons, List.filter_cons]
    by_cases same : cmp a x = .eq <;> simp [same]

/-- Sorting brings a list into an order that the comparison refines, unless the elements that compare equal are
out of this order already. -/
theorem pairwise_stableSort_iff {le : α → α → Prop} {list : List α}
    (refines : ∀ a ∈ list, ∀ b ∈ list, cmp a b = .lt → le a b) :
    (stableSort cmp list).Pairwise le ↔ list.Pairwise fun a b => cmp a b = .eq → le a b := by
  constructor
  · intro sorted
    refine List.pairwise_iff_forall_sublist.2 fun {a b} earlier same => ?_
    -- The two elements keep their order among those that are equal to the first one.
    have among : [a, b].Sublist (list.filter (cmp a · = .eq)) := by
      have self : cmp a a = .eq := Std.ReflCmp.compare_self
      simpa [List.filter_cons, self, same] using earlier.filter (cmp a · = .eq)
    rw [← filter_stableSort cmp a list] at among
    exact List.pairwise_iff_forall_sublist.1 sorted (among.trans List.filter_sublist)
  · intro ordered
    refine (pairwise_stableSort_before cmp ordered).imp_of_mem fun {a b} memA memB before => ?_
    rcases before with lt | ⟨eq, before⟩
    · have within := stableSort_perm cmp list
      exact refines a (within.mem_iff.1 memA) b (within.mem_iff.1 memB) lt
    · exact before eq

end Comparison

/-! ## Sorts that may stop -/

section Outcome

variable {cmp : α → α → Ordering} {list : List α}

theorem Orders.of_transCmp (cmp : α → α → Ordering) [Std.TransCmp cmp] (list : List α) : Orders cmp list where
  oriented _ _ _ _ := Std.OrientedCmp.eq_swap
  transitive _ _ _ _ _ _ := Std.TransCmp.isLE_trans

theorem Orders.congr {other : α → α → Ordering} (orders : Orders cmp list)
    (alike : ∀ a ∈ list, ∀ b ∈ list, cmp a b = other a b) : Orders other list where
  oriented a ha b hb := by
    rw [← alike a ha b hb, ← alike b hb a ha]
    exact orders.oriented a ha b hb
  transitive a ha b hb c hc := by
    rw [← alike a ha b hb, ← alike b hb c hc, ← alike a ha c hc]
    exact orders.transitive a ha b hb c hc

theorem Sortable.of_perm {others : List α} (h : Sortable cmp list) (perm : list.Perm others) : Sortable cmp others := by
  refine h.imp (fun short => perm.length_eq ▸ short) fun orders => ?_
  constructor
  · intro a ha b hb
    exact orders.oriented a (perm.mem_iff.2 ha) b (perm.mem_iff.2 hb)
  · intro a ha b hb c hc
    exact orders.transitive a (perm.mem_iff.2 ha) b (perm.mem_iff.2 hb) c (perm.mem_iff.2 hc)

theorem stableSort?_eq_some_iff {sorted : List α} :
    stableSort? cmp list = some sorted ↔ Sortable cmp list ∧ stableSort cmp list = sorted := by
  unfold stableSort?
  split
  · rename_i sortable
    simp [sortable]
  · rename_i unsortable
    simp [unsortable]

end Outcome

/-- Two lists in one strict order with the same members are the same. -/
theorem eq_of_pairwise_lt {lt : α → α → Prop} (asymm : ∀ a b, lt a b → ¬ lt b a) {one other : List α}
    (first : one.Pairwise lt) (second : other.Pairwise lt) (same : ∀ a, a ∈ one ↔ a ∈ other) : one = other := by
  have nodup {list : List α} (h : list.Pairwise lt) : list.Nodup := by
    refine h.imp fun {a b} below equal => ?_
    subst equal
    exact asymm a a below below
  refine List.Perm.eq_of_pairwise (fun a b _ _ below above => absurd above (asymm a b below)) first second ?_
  exact (List.perm_ext_iff_of_nodup (nodup first) (nodup second)).2 same

variable [BEq α] [LawfulBEq α]

theorem idxOf_cons_lt_idxOf_cons {first x y : α} {rest : List α} :
    (first :: rest).idxOf x < (first :: rest).idxOf y ↔ first ≠ y ∧ (first = x ∨ rest.idxOf x < rest.idxOf y) := by
  by_cases isY : first = y
  · simp [isY]
  · by_cases isX : first = x
    · subst isX
      simp [List.idxOf_cons_ne _ isY, isY]
    · simp [List.idxOf_cons_ne _ isY, List.idxOf_cons_ne _ isX, isX, isY]

theorem idxOf_lt_of_filter {keep : α → Bool} {x y : α} (hy : keep y) {list : List α}
    (h : (list.filter keep).idxOf x < (list.filter keep).idxOf y) : list.idxOf x < list.idxOf y := by
  induction list with
  | nil => simp at h
  | cons first rest ih =>
    rw [idxOf_cons_lt_idxOf_cons]
    by_cases kept : keep first
    · rw [List.filter_cons_of_pos kept, idxOf_cons_lt_idxOf_cons] at h
      exact ⟨h.1, h.2.imp_right ih⟩
    · rw [List.filter_cons_of_neg kept] at h
      refine ⟨?_, .inr (ih h)⟩
      rintro rfl
      exact kept hy

/-- Without later repetitions the elements stand in the order of their first places. -/
theorem pairwise_eraseDups (list : List α) :
    list.eraseDups.Pairwise fun a b => list.idxOf a < list.idxOf b := by
  cases list with
  | nil => exact List.Pairwise.nil
  | cons first rest =>
    have other {b : α} (mem : b ∈ (rest.filter fun b => !b == first).eraseDups) : first ≠ b := by
      rintro rfl
      simp at mem
    rw [List.eraseDups_cons]
    refine List.pairwise_cons.2 ⟨fun b mem => ?_, ?_⟩
    · exact idxOf_cons_lt_idxOf_cons.2 ⟨other mem, .inl rfl⟩
    · refine (pairwise_eraseDups (rest.filter fun b => !b == first)).imp_of_mem fun {a b} memA memB below => ?_
      have later : rest.idxOf a < rest.idxOf b := by
        refine idxOf_lt_of_filter ?_ below
        simpa using Ne.symm (other memB)
      exact idxOf_cons_lt_idxOf_cons.2 ⟨other memB, .inr later⟩
termination_by list.length
decreasing_by
  have shorter := List.length_filter_le (fun b => !b == first) rest
  simp only [List.length_cons]
  omega

end SearchTenancy

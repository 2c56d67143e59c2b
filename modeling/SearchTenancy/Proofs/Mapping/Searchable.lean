import SearchTenancy.Mapping.Basic
import SearchTenancy.Proofs.Dict
import SearchTenancy.Proofs.Sorting

/-!
# The list of searchable fields

Which fields are listed as searchable (`mem_searchableFields`), and in which order.
The list depends on its members and the order of their recorded places alone
(`searchableFields_congr_places`); if the recorded fields are the searchable ones, it is the
record without repetition (`searchableFields_eq_eraseDups`).
-/

namespace SearchTenancy.IndexMapping

theorem mem_appendNew {names more : List String} {name : String} :
    name ∈ appendNew names more ↔ name ∈ names ∨ name ∈ more := by
  induction more generalizing names with
  | nil => simp [appendNew]
  | cons first rest ih =>
    show name ∈ appendNew _ rest ↔ _
    rw [ih]
    by_cases known : first ∈ names
    · simp only [List.contains_iff_mem, known, if_true, List.mem_cons]
      refine ⟨Or.imp_right Or.inr, ?_⟩
      rintro (old | rfl | new)
      · exact .inl old
      · exact .inl known
      · exact .inr new
    · simp [known, or_assoc]

theorem nodup_appendNew {names : List String} (distinct : names.Nodup) (more : List String) :
    (appendNew names more).Nodup := by
  induction more generalizing names with
  | nil => exact distinct
  | cons first rest ih =>
    show (appendNew (if names.contains first then names else names ++ [first]) rest).Nodup
    refine ih ?_
    split
    · exact distinct
    · rename_i new
      refine List.nodup_append.2 ⟨distinct, by simp, ?_⟩
      intro a memA b memB
      rw [List.mem_singleton.1 memB]
      rintro rfl
      exact new (by simpa using memA)

variable {mapping other : IndexMapping}

theorem mem_enabledFields (sorted : mapping.properties.Sorted) {field : String} :
    field ∈ mapping.enabledFields ↔ (mapping.field? field).any FieldMapping.isSearchable := by
  unfold enabledFields field?
  rw [← Entries.get?_isSome_iff, sorted.get?_filter]
  cases mapping.properties.get? field <;> simp [Option.filter]

/-- A field is listed if it is mapped as indexed or a template waits for it. -/
theorem mem_searchableFields (sorted : mapping.properties.Sorted) {field : String} :
    field ∈ mapping.searchableFields ↔
      (mapping.field? field).any FieldMapping.isSearchable ∨ field ∈ mapping.templatedFields := by
  unfold searchableFields
  rw [(stableSort_perm _ _).mem_iff, mem_appendNew, mem_enabledFields sorted]

theorem nodup_searchableFields (sorted : mapping.properties.Sorted) : mapping.searchableFields.Nodup := by
  refine (stableSort_perm _ _).nodup_iff.2 (nodup_appendNew ?_ _)
  have kept : Entries.Sorted (mapping.properties.filter fun entry => entry.2.isSearchable) :=
    List.Pairwise.filter _ sorted
  exact kept.nodup_keys

/-! ## The order of the list -/

instance (mapping : IndexMapping) : Std.TransCmp mapping.compareFields :=
  inferInstanceAs (Std.TransCmp (compareLex (compareOn mapping.place) compare))

/-- Fields that compare equal are the same. -/
theorem eq_of_compareFields {a b : String} (h : mapping.compareFields a b = .eq) : a = b := by
  have names := (Ordering.then_eq_eq.1 h).2
  exact Std.LawfulEqOrd.eq_of_compare names

/-- The fields are listed in strictly increasing order. -/
theorem pairwise_searchableFields (sorted : mapping.properties.Sorted) :
    mapping.searchableFields.Pairwise fun a b => mapping.compareFields a b = .lt := by
  have ordered := pairwise_stableSort mapping.compareFields
    (appendNew mapping.enabledFields mapping.templatedFields)
  refine (ordered.and (nodup_searchableFields sorted)).imp fun {a b} ⟨below, different⟩ => ?_
  -- Two fields of one place and name would be one field, which is listed once.
  cases order : mapping.compareFields a b with
  | lt => rfl
  | eq => exact absurd (eq_of_compareFields order) different
  | gt => rw [order] at below; cases below

theorem compareFields_asymm (a b : String) (h : mapping.compareFields a b = .lt) :
    ¬ mapping.compareFields b a = .lt := by
  have swapped : mapping.compareFields b a = (mapping.compareFields a b).swap := Std.OrientedCmp.eq_swap
  rw [swapped, h]
  simp

theorem compareFields_eq_lt_iff {a b : String} :
    mapping.compareFields a b = .lt ↔ mapping.place a < mapping.place b ∨ mapping.place a = mapping.place b ∧ a < b := by
  have names : compare a b = .lt ↔ a < b := compareOfLessAndEq_eq_lt
  rw [compareFields, Ordering.then_eq_lt, Nat.compare_eq_lt, Nat.compare_eq_eq, names]

/-- The list depends on its members and the order of their places alone. -/
theorem searchableFields_congr_places (sorted : mapping.properties.Sorted) (sorted' : other.properties.Sorted)
    (order : ∀ a ∈ mapping.searchableFields, ∀ b ∈ mapping.searchableFields,
      (other.place a < other.place b ↔ mapping.place a < mapping.place b))
    (same : ∀ field, field ∈ other.searchableFields ↔ field ∈ mapping.searchableFields) :
    other.searchableFields = mapping.searchableFields := by
  refine eq_of_pairwise_lt compareFields_asymm ?_ (pairwise_searchableFields sorted) same
  refine (pairwise_searchableFields sorted').imp_of_mem fun {a b} memA memB below => ?_
  have here := (same a).1 memA
  have there := (same b).1 memB
  rw [compareFields_eq_lt_iff] at below ⊢
  have forth := order a here b there
  have back := order b there a here
  refine below.imp forth.1 fun ⟨level, names⟩ => ⟨?_, names⟩
  omega

/-- The list depends on its members and the recorded order alone. -/
theorem searchableFields_congr (sorted : mapping.properties.Sorted) (sorted' : other.properties.Sorted)
    (order : other.declaredSearchable = mapping.declaredSearchable)
    (same : ∀ field, field ∈ other.searchableFields ↔ field ∈ mapping.searchableFields) :
    other.searchableFields = mapping.searchableFields := by
  refine searchableFields_congr_places sorted sorted' (fun a _ b _ => ?_) same
  rw [place, place, order, place, place]

/-- If the recorded fields are searchable, they come first, in their order and each once. The others follow in the
order of their names. -/
theorem searchableFields_eq_append (sorted : mapping.properties.Sorted)
    (listed : ∀ field ∈ mapping.declaredSearchable, field ∈ mapping.searchableFields) :
    ∃ others : List String, mapping.searchableFields = mapping.declaredSearchable.eraseDups ++ others ∧
      others.Pairwise (· < ·) ∧
      ∀ field, field ∈ others ↔ field ∈ mapping.searchableFields ∧ field ∉ mapping.declaredSearchable := by
  let others := mapping.searchableFields.filter fun field => field ∉ mapping.declaredSearchable
  have mem_others (field : String) :
      field ∈ others ↔ field ∈ mapping.searchableFields ∧ field ∉ mapping.declaredSearchable := by
    simp [others]
  have last {field : String} (mem : field ∈ others) : mapping.place field = mapping.declaredSearchable.length :=
    List.idxOf_eq_length ((mem_others field).1 mem).2
  have ordered : others.Pairwise fun a b => mapping.compareFields a b = .lt :=
    (pairwise_searchableFields sorted).filter _
  refine ⟨others, ?_, ?_, mem_others⟩
  · refine eq_of_pairwise_lt compareFields_asymm (pairwise_searchableFields sorted) ?_ fun field => ?_
    · refine List.pairwise_append.2 ⟨?_, ordered, fun a first b mem => ?_⟩
      · exact (pairwise_eraseDups mapping.declaredSearchable).imp fun before => compareFields_eq_lt_iff.2 (.inl before)
      · refine compareFields_eq_lt_iff.2 (.inl ?_)
        rw [last mem]
        exact List.idxOf_lt_length_of_mem (List.mem_eraseDups.1 first)
    · rw [List.mem_append, List.mem_eraseDups, mem_others]
      constructor
      · intro mem
        by_cases recorded : field ∈ mapping.declaredSearchable
        · exact .inl recorded
        · exact .inr ⟨mem, recorded⟩
      · rintro (recorded | ⟨mem, -⟩)
        · exact listed field recorded
        · exact mem
  · refine ordered.imp_of_mem fun {a b} memA memB below => ?_
    -- Fields without a place differ in their names only.
    rw [compareFields_eq_lt_iff, last memA, last memB] at below
    exact (below.resolve_left (Nat.lt_irrefl _)).2

/-- If the recorded fields are the searchable ones, the list is the record, each field once. -/
theorem searchableFields_eq_eraseDups (sorted : mapping.properties.Sorted)
    (same : ∀ field, field ∈ mapping.searchableFields ↔ field ∈ mapping.declaredSearchable) :
    mapping.searchableFields = mapping.declaredSearchable.eraseDups := by
  obtain ⟨others, listed, -, mem_others⟩ := searchableFields_eq_append sorted fun field => (same field).2
  have none : others = [] := by
    apply List.eq_nil_iff_forall_not_mem.2
    intro field mem
    obtain ⟨searchable, unrecorded⟩ := (mem_others field).1 mem
    exact unrecorded ((same field).1 searchable)
  rw [listed, none, List.append_nil]

end SearchTenancy.IndexMapping

import SearchTenancy.Error
import SearchTenancy.Proofs.Json.Member

/-!
# What a report means

Only the body of a report tells a missing document from a missing index. A document is
missing if the body has both an `_index` that is not null and a `found` that is false
(`BackendError.classification_eq_objectNotFound_iff`). An index is missing if the status
is that of something missing and there is no such `_index`
(`BackendError.classification_eq_indexNotFound_iff`).
-/

namespace SearchTenancy.BackendError

/-- The body tells the index of a document: its `_index` is there and not null. -/
def TellsIndex (body : Json) : Prop := ∃ index, body.get? "_index" = some index ∧ index ≠ .null

/-- The body tells of a document that was not found. -/
def TellsMissing (body : Json) : Prop := TellsIndex body ∧ body.get? "found" = some (.bool false)

variable {error : BackendError}

theorem classification_withoutIndex_eq_indexNotFound_iff :
    classification.withoutIndex error = .indexNotFound ↔ error.status = some 404 := by
  unfold classification.withoutIndex isNotFoundStatus
  split <;> simp_all

theorem classification_withoutIndex_ne_objectNotFound : classification.withoutIndex error ≠ .objectNotFound := by
  unfold classification.withoutIndex
  split <;> nofun

/-- Without an `_index` that is not null, the status decides. -/
theorem classification_of_not_tellsIndex (h : ∀ body ∈ error.body, ¬TellsIndex body) :
    error.classification = classification.withoutIndex error := by
  unfold classification
  split
  · rename_i index found
    obtain ⟨body, given, member⟩ := Option.bind_eq_some_iff.1 found
    have null : index = .null := Classical.byContradiction fun some => h body given ⟨index, member, some⟩
    simp [null, Json.isNull]
  · rfl

/-- With it, the body does. -/
theorem classification_of_tellsIndex {body : Json} (given : error.body = some body) (h : TellsIndex body) :
    error.classification =
      if (body.get? "found").bind Json.asBool? = some false then .objectNotFound else .unclassified := by
  obtain ⟨index, member, notNull⟩ := h
  have told : error.bodyMember? "_index" = some index := by rw [bodyMember?, given]; exact member
  have read : ¬index.isNull := by simpa using Json.not_isNull_iff.2 notNull
  unfold classification
  rw [told]
  simp only [bodyMember?, given, Option.bind_some, if_neg read]

theorem classification_eq_objectNotFound_iff :
    error.classification = .objectNotFound ↔ ∃ body ∈ error.body, TellsMissing body := by
  by_cases told : ∃ body ∈ error.body, TellsIndex body
  · obtain ⟨body, given, tells⟩ := told
    rw [classification_of_tellsIndex given tells]
    constructor
    · intro missing
      split at missing
      · rename_i found
        exact ⟨body, given, tells, Json.bind_asBool?_eq_some.1 found⟩
      · cases missing
    · rintro ⟨_, given', missing⟩
      cases Option.some.inj (given.symm.trans given')
      exact if_pos (Json.bind_asBool?_eq_some.2 missing.2)
  · have untold : ∀ body ∈ error.body, ¬TellsIndex body := fun body given tells => told ⟨body, given, tells⟩
    rw [classification_of_not_tellsIndex untold]
    exact ⟨fun missing => absurd missing classification_withoutIndex_ne_objectNotFound,
      fun ⟨body, given, missing⟩ => absurd missing.1 (untold body given)⟩

theorem classification_eq_indexNotFound_iff :
    error.classification = .indexNotFound ↔ error.status = some 404 ∧ ∀ body ∈ error.body, ¬TellsIndex body := by
  by_cases told : ∃ body ∈ error.body, TellsIndex body
  · obtain ⟨body, given, tells⟩ := told
    rw [classification_of_tellsIndex given tells]
    refine ⟨fun missing => ?_, fun ⟨_, untold⟩ => absurd tells (untold body given)⟩
    split at missing <;> cases missing
  · have untold : ∀ body ∈ error.body, ¬TellsIndex body := fun body given tells => told ⟨body, given, tells⟩
    rw [classification_of_not_tellsIndex untold, classification_withoutIndex_eq_indexNotFound_iff]
    exact ⟨fun status => ⟨status, untold⟩, And.left⟩

end SearchTenancy.BackendError

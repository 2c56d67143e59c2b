import SearchTenancy.Json.Value

/-!
# Members of objects

A member of the wrong kind is treated like one that is not there, so a member that is
read as a string, a truth value or an array is exactly that. The first member of an
object is the one under its smallest key (`Json.firstMember?_eq_some_iff`).
-/

namespace SearchTenancy.Json

variable {member : Option Json}

theorem bind_asString?_eq_some {s : String} : member.bind asString? = some s ↔ member = some (.str s) := by
  cases member with
  | none => simp
  | some value => cases value <;> simp [asString?]

theorem bind_asBool?_eq_some {b : Bool} : member.bind asBool? = some b ↔ member = some (.bool b) := by
  cases member with
  | none => simp
  | some value => cases value <;> simp [asBool?]

theorem bind_asArray?_eq_some {items : List Json} : member.bind asArray? = some items ↔ member = some (.arr items) := by
  cases member with
  | none => simp
  | some value => cases value <;> simp [asArray?]

theorem not_isNull_iff {value : Json} : (!value.isNull) = true ↔ value ≠ .null := by cases value <;> simp [isNull]

/-- In an object with its members in key order the first one has the smallest key. -/
theorem firstMember?_eq_some_iff {value : Json} (canonical : value.Canonical) {name : String} {first : Json} :
    value.firstMember? = some (name, first) ↔
      ∃ members, value = .obj members ∧ (name, first) ∈ members ∧ ∀ member ∈ members, name ≤ member.1 := by
  constructor
  · intro found
    obtain ⟨members, object, head⟩ := Option.bind_eq_some_iff.1 found
    cases value with
    | obj list =>
      cases object
      obtain ⟨rest, rfl⟩ : ∃ rest, members = (name, first) :: rest := List.head?_eq_some_iff.1 head
      refine ⟨_, rfl, List.mem_cons_self, fun member mem => ?_⟩
      rcases List.mem_cons.1 mem with rfl | mem
      · exact String.le_refl _
      · exact String.not_lt.1 (String.lt_asymm (List.rel_of_pairwise_cons canonical.1 mem))
    | _ => cases object
  · rintro ⟨members, rfl, mem, least⟩
    cases members with
    | nil => cases mem
    | cons member rest =>
      rcases List.mem_cons.1 mem with rfl | later
      · rfl
      · -- A later member has a larger key.
        have larger := List.rel_of_pairwise_cons canonical.1 later
        exact absurd larger (String.not_lt.2 (least member List.mem_cons_self))

end SearchTenancy.Json

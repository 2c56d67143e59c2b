import SearchTenancy.Json.Value

/-!
# Equality of JSON values

Two values are equal if they are the same but for the signs of zeros among their doubles
(`Json.sameValue_iff`). So equality is an equivalence (`Json.equivalence_sameValue`).
-/

namespace SearchTenancy

/-- The same double without the sign of a zero. -/
def Double.plain (d : Double) : Double := if d.magnitude = 0 then zero false else d

theorem Double.sameValue_iff {a b : Double} : a.sameValue b ↔ a.plain = b.plain := by
  obtain ⟨negative, magnitude, finite⟩ := a
  obtain ⟨negative', magnitude', finite'⟩ := b
  unfold sameValue rank plain
  simp only [beq_iff_eq]
  by_cases zero : magnitude = 0 <;> by_cases zero' : magnitude' = 0 <;>
    cases negative <;> cases negative' <;> simp [zero, zero', Double.zero] <;> omega

/-- The same number without the sign of a zero. -/
def Number.plain : Number → Number
  | double d => double d.plain
  | integer => integer

theorem Number.sameValue_iff {a b : Number} : a.sameValue b ↔ a.plain = b.plain := by
  cases a <;> cases b <;> simp [sameValue, plain, Double.sameValue_iff]

namespace Json

mutual

/-- The same value without the signs of zeros. -/
def plain : Json → Json
  | num n => num n.plain
  | arr items => arr (plainItems items)
  | obj members => obj (plainMembers members)
  | value => value

/-- The same values without the signs of zeros. -/
def plainItems : List Json → List Json
  | [] => []
  | item :: rest => item.plain :: plainItems rest

/-- The same members without the signs of zeros. -/
def plainMembers : List (String × Json) → List (String × Json)
  | [] => []
  | (name, value) :: rest => (name, value.plain) :: plainMembers rest

end

mutual

theorem sameValue_iff : ∀ {a b : Json}, a.sameValue b ↔ a.plain = b.plain
  | .null, b | .bool _, b | .str _, b => by cases b <;> simp [sameValue, plain]
  | .num n, b => by cases b <;> simp [sameValue, plain, Number.sameValue_iff]
  | .arr items, b => by cases b <;> simp [sameValue, plain, sameItems_iff (a := items)]
  | .obj members, b => by cases b <;> simp [sameValue, plain, sameMembers_iff (a := members)]

theorem sameItems_iff : ∀ {a b : List Json}, sameItems a b ↔ plainItems a = plainItems b
  | [], b => by cases b <;> simp [sameItems, plainItems]
  | item :: rest, b => by
    cases b <;> simp [sameItems, plainItems, sameValue_iff (a := item), sameItems_iff (a := rest)]

theorem sameMembers_iff : ∀ {a b : List (String × Json)}, sameMembers a b ↔ plainMembers a = plainMembers b
  | [], b => by cases b <;> simp [sameMembers, plainMembers]
  | (name, value) :: rest, b => by
    cases b <;>
      simp [sameMembers, plainMembers, sameValue_iff (a := value), sameMembers_iff (a := rest), and_assoc]

end

theorem equivalence_sameValue : Equivalence fun a b : Json => a.sameValue b where
  refl _ := sameValue_iff.2 rfl
  symm same := sameValue_iff.2 (sameValue_iff.1 same).symm
  trans first second := sameValue_iff.2 ((sameValue_iff.1 first).trans (sameValue_iff.1 second))

end Json

end SearchTenancy

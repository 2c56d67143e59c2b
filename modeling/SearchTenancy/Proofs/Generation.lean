import SearchTenancy.Generation
import SearchTenancy.Proofs.Json.Opening
import Std.Data.String.ToInt

/-!
# Generations and their origin

The name of a generation is the name of its index, the date and the milliseconds, joined
without any escape, and the name of the index may hold every character that joins them.
Nothing is mixed up all the same: a number has no dot, so the milliseconds are what stands
behind the last dot (`Text.append_mark_inj`). They tell the instant, the instant tells the
date, and what is left is the name of the index (`generationName_inj`).
-/

namespace SearchTenancy

/-- The last mark of a text divides it. -/
theorem Text.append_mark_inj {mark : Char} {front front' behind behind' : List Char} (unmarked : mark ∉ behind)
    (unmarked' : mark ∉ behind') :
    front ++ mark :: behind = front' ++ mark :: behind' ↔ front = front' ∧ behind = behind' := by
  have after_last (front : List Char) {behind : List Char} (unmarked : mark ∉ behind) :
      (front ++ mark :: behind).rtakeWhile (· ≠ mark) = behind := by
    have others : ∀ c ∈ behind.reverse, decide (c ≠ mark) = true := by
      intro c mem
      rw [decide_eq_true_eq]
      rintro rfl
      exact unmarked (List.mem_reverse.1 mem)
    rw [List.rtakeWhile, List.reverse_append, List.reverse_cons, List.append_assoc, List.takeWhile_append_of_pos others]
    simp
  constructor
  · intro same
    have behinds : behind = behind' := by
      rw [← after_last front unmarked, same, after_last front' unmarked']
    exact ⟨List.append_cancel_right (behinds ▸ same), behinds⟩
  · rintro ⟨rfl, rfl⟩
    rfl

theorem dot_notMem_repr (n : Int) : '.' ∉ (Int.repr n).toList := by
  have digits (m : Nat) : '.' ∉ (Nat.repr m).toList := fun mem => absurd (isDigit_of_mem_repr mem) (by decide)
  cases n with
  | ofNat m => exact digits m
  | negSucc m =>
    show '.' ∉ ("-" ++ Nat.repr (m + 1)).toList
    rw [String.toList_append, List.mem_append]
    rintro (sign | digit)
    · exact absurd sign (by decide)
    · exact digits (m + 1) digit

theorem Instant.eq_of_millis {one other : Instant} (same : one.millis = other.millis) : one = other := by
  cases one
  cases other
  cases same
  rfl

/-- The milliseconds of a name stand behind a dot, at its end. -/
theorem toList_generationName (physical : String) (instant : Instant) :
    ∃ front, (generationName physical instant).toList = front ++ '.' :: (Int.repr instant.millis).toList := by
  unfold generationName
  rw [String.toList_append, String.toList_append]
  exact ⟨_, List.append_assoc ..⟩

/-- Names of generations agree only if they are made for one index at one instant. -/
theorem generationName_inj {physical other : String} {instant later : Instant} :
    generationName physical instant = generationName other later ↔ physical = other ∧ instant = later := by
  constructor
  · intro same
    obtain ⟨front, chars⟩ := toList_generationName physical instant
    obtain ⟨front', chars'⟩ := toList_generationName other later
    have divided : front ++ '.' :: (Int.repr instant.millis).toList =
        front' ++ '.' :: (Int.repr later.millis).toList := by
      rw [← chars, ← chars', same]
    have millis := ((Text.append_mark_inj (dot_notMem_repr _) (dot_notMem_repr _)).1 divided).2
    obtain rfl : instant = later := Instant.eq_of_millis (Int.repr_inj.1 (String.toList_inj.1 millis))
    -- From here on the two names end alike.
    unfold generationName at same
    simp only [String.append_assoc, String.append_left_inj] at same
    exact ⟨same, rfl⟩
  · rintro ⟨rfl, rfl⟩
    rfl

end SearchTenancy

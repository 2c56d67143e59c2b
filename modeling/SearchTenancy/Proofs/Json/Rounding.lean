import SearchTenancy.Json.Number

/-!
# Integers as doubles

Rounding an integer to the nearest double keeps the order of integers
(`Double.nearestMagnitude_mono`), and tells two integers apart if the smaller one has at
most 53 binary digits (`Double.nearestMagnitude_strict`): up to there every integer is a
double, and from there on they are further apart. So the numbers of a document are in
the order of their integers as far as their nearest doubles differ
(`Number.rank_toDouble`, `Double.integerRank_mono`, `Double.integerRank_strict`).
-/

namespace SearchTenancy

namespace Double

/-! ## Rounding a quotient -/

theorem div_le_roundHalfEven (num den : Nat) : num / den ≤ roundHalfEven num den := by
  dsimp only [roundHalfEven]
  split
  · exact Nat.le_refl _
  · split <;> omega

theorem roundHalfEven_le (num den : Nat) : roundHalfEven num den ≤ num / den + 1 := by
  dsimp only [roundHalfEven]
  split
  · omega
  · split <;> omega

theorem roundHalfEven_mono {num other : Nat} (den : Nat) (h : num ≤ other) :
    roundHalfEven num den ≤ roundHalfEven other den := by
  rcases Nat.lt_or_eq_of_le (Nat.div_le_div_right (c := den) h) with below | same
  · calc roundHalfEven num den
      _ ≤ num / den + 1 := roundHalfEven_le num den
      _ ≤ other / den := below
      _ ≤ roundHalfEven other den := div_le_roundHalfEven other den
  · -- With one quotient the larger remainder decides.
    have remainders : num % den ≤ other % den := by
      have first := Nat.div_add_mod num den
      have second := Nat.div_add_mod other den
      rw [← same] at second
      omega
    dsimp only [roundHalfEven]
    rw [← same]
    repeat' split
    all_goals omega

theorem roundHalfEven_one (n : Nat) : roundHalfEven n 1 = n := by
  simp [roundHalfEven, Nat.mod_one]

/-! ## Rounding an integer -/

/-- The significand of the double nearest to a positive integer, before it is carried over. -/
def leading (n : Nat) : Nat :=
  if 52 ≤ n.log2 then roundHalfEven n (1 <<< (n.log2 - 52)) else n <<< (52 - n.log2)

theorem floorLog2_one {n : Nat} (h : n ≠ 0) : floorLog2 n 1 = n.log2 := by
  have fits : 1 <<< n.log2 ≤ n := by simpa [Nat.shiftLeft_eq] using Nat.log2_self_le h
  have one : Nat.log2 1 = 0 := by decide
  simp [floorLog2, one, fits]

theorem nearestMagnitude_eq {n : Nat} (h : n ≠ 0) :
    nearestMagnitude n 1 = (n.log2 + 1022) * binade + leading n := by
  have scale : max (-1074 : Int) (n.log2 - 52) = n.log2 - 52 := by omega
  have exponent : ((n.log2 : Int) - 52 + 1074).toNat = n.log2 + 1022 := by omega
  unfold nearestMagnitude leading
  rw [if_neg h, floorLog2_one h]
  dsimp only
  rw [scale, exponent]
  by_cases large : 52 ≤ n.log2
  · have shift : ((n.log2 : Int) - 52).toNat = n.log2 - 52 := by omega
    rw [if_pos (by omega), if_pos large, shift]
  · have shift : (-((n.log2 : Int) - 52)).toNat = 52 - n.log2 := by omega
    rw [if_neg (by omega), if_neg large, shift, roundHalfEven_one]

/-- An integer of at most 53 binary digits is a double. -/
theorem leading_of_le {n : Nat} (small : n.log2 ≤ 52) : leading n = n <<< (52 - n.log2) := by
  unfold leading
  split
  · have exact : n.log2 = 52 := by omega
    simp [exact, roundHalfEven_one]
  · rfl

theorem leading_lt {n : Nat} (small : n.log2 ≤ 52) : leading n < 2 * binade := by
  have powers : 2 ^ (n.log2 + 1) * 2 ^ (52 - n.log2) = 2 * binade := by
    rw [← Nat.pow_add, show n.log2 + 1 + (52 - n.log2) = 53 by omega]
    rfl
  rw [leading_of_le small, Nat.shiftLeft_eq, ← powers]
  exact Nat.mul_lt_mul_of_pos_right Nat.lt_log2_self (Nat.two_pow_pos _)

theorem leading_bounds {n : Nat} (h : n ≠ 0) : binade ≤ leading n ∧ leading n ≤ 2 * binade := by
  by_cases small : n.log2 ≤ 52
  · have powers : 2 ^ n.log2 * 2 ^ (52 - n.log2) = binade := by
      rw [← Nat.pow_add, show n.log2 + (52 - n.log2) = 52 by omega]
    refine ⟨?_, Nat.le_of_lt (leading_lt small)⟩
    rw [leading_of_le small, Nat.shiftLeft_eq, ← powers]
    exact Nat.mul_le_mul_right _ (Nat.log2_self_le h)
  · have lower : binade ≤ n / 2 ^ (n.log2 - 52) := by
      rw [Nat.le_div_iff_mul_le (Nat.two_pow_pos _), show binade = 2 ^ 52 from rfl, ← Nat.pow_add,
        show 52 + (n.log2 - 52) = n.log2 by omega]
      exact Nat.log2_self_le h
    have upper : n / 2 ^ (n.log2 - 52) < 2 * binade := by
      rw [Nat.div_lt_iff_lt_mul (Nat.two_pow_pos _), show 2 * binade = 2 ^ 53 from rfl, ← Nat.pow_add,
        show 53 + (n.log2 - 52) = n.log2 + 1 by omega]
      exact Nat.lt_log2_self
    rw [leading, if_pos (by omega), Nat.shiftLeft_eq, Nat.one_mul]
    exact ⟨Nat.le_trans lower (div_le_roundHalfEven _ _), Nat.le_trans (roundHalfEven_le _ _) upper⟩

theorem log2_mono {a b : Nat} (h : a ≠ 0) (le : a ≤ b) : a.log2 ≤ b.log2 := by
  rw [Nat.le_log2 (by omega)]
  exact Nat.le_trans (Nat.log2_self_le h) le

/-- A larger exponent decides, since significands are from one binade to two. -/
theorem magnitude_le {exponent larger low high : Nat} (below : exponent < larger) (upper : low ≤ 2 * binade)
    (lower : binade ≤ high) : (exponent + 1022) * binade + low ≤ (larger + 1022) * binade + high := by
  calc (exponent + 1022) * binade + low
    _ ≤ (exponent + 1022) * binade + (binade + binade) := Nat.add_le_add_left (by omega) _
    _ = (exponent + 1 + 1022) * binade + binade := by rw [← Nat.add_assoc, ← Nat.succ_mul, Nat.add_right_comm]
    _ ≤ (larger + 1022) * binade + high := Nat.add_le_add (Nat.mul_le_mul_right _ (by omega)) lower

theorem nearestMagnitude_mono {a b : Nat} (h : a ≤ b) : nearestMagnitude a 1 ≤ nearestMagnitude b 1 := by
  by_cases none : a = 0
  · subst none
    exact Nat.zero_le _
  have some : b ≠ 0 := by omega
  rw [nearestMagnitude_eq none, nearestMagnitude_eq some]
  rcases Nat.lt_or_eq_of_le (log2_mono none h) with below | same
  · exact magnitude_le below (leading_bounds none).2 (leading_bounds some).1
  · unfold leading
    rw [same]
    refine Nat.add_le_add_left ?_ _
    split
    · exact roundHalfEven_mono _ h
    · rw [Nat.shiftLeft_eq, Nat.shiftLeft_eq]
      exact Nat.mul_le_mul_right _ h

theorem nearestMagnitude_strict {a b : Nat} (h : a < b) (small : a < 2 * binade) :
    nearestMagnitude a 1 < nearestMagnitude b 1 := by
  have some : b ≠ 0 := by omega
  rw [nearestMagnitude_eq some]
  by_cases none : a = 0
  · subst none
    exact Nat.add_pos_right _ (Nat.lt_of_lt_of_le (by decide) (leading_bounds some).1)
  have digits : a.log2 ≤ 52 := Nat.lt_succ_iff.1 ((Nat.log2_lt none).2 small)
  rw [nearestMagnitude_eq none]
  rcases Nat.lt_or_eq_of_le (log2_mono none (Nat.le_of_lt h)) with below | same
  · -- The significand is not carried over.
    exact magnitude_le below (leading_lt digits) (leading_bounds some).1
  · rw [leading_of_le digits, leading_of_le (same ▸ digits), same, Nat.shiftLeft_eq, Nat.shiftLeft_eq]
    exact Nat.add_lt_add_left (Nat.mul_lt_mul_of_pos_right h (Nat.two_pow_pos _)) _

theorem nearestMagnitude_finite {n : Nat} (h : n < UInt64.size) : nearestMagnitude n 1 < 2047 * binade := by
  calc nearestMagnitude n 1
    _ ≤ nearestMagnitude UInt64.size 1 := nearestMagnitude_mono (Nat.le_of_lt h)
    _ < 2047 * binade := by decide +kernel

/-- The place of an integer's nearest double in the order of all doubles. -/
def integerRank (a : Int) : Int :=
  if a < 0 then -(nearestMagnitude a.natAbs 1 : Int) else nearestMagnitude a.natAbs 1

theorem integerRank_mono {a b : Int} (h : a ≤ b) : integerRank a ≤ integerRank b := by
  have grows := nearestMagnitude_mono (a := a.natAbs) (b := b.natAbs)
  have shrinks := nearestMagnitude_mono (a := b.natAbs) (b := a.natAbs)
  unfold integerRank
  split <;> split <;> omega

theorem integerRank_strict {a b : Int} (h : a < b) (upper : a < 2 * binade) (lower : -(2 * binade) < b) :
    integerRank a < integerRank b := by
  have grows := nearestMagnitude_strict (a := a.natAbs) (b := b.natAbs)
  have shrinks := nearestMagnitude_strict (a := b.natAbs) (b := a.natAbs)
  have positive (negative : a < 0) : 0 < nearestMagnitude a.natAbs 1 :=
    nearestMagnitude_strict (a := 0) (by omega) (by decide)
  unfold integerRank
  split <;> split <;> omega

theorem rank_ofNat (negative : Bool) {n : Nat} (h : n < UInt64.size) :
    (ofNat negative n).rank = integerRank (if negative then -(n : Int) else n) := by
  have nearest : ofNat negative n = ⟨negative, nearestMagnitude n 1, nearestMagnitude_finite h⟩ := by
    simp [ofNat, nearest?, nearestMagnitude_finite h]
  rw [nearest, rank, integerRank]
  cases negative with
  | false => simp [Int.not_lt.2 (Int.natCast_nonneg n)]
  | true =>
    by_cases zero : n = 0
    · subst zero
      rfl
    · simp
      omega

end Double

namespace Number

/-- The integer that a number is, if it is of such a kind. -/
def integer? : Number → Option Int
  | natural n => some n.toNat
  | negative n => some (-(n.val + 1 : Nat))
  | double _ => none

theorem rank_toDouble {number : Number} {a : Int} (h : number.integer? = some a) :
    number.toDouble.rank = Double.integerRank a := by
  cases number with
  | natural n =>
    obtain rfl := Option.some.inj h
    exact Double.rank_ofNat false n.toNat_lt
  | negative n =>
    obtain rfl := Option.some.inj h
    exact Double.rank_ofNat true (Nat.lt_of_le_of_lt n.isLt (by decide))
  | double d => cases h

end Number

end SearchTenancy

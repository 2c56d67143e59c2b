import Mathlib.Data.List.DropRight
import SearchTenancy.Json.Printer

/-!
# How the texts of values begin

The first character of a text tells strings, numbers and all other values apart
(`Json.opens_render`): strings begin with their quote, numbers with a sign or a digit, and
what is left with a bracket or a letter, in this order of the characters. For doubles
this rests on the digits of a nonzero double not all being zeros
(`Double.shortest_digits_pos`). Texts with different first characters compare as these
do (`compare_of_opens`).
-/

namespace SearchTenancy

/-- The first character of a text is in a range. -/
def Opens (low high : Nat) (text : String) : Prop :=
  ∃ c rest, text.toList = c :: rest ∧ low ≤ c.toNat ∧ c.toNat ≤ high

variable {low high : Nat} {text other : String}

theorem Opens.mono {low' high' : Nat} (h : Opens low high text) (below : low' ≤ low) (above : high ≤ high') :
    Opens low' high' text := by
  obtain ⟨c, rest, chars, least, most⟩ := h
  exact ⟨c, rest, chars, Nat.le_trans below least, Nat.le_trans most above⟩

theorem Opens.append (h : Opens low high text) (other : String) : Opens low high (text ++ other) := by
  obtain ⟨c, rest, chars, range⟩ := h
  exact ⟨c, rest ++ other.toList, by rw [String.toList_append, chars, List.cons_append], range⟩

theorem opens_ofList {c : Char} {rest : List Char} (least : low ≤ c.toNat) (most : c.toNat ≤ high) :
    Opens low high (String.ofList (c :: rest)) := ⟨c, rest, String.toList_ofList, least, most⟩

/-- The first characters decide if they differ. -/
theorem compare_of_opens {low' high' : Nat} (h : Opens low high text) (h' : Opens low' high' other)
    (below : high < low') : compare text other = .lt := by
  obtain ⟨c, rest, chars, -, most⟩ := h
  obtain ⟨d, others, chars', least, -⟩ := h'
  have smaller : c < d := by
    rw [Char.lt_def, UInt32.lt_iff_toNat_lt]
    exact Nat.lt_of_le_of_lt most (Nat.lt_of_lt_of_le below least)
  have lex : text.toList < other.toList := by
    rw [chars, chars']
    exact List.Lex.rel smaller
  exact compareOfLessAndEq_eq_lt.2 lex

/-! ## Numbers -/

theorem isDigit_of_mem_repr {n : Nat} {c : Char} (mem : c ∈ (Nat.repr n).toList) : 48 ≤ c.toNat ∧ c.toNat ≤ 57 := by
  rw [Nat.toList_repr] at mem
  exact Char.isDigit_iff_toNat.1 (Nat.isDigit_of_mem_toDigits (by decide) (by decide) mem)

theorem opens_repr (n : Nat) : Opens 48 57 (Nat.repr n) := by
  cases chars : (Nat.repr n).toList with
  | nil => exact absurd (Nat.toList_repr ▸ chars) Nat.toDigits_ne_nil
  | cons c rest => exact ⟨c, rest, chars, isDigit_of_mem_repr (chars ▸ List.mem_cons_self)⟩

namespace Double

variable {d : Double}

theorem significand_pos (nonzero : d.magnitude ≠ 0) : 0 < d.significand := by
  unfold significand
  split
  · exact Nat.pos_of_ne_zero nonzero
  · exact Nat.add_pos_left (by decide) _

/-- Zero rounds to zero only. -/
theorem not_attracts_zero (nonzero : d.magnitude ≠ 0) {den : Nat} (pos : 0 < den) : d.attracts 0 den = false := by
  have some := significand_pos nonzero
  have low : 0 < d.quarterBounds.1 := by
    unfold quarterBounds
    dsimp only
    split <;> omega
  -- Zero stays zero on every scale, and is below the lower bound.
  have outside (scale : Nat) (pos : 0 < scale) : ¬ d.quarterBounds.1 * scale ≤ 0 ∧ ¬ d.quarterBounds.1 * scale < 0 :=
    ⟨Nat.not_le.2 (Nat.mul_pos low pos), Nat.not_lt_zero _⟩
  have shifted : 0 < den <<< (d.scale - 2).toNat := by
    rw [Nat.shiftLeft_eq]
    exact Nat.mul_pos pos (Nat.two_pow_pos _)
  have scaled : ∃ scaledDen, 0 < scaledDen ∧
      (if 0 ≤ d.scale - 2 then (0, den <<< (d.scale - 2).toNat) else (0 <<< (-(d.scale - 2)).toNat, den)) =
        (0, scaledDen) := by
    split
    · exact ⟨_, shifted, rfl⟩
    · exact ⟨den, pos, by rw [Nat.zero_shiftLeft]⟩
  obtain ⟨scaledDen, large, scaled⟩ := scaled
  unfold attracts
  simp only [scaled]
  split
  · exact decide_eq_false fun inside => (outside scaledDen large).1 inside.1
  · exact decide_eq_false fun inside => (outside scaledDen large).2 inside.1

/-- The digits of a text that reads back are not all zeros. -/
theorem digits_pos_of_withDigits {count : Nat} {decimal : Decimal} (nonzero : d.magnitude ≠ 0)
    (found : d.withDigits? count = some decimal) : 0 < decimal.digits := by
  unfold withDigits? at found
  extract_lets value exponent point lower reads down up preferLower at found
  have large (digits : Nat) (read : reads digits = true) : 0 < digits := by
    refine Nat.pos_of_ne_zero fun zero => ?_
    have origin : (point digits).1 = 0 ∧ 0 < (point digits).2 := by
      simp only [point, zero, Nat.zero_mul]
      split
      · exact ⟨rfl, Nat.one_pos⟩
      · exact ⟨rfl, Nat.pow_pos (by decide)⟩
    have missed := not_attracts_zero nonzero origin.2
    rw [← origin.1] at missed
    exact Bool.false_ne_true (missed.symm.trans read)
  split at found
  case h_1 low _ =>
    cases found
    dsimp only
    split
    · exact large lower low
    · exact Nat.succ_pos lower
  case h_2 low _ =>
    cases found
    exact large lower low
  case h_3 =>
    cases found
    exact Nat.succ_pos lower
  case h_4 => cases found

theorem shortest_digits_pos (nonzero : d.magnitude ≠ 0) : 0 < d.shortest.digits := by
  unfold shortest
  cases found : ((List.range 17).map (· + 1)).findSome? d.withDigits? with
  | none => exact Nat.pos_of_ne_zero nonzero
  | some decimal =>
    obtain ⟨count, -, read⟩ := List.exists_of_findSome?_eq_some found
    exact digits_pos_of_withDigits nonzero read

theorem dropZeros_eq (digits : List Char) : dropZeros digits = digits.rdropWhile (· = '0') := rfl

/-- Not all digits of a positive number are zeros, so the first one stays. -/
theorem exists_dropZeros {n : Nat} (pos : 0 < n) :
    ∃ c rest, dropZeros (Nat.repr n).toList = c :: rest ∧ 48 ≤ c.toNat ∧ c.toNat ≤ 57 := by
  rw [dropZeros_eq]
  cases left : (Nat.repr n).toList.rdropWhile (· = '0') with
  | nil =>
    exfalso
    rw [Nat.toList_repr, List.rdropWhile_eq_nil_iff] at left
    have zeros : Nat.toDigits 10 n = List.replicate (Nat.toDigits 10 n).length '0' :=
      List.eq_replicate_of_mem fun c mem => of_decide_eq_true (left c mem)
    have same := Nat.ofDigitChars_ten_toDigits (n := n)
    rw [zeros, Nat.ofDigitChars_replicate_zero] at same
    omega
  | cons c rest =>
    have front := List.rdropWhile_prefix (· = '0') (Nat.repr n).toList
    rw [left] at front
    exact ⟨c, rest, rfl, isDigit_of_mem_repr (front.subset List.mem_cons_self)⟩

section Layout

variable {c : Char} {rest : List Char} (digit : 48 ≤ c.toNat ∧ c.toNat ≤ 57) (exponent : Int)

include digit

theorem opens_positional : Opens 48 57 (positional (c :: rest) exponent) := by
  unfold positional
  split
  · exact Opens.append (Opens.append ⟨'0', ['.'], rfl, by decide, by decide⟩ _) _
  · dsimp only
    split
    · exact Opens.append (Opens.append (opens_ofList digit.1 digit.2) _) _
    · rw [List.take_succ_cons]
      exact Opens.append (Opens.append (opens_ofList digit.1 digit.2) _) _

theorem opens_scientific : Opens 48 57 (scientific (c :: rest) exponent) :=
  Opens.append (Opens.append (Opens.append (Opens.append (opens_ofList digit.1 digit.2) _) _) _) _

end Layout

theorem opens_magnitudeText (d : Double) : Opens 48 57 d.magnitudeText := by
  unfold magnitudeText
  split
  · exact ⟨'0', ['.', '0'], rfl, by decide, by decide⟩
  · rename_i nonzero
    obtain ⟨c, rest, digits, digit⟩ := exists_dropZeros (shortest_digits_pos nonzero)
    dsimp only
    rw [digits]
    split
    · exact opens_positional digit _
    · exact opens_scientific digit _

theorem opens_text (d : Double) : Opens 45 57 d.text := by
  unfold text
  split
  · exact Opens.append ⟨'-', [], rfl, by decide, by decide⟩ _
  · have unsigned : "" ++ d.magnitudeText = d.magnitudeText := String.empty_append
    rw [unsigned]
    exact (opens_magnitudeText d).mono (by decide) (by decide)

end Double

theorem Number.opens_text (n : Number) : Opens 45 57 n.text := by
  cases n with
  | natural n => exact (opens_repr n.toNat).mono (by decide) (by decide)
  | negative n => exact Opens.append ⟨'-', [], rfl, by decide, by decide⟩ _
  | double d => exact d.opens_text

/-! ## Values -/

namespace Json

/-- The first characters of texts of the kind of a value, from the smallest to the largest. -/
def opening : Json → Nat × Nat
  | str _ => (34, 34)
  | num _ => (45, 57)
  | _ => (91, 123)

theorem opens_render (value : Json) : Opens value.opening.1 value.opening.2 value.render := by
  cases value with
  | null => exact ⟨'n', ['u', 'l', 'l'], rfl, by decide, by decide⟩
  | bool b =>
    cases b with
    | true => exact ⟨'t', ['r', 'u', 'e'], rfl, by decide, by decide⟩
    | false => exact ⟨'f', ['a', 'l', 's', 'e'], rfl, by decide, by decide⟩
  | num n =>
    unfold render
    exact n.opens_text
  | str s =>
    unfold render quote
    have first : Opens 34 34 "\"" := ⟨'"', [], rfl, by decide, by decide⟩
    exact (first.append _).append _
  | arr items =>
    unfold render
    have first : Opens 91 123 "[" := ⟨'[', [], rfl, by decide, by decide⟩
    exact (first.append _).append _
  | obj members =>
    unfold render
    have first : Opens 91 123 "\x7b" := ⟨'\x7b', [], rfl, by decide, by decide⟩
    exact (first.append _).append _

/-- Texts of values of unlike kinds compare as their kinds do. -/
theorem compare_render {a b : Json} (below : a.opening.1 < b.opening.1) : compare a.render b.render = .lt := by
  have apart : a.opening.2 < b.opening.1 := by
    revert below
    cases a <;> cases b <;> simp [opening]
  exact compare_of_opens a.opens_render b.opens_render apart

end Json

end SearchTenancy

/-!
# Texts and their bytes

Texts are compared code point by code point. The bytes that UTF-8 writes them with are in
the same order (`bytes_lt_iff`): a larger code point has more bytes and then a larger first
one, or it has as many and the first of them that differs is larger.
-/

namespace SearchTenancy.Text

/-- The bytes of a text. -/
def bytes (text : String) : List UInt8 := text.toUTF8.data.toList

theorem bytes_eq (text : String) : bytes text = text.toList.flatMap String.utf8EncodeChar := by
  rw [bytes, String.toUTF8_eq_toByteArray, ← String.utf8Encode_toList, List.utf8Encode, List.toList_data_toByteArray]

theorem ofNat_cons_lt_iff {m n : Nat} {xs ys : List UInt8} (hm : m < 256) (hn : n < 256) :
    UInt8.ofNat m :: xs < UInt8.ofNat n :: ys ↔ m < n ∨ m = n ∧ xs < ys := by
  have lt : UInt8.ofNat m < UInt8.ofNat n ↔ m < n := by
    rw [UInt8.lt_iff_toNat_lt, UInt8.toNat_ofNat', UInt8.toNat_ofNat', Nat.mod_eq_of_lt hm, Nat.mod_eq_of_lt hn]
  have eq : UInt8.ofNat m = UInt8.ofNat n ↔ m = n := by
    rw [← UInt8.toNat_inj, UInt8.toNat_ofNat', UInt8.toNat_ofNat', Nat.mod_eq_of_lt hm, Nat.mod_eq_of_lt hn]
  rw [List.cons_lt_cons_iff, lt, eq]

/-- The bytes of characters are in the order of the characters, whatever follows them. -/
theorem utf8EncodeChar_append_lt {c d : Char} (below : c < d) (xs ys : List UInt8) :
    String.utf8EncodeChar c ++ xs < String.utf8EncodeChar d ++ ys := by
  have smaller : c.val.toNat < d.val.toNat := below
  have last : d.val.toNat < 1114112 := by
    rcases d.valid with low | ⟨-, high⟩
    · exact Nat.lt_trans low (by decide)
    · exact high
  -- The groups of six bits that the bytes hold.
  have second (v : Nat) : v / 4096 = v / 64 / 64 := by omega
  have third (v : Nat) : v / 262144 = v / 64 / 64 / 64 := by omega
  -- One to four bytes each; the larger character has no fewer.
  fun_cases String.utf8EncodeChar c <;> fun_cases String.utf8EncodeChar d
  all_goals
    simp (disch := omega) only [List.cons_append, List.nil_append, ofNat_cons_lt_iff, second, third]
    omega

theorem flatMap_utf8EncodeChar_lt {l m : List Char} (below : l < m) :
    l.flatMap String.utf8EncodeChar < m.flatMap String.utf8EncodeChar := by
  induction below with
  | @nil first rest =>
    obtain ⟨byte, others, written⟩ := List.exists_cons_of_ne_nil (String.utf8EncodeChar_ne_nil (c := first))
    rw [List.flatMap_cons, written]
    exact List.nil_lt_cons ..
  | rel smaller => exact utf8EncodeChar_append_lt smaller _ _
  | cons later ih =>
    rw [List.flatMap_cons, List.flatMap_cons]
    exact List.append_left_lt ih

/-- Texts are in the order of their bytes. -/
theorem bytes_lt_iff {a b : String} : bytes a < bytes b ↔ a < b := by
  have forward {a b : String} (below : a < b) : bytes a < bytes b := by
    rw [bytes_eq, bytes_eq]
    exact flatMap_utf8EncodeChar_lt below
  refine ⟨fun below => String.not_le.1 fun above => ?_, forward⟩
  by_cases reverse : b < a
  · exact List.lt_asymm below (forward reverse)
  · rw [String.le_antisymm above (String.not_lt.1 reverse)] at below
    exact List.lt_irrefl _ below

end SearchTenancy.Text

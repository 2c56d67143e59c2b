import SearchTenancy.Text.Blank

/-!
# Words and parts of texts

What the words of a text are made of, and that words which are joined by blanks are
found again (`words_intercalate`). The part of a text up to a mark is the text itself
if it has no such mark, and what stands before the first of them otherwise; the parts
between the marks are found one after the other.
-/

namespace SearchTenancy.Text

/-! ## Words -/

theorem mem_wordsFrom {start text word : List Char} (blankless : ∀ c ∈ start, isBlank c = false)
    (mem : word ∈ wordsFrom start text) :
    word ≠ [] ∧ ∀ c ∈ word, isBlank c = false ∧ (c ∈ start ∨ c ∈ text) := by
  induction text generalizing start with
  | nil =>
    unfold wordsFrom at mem
    split at mem
    · cases mem
    · rename_i some
      cases List.mem_singleton.1 mem
      refine ⟨by simpa using some, fun c here => ?_⟩
      have here := List.mem_reverse.1 here
      exact ⟨blankless c here, .inl here⟩
  | cons first rest ih =>
    -- Words that start behind a blank have nothing of what stands before it.
    have later (mem : word ∈ wordsFrom [] rest) :
        word ≠ [] ∧ ∀ c ∈ word, isBlank c = false ∧ (c ∈ start ∨ c ∈ first :: rest) := by
      obtain ⟨some, chars⟩ := ih (fun _ mem => absurd mem List.not_mem_nil) mem
      refine ⟨some, fun c here => ⟨(chars c here).1, .inr ?_⟩⟩
      exact List.mem_cons_of_mem _ ((chars c here).2.resolve_left List.not_mem_nil)
    unfold wordsFrom at mem
    split at mem
    · split at mem
      · exact later mem
      · rename_i some
        rcases List.mem_cons.1 mem with rfl | mem
        · refine ⟨by simpa using some, fun c here => ?_⟩
          have here := List.mem_reverse.1 here
          exact ⟨blankless c here, .inl here⟩
        · exact later mem
    · rename_i letter
      have letters : ∀ c ∈ first :: start, isBlank c = false := by
        rintro c (_ | ⟨_, here⟩)
        · simpa using letter
        · exact blankless c here
      obtain ⟨some, chars⟩ := ih letters mem
      refine ⟨some, fun c here => ⟨(chars c here).1, ?_⟩⟩
      rcases (chars c here).2 with among | among
      · rcases List.mem_cons.1 among with rfl | among
        · exact .inr List.mem_cons_self
        · exact .inl among
      · exact .inr (List.mem_cons_of_mem _ among)

/-- A word is not empty, has no blanks, and its characters stand in the text. -/
theorem mem_words {text word : List Char} (mem : word ∈ words text) :
    word ≠ [] ∧ ∀ c ∈ word, isBlank c = false ∧ c ∈ text := by
  obtain ⟨some, chars⟩ := mem_wordsFrom (fun _ mem => absurd mem List.not_mem_nil) mem
  exact ⟨some, fun c here => ⟨(chars c here).1, (chars c here).2.resolve_left List.not_mem_nil⟩⟩

theorem wordsFrom_append (start : List Char) {word : List Char} (letters : ∀ c ∈ word, isBlank c = false)
    (rest : List Char) : wordsFrom start (word ++ rest) = wordsFrom (word.reverse ++ start) rest := by
  induction word generalizing start with
  | nil => rfl
  | cons first others ih =>
    have letter : isBlank first = false := letters first List.mem_cons_self
    rw [List.cons_append, wordsFrom, if_neg (by simp [letter]), ih _ fun c mem => letters c (List.mem_cons_of_mem _ mem)]
    simp

/-- Joined words are found again. -/
theorem words_intercalate {list : List (List Char)}
    (given : ∀ word ∈ list, word ≠ [] ∧ ∀ c ∈ word, isBlank c = false) : words ([' '].intercalate list) = list := by
  unfold words
  induction list with
  | nil => rfl
  | cons first rest ih =>
    obtain ⟨some, letters⟩ := given first List.mem_cons_self
    have nonempty : first.reverse.isEmpty = false := by simpa using some
    have others := ih fun word mem => given word (List.mem_cons_of_mem _ mem)
    cases rest with
    | nil =>
      have alone := wordsFrom_append [] letters []
      simp only [List.append_nil] at alone
      simp [alone, wordsFrom, some]
    | cons second later =>
      have blank : isBlank ' ' = true := by decide
      rw [List.intercalate_cons_cons, List.append_assoc, wordsFrom_append [] letters, List.append_nil,
        List.singleton_append, wordsFrom, if_pos blank, nonempty, others]
      simp

/-- A character of joined words is a blank between them, or stands in one of them. -/
theorem mem_intercalate {list : List (List Char)} {c : Char} (mem : c ∈ [' '].intercalate list) :
    c = ' ' ∨ ∃ word ∈ list, c ∈ word := by
  induction list with
  | nil => cases mem
  | cons first rest ih =>
    cases rest with
    | nil => exact .inr ⟨first, List.mem_cons_self, by simpa using mem⟩
    | cons second later =>
      rw [List.intercalate_cons_cons, List.append_assoc] at mem
      rcases List.mem_append.1 mem with here | mem
      · exact .inr ⟨first, List.mem_cons_self, here⟩
      · rcases List.mem_cons.1 mem with blank | mem
        · exact .inl blank
        · exact (ih mem).imp_right fun ⟨word, among, here⟩ => ⟨word, List.mem_cons_of_mem _ among, here⟩

/-! ## Parts -/

theorem upTo_of_not_mem {mark : Char} {text : List Char} (plain : mark ∉ text) : upTo mark text = text := by
  unfold upTo
  have before : ∀ c ∈ text, (c ≠ mark : Bool) := fun c mem => by
    simpa using fun same : c = mark => plain (same ▸ mem)
  have whole : (text ++ []).takeWhile (· ≠ mark) = text ++ [].takeWhile (· ≠ mark) :=
    List.takeWhile_append_of_pos before
  simpa using whole

/-- What follows a mark is cut off. -/
theorem upTo_append_mark (mark : Char) (text rest : List Char) : upTo mark (text ++ mark :: rest) = upTo mark text := by
  unfold upTo
  induction text with
  | nil => simp
  | cons c text ih => simp only [List.cons_append, List.takeWhile_cons, ih]

theorem partsAt_of_not_mem {mark : Char} {text : List Char} (plain : mark ∉ text) : partsAt mark text = [text] := by
  induction text with
  | nil => rfl
  | cons c rest ih =>
    have differs : c ≠ mark := fun same => plain (same ▸ List.mem_cons_self)
    rw [partsAt, if_neg differs, ih fun mem => plain (List.mem_cons_of_mem _ mem)]

theorem partsAt_append_mark {mark : Char} {text : List Char} (plain : mark ∉ text) (rest : List Char) :
    partsAt mark (text ++ mark :: rest) = text :: partsAt mark rest := by
  induction text with
  | nil => exact if_pos rfl
  | cons c text ih =>
    have differs : c ≠ mark := fun same => plain (same ▸ List.mem_cons_self)
    rw [List.cons_append, partsAt, if_neg differs, ih fun mem => plain (List.mem_cons_of_mem _ mem)]

theorem contains_iff {part text : List Char} : contains part text ↔ part <:+: text := by
  induction text with
  | nil => simp [contains]
  | cons c rest ih => simp [contains, List.infix_cons_iff, ih]

end SearchTenancy.Text

import SearchTenancy.Proofs.Text.Words
import SearchTenancy.Search.Expression

/-!
# Reading expressions back

A reader that splits an expression at its blanks, cuts each term at its tilde and drops
the backslashes gets back the words of the text (`readTerm_wordTerm`,
`words_fuzzyExpression`), unless the text has backslashes or tildes of its own, or one
of the two characters that have no escape. A word of only those leaves no term, or a
distance without a term (`blank_texts`). The fields of a search are read back from their
weighted forms likewise.
-/

namespace SearchTenancy

/-- The characters that a reader of expressions drops or takes for the start of a distance. -/
def unreadableChars : List Char := ['\\', '~', '<', '>']

/-- A text without unreadable characters. -/
def Readable (text : List Char) : Prop := ∀ c ∈ text, c ∉ unreadableChars

instance (text : List Char) : Decidable (Readable text) := List.decidableBAll _ text

/-- What is read of a term. -/
def readTerm (term : List Char) : List Char := (Text.upTo '~' term).filter (· ≠ '\\')

variable {word : List Char}

theorem Readable.of_mem_words {text : List Char} (h : Readable text) (mem : word ∈ Text.words text) : Readable word :=
  fun c here => h c ((Text.mem_words mem).2 c here).2

theorem escapeWord_cons (c : Char) (rest : List Char) (readable : c ∉ unreadableChars) :
    escapeWord (c :: rest) = (if reservedChars.contains c then ['\\', c] else [c]) ++ escapeWord rest := by
  have kept : ¬ (c = '<' ∨ c = '>') := by
    rintro (rfl | rfl)
    · exact readable (by decide)
    · exact readable (by decide)
  rw [escapeWord, List.flatMap_cons, if_neg kept]
  rfl

/-- The characters of an escaped word are those of the word, and backslashes. -/
theorem mem_escapeWord {c : Char} (mem : c ∈ escapeWord word) : c ∈ word ∨ c = '\\' := by
  obtain ⟨original, here, escaped⟩ := List.mem_flatMap.1 mem
  split at escaped
  · cases escaped
  · split at escaped
    · rcases List.mem_cons.1 escaped with rfl | escaped
      · exact .inr rfl
      · exact .inl (List.mem_singleton.1 escaped ▸ here)
    · exact .inl (List.mem_singleton.1 escaped ▸ here)

theorem filter_escapeWord (readable : Readable word) : (escapeWord word).filter (· ≠ '\\') = word := by
  induction word with
  | nil => rfl
  | cons c rest ih =>
    have first : c ∉ unreadableChars := readable c List.mem_cons_self
    have notEscape : c ≠ '\\' := by
      rintro rfl
      exact first (by decide)
    rw [escapeWord_cons c rest first, List.filter_append, ih fun other mem => readable other (List.mem_cons_of_mem _ mem)]
    by_cases reserved : c ∈ reservedChars
    · simp [reserved, notEscape]
    · simp [reserved, notEscape]

theorem tilde_not_mem_escapeWord (readable : Readable word) : '~' ∉ escapeWord word := by
  intro mem
  rcases mem_escapeWord mem with here | same
  · exact readable '~' here (by decide)
  · exact absurd same (by decide)

/-- A term is the escaped word, with a distance behind it if that is not zero. -/
theorem wordTerm_cases (word : List Char) :
    wordTerm word = escapeWord word ∨ ∃ digit ∈ ['1', '2'], wordTerm word = escapeWord word ++ ['~', digit] := by
  have small : fuzziness word = 0 ∨ fuzziness word = 1 ∨ fuzziness word = 2 := by
    unfold fuzziness
    split
    · exact .inl rfl
    · split
      · exact .inr (.inl rfl)
      · exact .inr (.inr rfl)
  unfold wordTerm
  rcases small with distance | distance | distance
  · exact .inl (by rw [distance]; rfl)
  · exact .inr ⟨'1', by decide, by rw [distance]; rfl⟩
  · exact .inr ⟨'2', by decide, by rw [distance]; rfl⟩

theorem readTerm_wordTerm (readable : Readable word) : readTerm (wordTerm word) = word := by
  have cut : Text.upTo '~' (wordTerm word) = escapeWord word := by
    rcases wordTerm_cases word with same | ⟨digit, -, same⟩
    · rw [same, Text.upTo_of_not_mem (tilde_not_mem_escapeWord readable)]
    · rw [same, Text.upTo_append_mark, Text.upTo_of_not_mem (tilde_not_mem_escapeWord readable)]
  rw [readTerm, cut, filter_escapeWord readable]

theorem isBlank_of_mem_wordTerm (letters : ∀ c ∈ word, Text.isBlank c = false) :
    ∀ c ∈ wordTerm word, Text.isBlank c = false := by
  intro c mem
  have escaped (mem : c ∈ escapeWord word) : Text.isBlank c = false := by
    rcases mem_escapeWord mem with here | rfl
    · exact letters c here
    · decide
  rcases wordTerm_cases word with same | ⟨digit, among, same⟩
  · exact escaped (same ▸ mem)
  · rw [same] at mem
    rcases List.mem_append.1 mem with mem | mem
    · exact escaped mem
    · simp only [List.mem_cons, List.not_mem_nil, or_false] at among mem
      rcases mem with rfl | rfl
      · decide
      · rcases among with rfl | rfl
        · decide
        · decide

/-- The words of an expression are the terms of its text. -/
theorem words_of_fuzzyExpression {text expression : String} (h : fuzzyExpression text = some expression) :
    Text.words expression.toList = fuzzyTerms text.toList := by
  have words : ∀ term ∈ fuzzyTerms text.toList, term ≠ [] ∧ ∀ c ∈ term, Text.isBlank c = false := by
    intro term mem
    obtain ⟨mem, some⟩ := List.mem_filter.1 mem
    obtain ⟨word, here, rfl⟩ := List.mem_map.1 mem
    exact ⟨by simpa using some, isBlank_of_mem_wordTerm fun c mem => ((Text.mem_words here).2 c mem).1⟩
  unfold fuzzyExpression at h
  simp only at h
  split at h
  · cases h
  · cases h
    rw [String.toList_ofList, Text.words_intercalate words]

theorem fuzzyExpression_eq_none_iff {text : String} :
    fuzzyExpression text = none ↔ ∀ word ∈ Text.words text.toList, wordTerm word = [] := by
  have terms : fuzzyTerms text.toList = [] ↔ ∀ word ∈ Text.words text.toList, wordTerm word = [] := by
    simp [fuzzyTerms]
  rw [← terms]
  unfold fuzzyExpression
  by_cases none : fuzzyTerms text.toList = [] <;> simp [none]

theorem wordTerm_ne_nil (readable : Readable word) (some : word ≠ []) : wordTerm word ≠ [] := by
  intro empty
  have read := readTerm_wordTerm readable
  rw [empty] at read
  exact some read.symm

/-- The words of an expression are the terms of the words of its text. There is no expression only if there
are no words. -/
theorem words_fuzzyExpression {text : String} (readable : Readable text.toList) :
    (fuzzyExpression text = none ∧ Text.words text.toList = []) ∨
    ∃ expression, fuzzyExpression text = some expression ∧
      Text.words expression.toList = (Text.words text.toList).map wordTerm := by
  have some : ∀ word ∈ Text.words text.toList, wordTerm word ≠ [] := fun word mem =>
    wordTerm_ne_nil (readable.of_mem_words mem) (Text.mem_words mem).1
  cases h : fuzzyExpression text with
  | none =>
    refine .inl ⟨rfl, List.eq_nil_iff_forall_not_mem.2 fun word mem => ?_⟩
    exact some word mem (fuzzyExpression_eq_none_iff.1 h word mem)
  | some expression =>
    refine .inr ⟨expression, rfl, (words_of_fuzzyExpression h).trans (List.filter_eq_self.2 fun term mem => ?_)⟩
    obtain ⟨word, here, rfl⟩ := List.mem_map.1 mem
    simpa using some word here

/-! ## Words of dropped characters -/

/-- Whether all characters of a word are dropped. -/
def isBracketed (word : List Char) : Bool := word.all fun c => c = '<' ∨ c = '>'

/-- The distance that is written behind a word. -/
def distanceMark (word : List Char) : List Char :=
  if fuzziness word = 0 then [] else '~' :: (Nat.repr (fuzziness word)).toList

theorem wordTerm_eq (word : List Char) : wordTerm word = escapeWord word ++ distanceMark word := by
  unfold wordTerm distanceMark
  split
  case h_1 none => simp [none]
  case h_2 some => rw [if_neg some]

theorem fuzziness_eq_zero_iff {word : List Char} : fuzziness word = 0 ↔ word.length ≤ 3 := by
  unfold fuzziness
  split
  · simp [*]
  · split <;> simp [*]

theorem escapeWord_eq_nil_iff {word : List Char} : escapeWord word = [] ↔ isBracketed word := by
  have each (c : Char) : (if c = '<' ∨ c = '>' then [] else if reservedChars.contains c then ['\\', c] else [c]) = [] ↔
      c = '<' ∨ c = '>' := by
    split
    · simp [*]
    · split <;> simp [*]
  simp only [escapeWord, isBracketed, List.flatMap_eq_nil_iff, each, List.all_eq_true, decide_eq_true_eq]

/-- A word leaves no term only if it has no distance. -/
theorem wordTerm_eq_nil_iff {word : List Char} : wordTerm word = [] ↔ isBracketed word ∧ word.length ≤ 3 := by
  rw [wordTerm_eq, List.append_eq_nil_iff, escapeWord_eq_nil_iff, ← fuzziness_eq_zero_iff]
  simp [distanceMark]

/-- A text leaves no expression exactly if all its words are bracketed and have at most three characters. A
bracketed word that is longer leaves its distance, with nothing before it. -/
theorem blank_texts (text : String) :
    (fuzzyExpression text = none ↔ ∀ word ∈ Text.words text.toList, isBracketed word ∧ word.length ≤ 3) ∧
    ∀ expression, fuzzyExpression text = some expression → ∀ term ∈ Text.words expression.toList,
      ∃ word ∈ Text.words text.toList, term = escapeWord word ++ distanceMark word ∧
        (escapeWord word = [] ↔ isBracketed word ∧ 3 < word.length) := by
  constructor
  · simp only [fuzzyExpression_eq_none_iff, wordTerm_eq_nil_iff]
  · intro expression h term mem
    rw [words_of_fuzzyExpression h] at mem
    obtain ⟨mem, some⟩ := List.mem_filter.1 mem
    obtain ⟨word, here, rfl⟩ := List.mem_map.1 mem
    have left : ¬ (isBracketed word ∧ word.length ≤ 3) := by
      rw [← wordTerm_eq_nil_iff]
      simpa using some
    refine ⟨word, here, wordTerm_eq word, escapeWord_eq_nil_iff.trans ⟨fun bracketed => ⟨bracketed, ?_⟩, And.left⟩⟩
    exact Nat.lt_of_not_le fun short => left ⟨bracketed, short⟩

/-- Of three words one leaves a term, one nothing, and one its distance. -/
theorem brackets_leave_nothing_or_a_distance :
    (∀ term ∈ Text.words "ab ~1".toList, ∃ word ∈ Text.words "ab <> <<<<".toList,
      term = escapeWord word ++ distanceMark word ∧ (escapeWord word = [] ↔ isBracketed word ∧ 3 < word.length)) ∧
    fuzzyExpression "ab <> <<<<" = some "ab ~1" :=
  have found : fuzzyExpression "ab <> <<<<" = some "ab ~1" := by rfl
  ⟨(blank_texts "ab <> <<<<").2 "ab ~1" found, found⟩

/-- A text of one bracketed word leaves an expression without a term. -/
theorem long_brackets_leave_a_distance :
    (∀ word ∈ Text.words "<<<<".toList, isBracketed word) ∧ fuzzyExpression "<<<<" = some "~1" :=
  ⟨by decide, by rfl⟩

/-! ## Fields -/

/-- The name that the backend looks for in place of the name of a field: what stands in front of the first
mark of a weight. -/
def searchedField (field : String) : String := String.ofList (Text.upTo '^' field.toList)

theorem map_searchedField {fields : List String} (plain : ∀ field ∈ fields, '^' ∉ field.toList) :
    fields.map searchedField = fields := by
  refine (List.map_congr_left fun field mem => ?_).trans (List.map_id fields)
  rw [searchedField, Text.upTo_of_not_mem (plain field mem), String.ofList_toList, id]

/-- A weight does not change what is looked for. -/
theorem searchedField_weighted (field weight : String) : searchedField (field ++ "^" ++ weight) = searchedField field := by
  have marked : (field ++ "^" ++ weight).toList = field.toList ++ '^' :: weight.toList := by
    simp [String.toList_append]
  rw [searchedField, marked, Text.upTo_append_mark, searchedField]

theorem searchedField_boostedFields (fields : List String) :
    (boostedFields fields).map searchedField = (fields.map searchedField).reverse := by
  calc (boostedFields fields).map searchedField
    _ = ((fields.reverse.zipIdx 10).map (·.1)).map searchedField := by
      rw [boostedFields, List.map_map, List.map_map]
      exact List.map_congr_left fun entry _ => searchedField_weighted entry.1 (tenths entry.2)
    _ = (fields.map searchedField).reverse := by rw [List.zipIdx_map_fst, List.map_reverse]

end SearchTenancy

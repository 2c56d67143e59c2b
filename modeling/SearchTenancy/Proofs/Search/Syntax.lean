import Mathlib.Data.List.Forall2
import SearchTenancy.Proofs.Search.Expression

/-!
# Expressions as the syntax reads them

A reader of the query-string syntax takes a character behind a backslash for itself and
every other reserved character for syntax (`scan`). It reads an expression as one term
for each word of the text, apart from the words that leave none. No character of a term
is syntax but the tilde of its distance, and the others are those of the word
(`text_has_no_syntax`): whatever characters a text has, none of them acts on the search.
-/

namespace SearchTenancy

/-- A character as it is read: behind a backslash, or by itself. -/
inductive Symbol where
  | escaped (c : Char)
  | bare (c : Char)
  deriving DecidableEq

/-- The character of a symbol. -/
def Symbol.char : Symbol → Char
  | escaped c | bare c => c

/-- Whether a symbol is read as syntax. -/
def Symbol.isSyntax : Symbol → Bool
  | escaped _ => false
  | bare c => reservedChars.contains c

/-- Reads the characters of an expression. A backslash behind which there is nothing is read by itself. -/
def scan : List Char → List Symbol
  | '\\' :: c :: rest => .escaped c :: scan rest
  | c :: rest => .bare c :: scan rest
  | [] => []

/-- The terms of an expression: its parts between the blanks that are read by themselves. -/
def readTerms : Option String → List (List Symbol)
  | none => []
  | some expression => (scan expression.toList).splitOn (.bare ' ')

/-- How the distance of a word with so many characters is read. -/
def readDistance (length : Nat) : List Symbol :=
  if length < 4 then [] else if length < 8 then [.bare '~', .bare '1'] else [.bare '~', .bare '2']

/-- The word is read as the term: its characters, none of them as syntax, without those that have no escape, and
then its distance. -/
def ReadAs (word : List Char) (term : List Symbol) : Prop :=
  ∃ body, term = body ++ readDistance word.length ∧ (∀ symbol ∈ body, symbol.isSyntax = false) ∧
    body.map Symbol.char = word.filter fun c => ¬ (c = '<' ∨ c = '>')

/-! ## One term -/

theorem scan_cons {c : Char} (plain : c ≠ '\\') (rest : List Char) : scan (c :: rest) = .bare c :: scan rest := by
  cases rest <;> simp [scan, plain]

/-- How the characters of a word are read. -/
def readWord (word : List Char) : List Symbol :=
  (word.filter fun c => ¬ (c = '<' ∨ c = '>')).map fun c => if reservedChars.contains c then .escaped c else .bare c

theorem scan_escapeWord (word rest : List Char) : scan (escapeWord word ++ rest) = readWord word ++ scan rest := by
  induction word with
  | nil => rfl
  | cons c others ih =>
    unfold escapeWord readWord at *
    rw [List.flatMap_cons]
    by_cases dropped : c = '<' ∨ c = '>'
    · rw [if_pos dropped, List.filter_cons_of_neg (by simp [dropped])]
      exact ih
    · rw [if_neg dropped, List.filter_cons_of_pos (by simp [dropped]), List.map_cons]
      by_cases reserved : reservedChars.contains c
      · rw [if_pos reserved, if_pos reserved, List.append_assoc]
        exact congrArg (Symbol.escaped c :: ·) ih
      · have plain : c ≠ '\\' := by
          rintro rfl
          exact reserved (by decide)
        rw [if_neg reserved, if_neg reserved, List.append_assoc, List.singleton_append, scan_cons plain, ih]
        rfl

theorem scan_distanceMark (word rest : List Char) :
    scan (distanceMark word ++ rest) = readDistance word.length ++ scan rest := by
  have one : (Nat.repr 1).toList = ['1'] := by decide
  have two : (Nat.repr 2).toList = ['2'] := by decide
  unfold distanceMark fuzziness readDistance
  by_cases short : word.length ≤ 3
  · have below : word.length < 4 := Nat.lt_succ_of_le short
    simp [short, below]
  · have above : ¬ word.length < 4 := fun below => short (Nat.le_of_lt_succ below)
    by_cases middle : word.length ≤ 7
    · have below : word.length < 8 := Nat.lt_succ_of_le middle
      simp [short, middle, above, below, one, scan_cons]
    · have large : ¬ word.length < 8 := fun below => middle (Nat.le_of_lt_succ below)
      simp [short, middle, above, large, two, scan_cons]

theorem scan_wordTerm (word rest : List Char) :
    scan (wordTerm word ++ rest) = readWord word ++ readDistance word.length ++ scan rest := by
  rw [wordTerm_eq, List.append_assoc, scan_escapeWord, scan_distanceMark, List.append_assoc]

theorem readAs_readWord (word : List Char) : ReadAs word (readWord word ++ readDistance word.length) := by
  refine ⟨readWord word, rfl, fun symbol mem => ?_, ?_⟩
  · obtain ⟨c, -, rfl⟩ := List.mem_map.1 mem
    split
    · rfl
    · rename_i plain
      exact Bool.eq_false_iff.2 plain
  · rw [readWord, List.map_map]
    refine List.map_id'' (fun c => ?_) _
    dsimp only [Function.comp_apply]
    split <;> rfl

/-! ## All terms -/

/-- Whether a word leaves a term. -/
def leavesTerm (word : List Char) : Bool := !(isBracketed word && word.length < 4)

/-- Terms do not run into each other. -/
theorem scan_intercalate (words : List (List Char)) :
    scan ([' '].intercalate (words.map wordTerm)) =
      [.bare ' '].intercalate (words.map fun word => readWord word ++ readDistance word.length) := by
  induction words with
  | nil => rfl
  | cons word others ih =>
    cases others with
    | nil => simpa [scan] using scan_wordTerm word []
    | cons second rest =>
      simp only [List.map_cons, List.intercalate_cons_cons, List.append_assoc] at ih ⊢
      rw [scan_wordTerm, List.singleton_append, scan_cons (by decide), ih]
      simp

theorem fuzzyTerms_eq (text : List Char) : fuzzyTerms text = ((Text.words text).filter leavesTerm).map wordTerm := by
  rw [fuzzyTerms, List.filter_map]
  refine congrArg (List.map wordTerm) (List.filter_congr fun word _ => ?_)
  have empty : wordTerm word = [] ↔ isBracketed word ∧ word.length < 4 :=
    wordTerm_eq_nil_iff.trans (and_congr_right' Nat.lt_succ_iff.symm)
  rw [Function.comp_apply, leavesTerm, Bool.eq_iff_iff]
  cases bracketed : isBracketed word <;> simp [empty, bracketed]

theorem bare_blank_not_mem {word : List Char} (letters : ∀ c ∈ word, Text.isBlank c = false) :
    Symbol.bare ' ' ∉ readWord word ++ readDistance word.length := by
  intro mem
  rcases List.mem_append.1 mem with mem | mem
  · obtain ⟨c, kept, same⟩ := List.mem_map.1 mem
    have blankless := letters c (List.mem_filter.1 kept).1
    split at same
    · cases same
    · cases same
      exact absurd blankless (by decide)
  · unfold readDistance at mem
    split at mem
    · cases mem
    · split at mem <;> exact absurd mem (by decide)

/-- The terms that are read of an expression are those of the words that leave one. -/
theorem readTerms_fuzzyExpression (text : String) :
    readTerms (fuzzyExpression text) =
      ((Text.words text.toList).filter leavesTerm).map fun word => readWord word ++ readDistance word.length := by
  unfold fuzzyExpression
  rw [fuzzyTerms_eq]
  generalize keptEq : (Text.words text.toList).filter leavesTerm = kept
  dsimp only
  split
  case isTrue none => simp_all [readTerms]
  case isFalse some =>
    have separated : ∀ term ∈ kept.map (fun word => readWord word ++ readDistance word.length), Symbol.bare ' ' ∉ term := by
      intro term mem
      obtain ⟨word, among, rfl⟩ := List.mem_map.1 mem
      rw [← keptEq] at among
      exact bare_blank_not_mem fun c here => ((Text.mem_words (List.mem_filter.1 among).1).2 c here).1
    rw [readTerms, String.toList_ofList, scan_intercalate]
    exact List.splitOn_intercalate _ separated (by simpa using some)

theorem kept_of_mem_escapeWord {word : List Char} {c : Char} (mem : c ∈ escapeWord word) : ¬ (c = '<' ∨ c = '>') := by
  obtain ⟨original, -, escaped⟩ := List.mem_flatMap.1 mem
  split at escaped
  · cases escaped
  · rename_i kept
    split at escaped
    · rcases List.mem_cons.1 escaped with rfl | escaped
      · decide
      · exact List.mem_singleton.1 escaped ▸ kept
    · exact List.mem_singleton.1 escaped ▸ kept

theorem kept_of_mem_fuzzyExpression {text expression : String} (h : fuzzyExpression text = some expression) {c : Char}
    (mem : c ∈ expression.toList) : ¬ (c = '<' ∨ c = '>') := by
  unfold fuzzyExpression at h
  dsimp only at h
  split at h
  · cases h
  · cases h
    rw [String.toList_ofList] at mem
    rcases Text.mem_intercalate mem with rfl | ⟨term, among, here⟩
    · decide
    · obtain ⟨word, -, rfl⟩ := List.mem_map.1 (List.mem_filter.1 among).1
      rcases wordTerm_cases word with same | ⟨digit, digits, same⟩
      · exact kept_of_mem_escapeWord (same ▸ here)
      · rw [same] at here
        rcases List.mem_append.1 here with here | here
        · exact kept_of_mem_escapeWord here
        · simp only [List.mem_cons, List.not_mem_nil, or_false] at here digits
          rcases here with rfl | rfl
          · decide
          · rcases digits with rfl | rfl <;> decide

/-- A text has no say in the syntax of its expression. What is read of the expression are the words of the text in
their order, but for those of fewer than four characters all of which are dropped. In each of them the only syntax is
the tilde of its distance, if it has one, and no dropped character stands in the expression. -/
theorem text_has_no_syntax (text : String) :
    List.Forall₂ ReadAs ((Text.words text.toList).filter leavesTerm) (readTerms (fuzzyExpression text)) ∧
    ∀ expression, fuzzyExpression text = some expression → '<' ∉ expression.toList ∧ '>' ∉ expression.toList := by
  constructor
  · rw [readTerms_fuzzyExpression, List.forall₂_map_right_iff, List.forall₂_same]
    exact fun word _ => readAs_readWord word
  · intro expression h
    exact ⟨fun mem => kept_of_mem_fuzzyExpression h mem (.inl rfl), fun mem => kept_of_mem_fuzzyExpression h mem (.inr rfl)⟩

/-- A text with a backslash at the end of a word, brackets and a colon. -/
theorem punctuation_is_no_syntax :
    fuzzyExpression "lamp\\ <a:b> <>" = some "lamp\\\\~1 a\\:b~1" ∧
    List.Forall₂ ReadAs ["lamp\\".toList, "<a:b>".toList] (readTerms (some "lamp\\\\~1 a\\:b~1")) ∧
    '<' ∉ "lamp\\\\~1 a\\:b~1".toList ∧ '>' ∉ "lamp\\\\~1 a\\:b~1".toList := by
  have found : fuzzyExpression "lamp\\ <a:b> <>" = some "lamp\\\\~1 a\\:b~1" := by rfl
  have words : (Text.words "lamp\\ <a:b> <>".toList).filter leavesTerm = ["lamp\\".toList, "<a:b>".toList] := by decide
  obtain ⟨read, kept⟩ := text_has_no_syntax "lamp\\ <a:b> <>"
  rw [found, words] at read
  exact ⟨found, read, kept _ found⟩

end SearchTenancy

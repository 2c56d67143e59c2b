import SearchTenancy.Backend.Memory
import SearchTenancy.Proofs.Mapping.Schema
import SearchTenancy.Proofs.Search.Expression
import SearchTenancy.Search.Query

/-!
# What a request asks for

The direct reading of a search request: its filters hold of a document, and every word
of its text stands in one of the strings of the document
(`SearchRequest.Satisfied`). The compiled query is satisfied by the same documents as
the request (`query_iff`), whatever parts the request has.
-/

namespace SearchTenancy

/-- A filter holds if its field is there and equal to the term, or is a number within the bounds. A bound that
is no number does not restrict. -/
def Filter.Holds (document : Members) : Filter → Prop
  | .term field value => ∃ found, Entries.get? document field = some found ∧ found.sameValue value
  | .range field lower upper => ∃ found : Number, Entries.get? document field = some (.num found) ∧
      (∀ bound, lower = some (.num bound) → bound.toDouble.rank ≤ found.toDouble.rank) ∧
      (∀ bound, upper = some (.num bound) → found.toDouble.rank ≤ bound.toDouble.rank)

/-- A word stands in a string of a document, whatever the case of the letters. If fields are given, the string
is in one of them. -/
def HasWord (fields : List String) (document : Members) (word : List Char) : Prop :=
  ∃ field text, (field, .str text) ∈ document ∧ (fields ≠ [] → field ∈ fields) ∧
    Text.lower word <:+: Text.lower text.toList

/-- All that a request asks of a document. -/
structure SearchRequest.Satisfied (request : SearchRequest) (fields : List String) (document : Members) : Prop where
  filters : ∀ filter ∈ request.filters.getD [], filter.Holds document
  words : ∀ text, request.query = some text → ∀ word ∈ Text.words text.toList, HasWord fields document word

namespace Match

variable {objectId : String} {document : Members}

theorem all_eq (clauses : List Json) : all objectId document clauses = clauses.all (query objectId document) := by
  induction clauses with
  | nil => rfl
  | cons clause rest ih => rw [all, ih, List.all_cons]

/-! ## Filters -/

theorem within_iff {bound : Option Json} {wrong : Ordering} {value : Double} :
    within bound wrong value ↔ ∀ number, bound = some (.num number) → value.compare number.toDouble ≠ wrong := by
  unfold within
  cases bound with
  | none => simp
  | some bound =>
    cases bound with
    | num number => simp [Json.asDouble?]
    | null | bool _ | str _ | arr _ | obj _ => simp [Json.asDouble?]

theorem filterClause_iff (filter : Filter) :
    query objectId document (CompiledQuery.filterClause filter) ↔ filter.Holds document := by
  cases filter with
  | term field value =>
    have clause : query objectId document (CompiledQuery.filterClause (.term field value)) =
        (Entries.get? document field).any (·.sameValue value) := rfl
    rw [clause, Option.any_eq_true]
    rfl
  | range field lower upper =>
    have from_to : (Json.obj (Json.optionalMember "gte" lower ++ Json.optionalMember "lte" upper)).get? "gte" = lower ∧
        (Json.obj (Json.optionalMember "gte" lower ++ Json.optionalMember "lte" upper)).get? "lte" = upper := by
      cases lower <;> cases upper <;> exact ⟨rfl, rfl⟩
    show range document (.obj [(field, _)]) ↔ _
    unfold range
    simp only [Json.firstMember?, Json.asObject?, Option.bind_some, List.head?_cons, from_to, Filter.Holds]
    cases Entries.get? document field with
    | none => simp
    | some found =>
      cases found with
      | num number => simp [Json.asDouble?, within_iff, Double.compare, Int.compare_eq_lt, Int.compare_eq_gt]
      | null | bool _ | str _ | arr _ | obj _ => simp [Json.asDouble?]

/-! ## Text -/

/-- What is looked for in a document, and where. -/
theorem any_texts_iff (names : Option (List String)) (word : List Char) :
    ((document.filter fun member => names.all (·.contains member.1)).filterMap fun member =>
      member.2.asString?.map fun text => Text.lower text.toList).any (Text.contains word) ↔
    ∃ field text, (field, .str text) ∈ document ∧ (∀ list, names = some list → field ∈ list) ∧
      word <:+: Text.lower text.toList := by
  simp only [List.any_eq_true, List.mem_filterMap, List.mem_filter, Text.contains_iff, Option.map_eq_some_iff]
  constructor
  · rintro ⟨_, ⟨⟨field, value⟩, ⟨mem, named⟩, text, isText, rfl⟩, inside⟩
    refine ⟨field, text, ?_, fun list same => by simpa [same] using named, inside⟩
    cases value with
    | str found =>
      cases isText
      exact mem
    | null | bool _ | num _ | arr _ | obj _ => cases isText
  · rintro ⟨field, text, mem, named, inside⟩
    refine ⟨_, ⟨(field, .str text), ⟨mem, ?_⟩, text, rfl, rfl⟩, inside⟩
    cases names with
    | none => rfl
    | some list => simpa using named list rfl

/-- An expression asks for every one of its words, in one of the fields that are looked for. -/
theorem text_iff (names : Option (List String)) (expression : String) :
    text document (.obj ([("default_operator", .str "AND")] ++
      Json.optionalMember "fields" (names.map fun list => .ofStrings (boostedFields list)) ++
      [("query", .str expression)])) ↔
    ∀ word ∈ Text.words expression.toList, ∃ field text, (field, .str text) ∈ document ∧
      (∀ list, names = some list → field ∈ list.map searchedField) ∧
      Text.lower (readTerm word) <:+: Text.lower text.toList := by
  generalize clauseEq : Json.obj ([("default_operator", .str "AND")] ++
    Json.optionalMember "fields" (names.map fun list => .ofStrings (boostedFields list)) ++
    [("query", .str expression)]) = clause
  have asked : clause.get? "query" = some (.str expression) := by
    rw [← clauseEq]
    cases names <;> rfl
  have named : (((clause.get? "fields").bind Json.asArray?).map fun fields =>
      (fields.filterMap Json.asString?).map searchedField) =
      names.map fun list => (list.map searchedField).reverse := by
    rw [← clauseEq]
    cases names with
    | none => rfl
    | some list =>
      have strings : ((boostedFields list).map Json.str).filterMap Json.asString? = boostedFields list :=
        Schema.filterMap_asString? _
      show some ((((boostedFields list).map Json.str).filterMap Json.asString?).map searchedField) = _
      rw [strings, searchedField_boostedFields]
      rfl
  unfold searchedField at named
  unfold text
  simp only [asked, named, Option.bind_some, Json.asString?, Option.getD_some]
  rw [List.all_eq_true]
  refine forall₂_congr fun word mem => (any_texts_iff ..).trans ?_
  simp [readTerm, searchedField]

/-- The clause of a text, if there is one, is satisfied if all words are there. -/
theorem textClause_iff {text : String} (readable : Readable text.toList) {fields : List String}
    (plain : ∀ field ∈ fields, '^' ∉ field.toList) :
    (∀ clause, CompiledQuery.textClause text (some fields) = some clause → query objectId document clause) ↔
      ∀ word ∈ Text.words text.toList, HasWord fields document word := by
  unfold CompiledQuery.textClause
  rcases words_fuzzyExpression readable with ⟨none, noWords⟩ | ⟨expression, some, words⟩
  · simp [none, noWords]
  · rw [some]
    simp only [Option.map_some, Option.some.injEq, forall_eq']
    -- Without searchable fields the clause names no fields.
    generalize namesEq : Option.filter (fun fields : List String => !fields.isEmpty) (Option.some fields) = names
    have names_iff (field : String) : (∀ list, names = Option.some list → field ∈ list) ↔ (fields ≠ [] → field ∈ fields) := by
      rw [← namesEq]
      cases fields <;> simp
    have searched : ∀ list, names = Option.some list → list.map searchedField = list := by
      rw [← namesEq]
      intro list same
      cases (Option.filter_eq_some_iff.1 same).1
      exact map_searchedField plain
    refine (text_iff names expression).trans ?_
    rw [words]
    simp +contextual only [List.forall_mem_map, searched, names_iff]
    refine forall₂_congr fun word mem => ?_
    rw [readTerm_wordTerm (readable.of_mem_words mem)]
    rfl

/-! ## Requests -/

/-- Whatever parts there are, all clauses have to be satisfied. -/
theorem query_eq_all (request : SearchRequest) (fields : List String) :
    query objectId document (CompiledQuery.query request (some fields)) =
      (all objectId document (request.query.bind (CompiledQuery.textClause · (some fields))).toList &&
        all objectId document ((request.filters.getD []).map CompiledQuery.filterClause)) := by
  unfold CompiledQuery.query
  generalize (request.query.bind (CompiledQuery.textClause · (some fields))).toList = must
  generalize (request.filters.getD []).map CompiledQuery.filterClause = filter
  cases must with
  | nil =>
    cases filter with
    | nil => rfl
    | cons _ _ => rfl
  | cons _ _ =>
    cases filter with
    | nil => rfl
    | cons _ _ => rfl

/-- The query of a request is satisfied by the documents that satisfy the request. -/
theorem query_iff {request : SearchRequest} {fields : List String}
    (readable : ∀ text, request.query = some text → Readable text.toList)
    (plain : ∀ field ∈ fields, '^' ∉ field.toList) :
    query objectId document (CompiledQuery.query request (some fields)) ↔ request.Satisfied fields document := by
  rw [query_eq_all, Bool.and_eq_true, all_eq, all_eq, List.all_eq_true, List.all_eq_true]
  simp only [List.forall_mem_map, filterClause_iff]
  have words : (∀ clause ∈ (request.query.bind (CompiledQuery.textClause · (some fields))).toList,
      query objectId document clause) ↔
      ∀ text, request.query = some text → ∀ word ∈ Text.words text.toList, HasWord fields document word := by
    cases asked : request.query with
    | none => simp
    | some text =>
      have clause : (∀ clause, CompiledQuery.textClause text (some fields) = some clause →
          query objectId document clause) ↔ _ := textClause_iff (readable text asked) plain
      simpa using clause
  rw [words]
  exact ⟨fun ⟨words, filters⟩ => ⟨filters, words⟩, fun ⟨filters, words⟩ => ⟨words, filters⟩⟩

end Match

end SearchTenancy

import SearchTenancy.Proofs.Json.Record
import SearchTenancy.Search.Request

/-!
# Search requests on the wire

What arrives of a request that is written and read again. On the wire null stands for
absence, so a filter on null does not arrive as it was.
-/

namespace SearchTenancy

namespace Filter

/-- The values of a filter. -/
def values : Filter → List Json
  | term _ value => [value]
  | range _ lower upper => lower.toList ++ upper.toList

/-- The members of every object in the values are in key order, as in every object that is held. -/
def Canonical (filter : Filter) : Prop := ∀ value ∈ filter.values, value.Canonical

/-- No value of the filter is null. -/
def Definite (filter : Filter) : Prop := ∀ value ∈ filter.values, value.isNull = false

/-- The field of a filter on the term null. -/
def nullTerm? : Filter → Option String
  | term field value => if value.isNull then some field else none
  | range _ _ _ => none

/-- The filter without the bounds that are null. -/
def definite : Filter → Filter
  | term field value => term field value
  | range field lower upper => range field (Json.given lower) (Json.given upper)

/-- What arrives of a filter. One on the term null has neither a term nor a range. -/
def received (filter : Filter) : Reading RequestFlaw Filter :=
  match filter.nullTerm? with
  | some field => .error (.rule (.ambiguousFilter field))
  | none => .ok filter.definite

/-- A filter arrives as it was exactly if none of its values is null. -/
theorem definite_iff {filter : Filter} : filter.Definite ↔ filter.nullTerm? = none ∧ filter.definite = filter := by
  cases filter with
  | term field value => by_cases h : value.isNull <;> simp [Definite, values, nullTerm?, definite, h]
  | range field lower upper =>
    simp only [Definite, values, nullTerm?, definite, range.injEq, Json.given_eq_self_iff, true_and,
      List.mem_append, Option.mem_toList, or_imp, forall_and, Option.mem_def]

/-! ### Reading what was written -/

theorem readBounds_present (lower upper : Option Json) (lowerCanonical : ∀ value ∈ lower, value.Canonical)
    (upperCanonical : ∀ value ∈ upper, value.Canonical) :
    (Json.obj (Json.present [("from", lower), ("to", upper)])).readAs readBounds =
      .ok ⟨Json.given lower, Json.given upper⟩ := by
  refine Written.readRecord_of_enters (by simp) (by simp) ?_
  refine .cons (Written.enterSlot_json (by rfl) (by rfl) lowerCanonical) ?_
  refine .cons (Written.enterSlot_json (by rfl) (by rfl) upperCanonical) ?_
  exact .nil _

/-- A filter arrives as `received` says. -/
theorem read_toJson {filter : Filter} (h : filter.Canonical) : filter.toJson.readAs read = filter.received := by
  cases filter with
  | term field value =>
    have written : (term field value).toJson =
        .obj (Json.present [("field", some (.str field)), ("term", some value)]) := rfl
    have draft : (term field value).toJson.readAs readDraft = .ok ⟨field, Json.given (some value), none⟩ := by
      rw [written]
      refine Written.readRecord_of_enters (by simp) (by simp) ?_
      refine .cons (Written.enterSlot_required (by rfl) (by rfl)) ?_
      refine .cons (Written.enterSlot_json (by rfl) (by rfl)
        (by simpa [Canonical, values] using h)) ?_
      exact .nil _
    show (do ofDraft (← (term field value).toJson.readAs readDraft)) = _
    rw [draft]
    cases value <;> rfl
  | range field lower upper =>
    have written : (range field lower upper).toJson =
        .obj (Json.present [("field", some (.str field)),
          ("range", some (.obj (Json.present [("from", lower), ("to", upper)])))]) := by
      simp [toJson, Json.present, Json.optionalMember]
    have bounds := readBounds_present lower upper
      (fun value mem => h value (by simp [values, Option.mem_def.1 mem]))
      (fun value mem => h value (by simp [values, Option.mem_def.1 mem]))
    have draft : (range field lower upper).toJson.readAs readDraft =
        .ok ⟨field, none, some ⟨Json.given lower, Json.given upper⟩⟩ := by
      rw [written]
      refine Written.readRecord_of_enters (by simp) (by simp) ?_
      refine .cons (Written.enterSlot_required (by rfl) (by rfl)) ?_
      refine .cons ((Written.enterSlot_given (by rfl) (by rfl)).trans
        (congrArg (Except.map _) bounds)) ?_
      exact .nil _
    show (do ofDraft (← (range field lower upper).toJson.readAs readDraft)) = _
    rw [draft]
    rfl

/-! ### What is read -/

/-- A value as it can be read into a filter. -/
def Readable (value : Json) : Prop := value.Canonical ∧ value.isNull = false

theorem readable_of_readJson (written : Written) (value : Json) (notNull : written ≠ .null)
    (h : (Written.readJson written : Reading RequestFlaw Json) = .ok value) : Readable value :=
  ⟨Written.canonical_of_readJson h, Written.isNull_of_readJson notNull h⟩

/-- The bounds that are given are readable. -/
def Bounds.Readable (bounds : Bounds) : Prop :=
  (∀ value ∈ bounds.lower, Filter.Readable value) ∧ ∀ value ∈ bounds.upper, Filter.Readable value

theorem readable_of_readBounds (written : Written) (bounds : Bounds) (h : readBounds written = .ok bounds) :
    bounds.Readable := by
  refine Written.readRecord_keeps Bounds.Readable ?_ (by simp [Bounds.Readable]) h
  simp only [List.mem_cons, List.not_mem_nil, or_false, forall_eq_or_imp, forall_eq]
  constructor
  · exact Written.keeps_optional Readable readable_of_readJson fun _ _ lower kept => ⟨lower, kept.2⟩
  · exact Written.keeps_optional Readable readable_of_readJson fun _ _ upper kept => ⟨kept.1, upper⟩

/-- The values of the draft are readable. -/
def Draft.Readable (draft : Draft) : Prop :=
  (∀ value ∈ draft.term, Filter.Readable value) ∧ ∀ bounds ∈ draft.range, bounds.Readable

theorem readable_of_readDraft {written : Written} {draft : Draft} (h : readDraft written = .ok draft) :
    draft.Readable := by
  refine Written.readRecord_keeps Draft.Readable ?_ (by simp [Draft.Readable]) h
  simp only [List.mem_cons, List.not_mem_nil, or_false, forall_eq_or_imp, forall_eq]
  refine ⟨?_, ?_, ?_⟩
  · exact Written.keeps_required_any fun _ _ kept => kept
  · exact Written.keeps_optional Readable readable_of_readJson fun _ _ term kept => ⟨term, kept.2⟩
  · exact Written.keeps_optional Bounds.Readable (fun written bounds _ => readable_of_readBounds written bounds)
      fun _ _ range kept => ⟨kept.1, range⟩

/-- The values of a filter that is read are canonical and not null. -/
theorem readable_of_read {written : Written} {filter : Filter} (h : read written = .ok filter) :
    ∀ value ∈ filter.values, Readable value := by
  unfold read at h
  obtain ⟨draft, found, made⟩ := exists_of_bind_eq_ok h
  obtain ⟨term, range⟩ := readable_of_readDraft found
  unfold ofDraft at made
  split at made
  · rename_i value given _
    cases made
    simpa [values] using term value given
  · rename_i bounds _ given
    cases made
    obtain ⟨lower, upper⟩ := range bounds given
    intro value mem
    rcases List.mem_append.1 mem with mem | mem
    · exact lower value (Option.mem_toList.1 mem)
    · exact upper value (Option.mem_toList.1 mem)
  · cases made

end Filter

/-! ## Sort clauses -/

theorem SortClause.read_toJson (clause : SortClause) : clause.toJson.readAs read = .ok clause := by
  have written : clause.toJson = .obj (Json.present
      [("direction", clause.direction.map fun direction => .str direction.name),
        ("field", some (.str clause.field))]) := by
    simp [toJson, Json.present, Json.optionalMember]
  have direction (direction : SortDirection) : (Json.str direction.name).readAs SortDirection.read = .ok direction := by
    cases direction <;> rfl
  rw [written]
  refine Written.readRecord_of_enters (by simp) (by simp) ?_
  refine .cons (Written.enterSlot_restored (by rfl) (by rfl) (fun _ => rfl)
    fun given _ => direction given) ?_
  refine .cons (Written.enterSlot_required (by rfl) (by rfl)) ?_
  exact .nil _

/-! ## Requests -/

namespace SearchRequest

/-- The filters, none if they are absent. -/
def filterList (request : SearchRequest) : List Filter := request.filters.getD []

/-- What arrives of a request: the first filter on the term null is refused. -/
def received (request : SearchRequest) : Reading RequestFlaw SearchRequest :=
  match request.filterList.findSome? Filter.nullTerm? with
  | some field => .error (.rule (.ambiguousFilter field))
  | none => .ok { request with filters := request.filters.map (·.map Filter.definite) }

/-- The filters arrive, or the first on the term null is refused. -/
theorem readFilters (filters : List Filter) (h : ∀ filter ∈ filters, filter.Canonical) :
    (Json.arr (filters.map Filter.toJson)).readAs (Written.readList Filter.read) =
      match filters.findSome? Filter.nullTerm? with
      | some field => .error (.rule (.ambiguousFilter field))
      | none => .ok (filters.map Filter.definite) := by
  show Written.readItems Filter.read (Written.ofItems (filters.map Filter.toJson)) = _
  rw [Written.readItems_ofItems]
  induction filters with
  | nil => rfl
  | cons filter rest ih =>
    rw [List.mapM_cons, ih fun other mem => h other (List.mem_cons_of_mem _ mem), List.findSome?_cons,
      Filter.read_toJson (h filter (List.mem_cons_self ..)), Filter.received]
    cases filter.nullTerm? with
    | some field => rfl
    | none => cases rest.findSome? Filter.nullTerm? <;> rfl

/-- A request arrives as `received` says. -/
theorem read_toJson {request : SearchRequest} (h : ∀ filter ∈ request.filterList, filter.Canonical) :
    request.toJson.readAs read = request.received := by
  obtain ⟨query, filters, sort, page, size⟩ := request
  have written : (SearchRequest.mk query filters sort page size).toJson = .obj (Json.present
      [("filters", filters.map fun filters => .arr (filters.map Filter.toJson)),
        ("hitsPerPage", size.map .ofUInt64), ("page", page.map .ofUInt64), ("query", query.map .str),
        ("sort", sort.map fun clauses => .arr (clauses.map SortClause.toJson))]) := by
    simp [toJson, Json.present]
  have clauses (clauses : List SortClause) :
      (Json.arr (clauses.map SortClause.toJson)).readAs (Written.readList SortClause.read) = .ok clauses :=
    Written.readList_restores fun clause _ => SortClause.read_toJson clause
  rw [written, Json.readAs, read, Written.readRecord_present (by simp) (by simp)]
  cases refused : List.findSome? Filter.nullTerm? (filters.getD []) with
  | some field =>
    cases filters with
    | none => cases refused
    | some filters =>
      replace refused : filters.findSome? Filter.nullTerm? = some field := refused
      have arrived := readFilters filters h
      simp only [refused] at arrived
      simp only [received, filterList, Option.getD_some, refused]
      exact Written.foldlM_enterSlot_error ((Written.enterSlot_given (by rfl) (by rfl)).trans
        (congrArg (Except.map _) arrived))
  | none =>
    simp only [received, filterList, refused]
    refine Written.Enters.foldlM_eq
      (.cons (?_ : _ = Except.ok { empty with filters := filters.map (·.map Filter.definite) }) ?_)
    · cases filters with
      | none => rfl
      | some filters =>
        replace refused : filters.findSome? Filter.nullTerm? = none := refused
        have arrived := readFilters filters h
        simp only [refused] at arrived
        exact (Written.enterSlot_given (by rfl) (by rfl)).trans (congrArg (Except.map _) arrived)
    · refine .cons (Written.enterSlot_restored (by rfl) (by rfl) (fun _ => rfl)
        fun _ _ => by rfl) ?_
      refine .cons (Written.enterSlot_restored (by rfl) (by rfl) (fun _ => rfl)
        fun _ _ => by rfl) ?_
      refine .cons (Written.enterSlot_restored (by rfl) (by rfl) (fun _ => rfl)
        fun _ _ => by rfl) ?_
      refine .cons (Written.enterSlot_restored (by rfl) (by rfl) (fun _ => rfl)
        fun given _ => clauses given) ?_
      exact .nil _

/-- A request arrives as it was exactly if no filter holds null. -/
theorem received_eq_ok_iff (request : SearchRequest) :
    request.received = .ok request ↔ ∀ filter ∈ request.filterList, filter.Definite := by
  have unchanged : request.filters.map (·.map Filter.definite) = request.filters ↔
      ∀ filter ∈ request.filterList, filter.definite = filter := by
    cases h : request.filters with
    | none => simp [filterList, h]
    | some filters =>
      have each : filters.map Filter.definite = filters.map id ↔ ∀ filter ∈ filters, filter.definite = filter :=
        List.map_inj_left
      simpa [filterList, h] using each
  have same (filters : Option (List Filter)) : { request with filters } = request ↔ filters = request.filters := by
    cases request
    simp
  simp only [Filter.definite_iff, received]
  cases refused : request.filterList.findSome? Filter.nullTerm? with
  | some field =>
    obtain ⟨filter, mem, null⟩ := List.exists_of_findSome?_eq_some refused
    simp only [reduceCtorEq, false_iff]
    intro all
    rw [(all filter mem).1] at null
    cases null
  | none =>
    simp only [Except.ok.injEq, same, unchanged]
    exact ⟨fun h filter mem => ⟨List.findSome?_eq_none_iff.1 refused filter mem, h filter mem⟩,
      fun h filter mem => (h filter mem).2⟩

/-- The values of a request that is read are canonical and not null. -/
theorem readable_of_read {written : Written} {request : SearchRequest} (h : read written = .ok request) :
    ∀ filter ∈ request.filterList, ∀ value ∈ filter.values, Filter.Readable value := by
  refine Written.readRecord_keeps (fun request : SearchRequest =>
    ∀ filter ∈ request.filterList, ∀ value ∈ filter.values, Filter.Readable value) ?_
    (by simp [filterList, empty]) h
  simp only [List.mem_cons, List.not_mem_nil, or_false, forall_eq_or_imp, forall_eq]
  refine ⟨?query, ?filters, ?sort, ?page, ?size⟩
  case filters =>
    refine Written.keeps_optional
      (fun filters : List Filter => ∀ filter ∈ filters, ∀ value ∈ filter.values, Filter.Readable value) ?_ ?_
    · intro written filters _ read filter mem
      obtain ⟨item, one⟩ := Written.exists_of_mem_readList read mem
      exact Filter.readable_of_read one
    · intro filters _ readable _ filter mem
      cases filters with
      | none => cases mem
      | some filters => exact readable filters rfl filter mem
  all_goals exact Written.keeps_optional_any fun _ _ kept => kept

end SearchRequest

/-! ## The builder -/

/-- A step in building a request. -/
inductive BuilderStep where
  /-- Starts over with a search for a text. -/
  | text (query : String)
  | withFilter (filter : Filter)
  | withSort (clause : SortClause)
  | withPage (page hitsPerPage : UInt64)

/-- The request after the step. -/
def BuilderStep.apply (request : SearchRequest) : BuilderStep → SearchRequest
  | text query => .text query
  | withFilter filter => request.withFilter filter
  | withSort clause => request.withSort clause
  | withPage page hitsPerPage => request.withPage page hitsPerPage

namespace SearchRequest

/-- The request that is built in some steps. -/
def build (steps : List BuilderStep) : SearchRequest := steps.foldl BuilderStep.apply empty

theorem mem_filterList_apply {request : SearchRequest} {step : BuilderStep} {filter : Filter}
    (h : filter ∈ (step.apply request).filterList) : filter ∈ request.filterList ∨ step = .withFilter filter := by
  cases step with
  | text query => simp [BuilderStep.apply, text, empty, filterList] at h
  | withFilter new =>
    rcases List.mem_append.1 h with old | new
    · exact .inl old
    · exact .inr (by rw [List.mem_singleton.1 new])
  | withSort clause => exact .inl h
  | withPage page hitsPerPage => exact .inl h

/-- The filters of a request come from its steps. -/
theorem mem_filterList_build {steps : List BuilderStep} {filter : Filter} (h : filter ∈ (build steps).filterList) :
    .withFilter filter ∈ steps := by
  suffices run : ∀ request : SearchRequest, filter ∈ (steps.foldl BuilderStep.apply request).filterList →
      filter ∈ request.filterList ∨ .withFilter filter ∈ steps from
    (run empty h).resolve_left (by simp [empty, filterList])
  clear h
  induction steps with
  | nil => exact fun request mem => .inl mem
  | cons step rest ih =>
    intro request mem
    rcases ih (step.apply request) mem with before | later
    · rcases mem_filterList_apply before with before | rfl
      · exact .inl before
      · exact .inr List.mem_cons_self
    · exact .inr (List.mem_cons_of_mem _ later)

/-- A request made by the builder arrives as `received` says, so it is restored exactly if no filter of it
holds null: the first filter on the term null is refused, and a bound that is null is lost. -/
theorem built_request_arrives (steps : List BuilderStep)
    (canonical : ∀ filter, .withFilter filter ∈ steps → filter.Canonical) :
    (build steps).toJson.readAs read = (build steps).received ∧
      ((build steps).toJson.readAs read = .ok (build steps) ↔
        ∀ filter ∈ (build steps).filterList, filter.Definite) := by
  have arrived := read_toJson fun filter mem => canonical filter (mem_filterList_build mem)
  exact ⟨arrived, arrived ▸ received_eq_ok_iff (build steps)⟩

/-- A search for a text with two filters, an order and a page is restored. -/
theorem built_search_is_restored :
    let steps : List BuilderStep := [.text "lamp", .withFilter (.term "color" (.str "red")),
      .withFilter (.range "price" (some (.ofNat 1)) none), .withSort ⟨"price", some .descending⟩, .withPage 2 20]
    (∀ filter, .withFilter filter ∈ steps → filter.Canonical) ∧
      (build steps).toJson.readAs read = .ok (build steps) := by
  intro steps
  have canonical : ∀ filter, .withFilter filter ∈ steps → filter.Canonical := by
    simp [steps, Filter.Canonical, Filter.values, Json.Canonical, Json.ofNat]
  refine ⟨canonical, (built_request_arrives steps canonical).2.2 ?_⟩
  have filters : (build steps).filterList = [.term "color" (.str "red"), .range "price" (some (.ofNat 1)) none] := rfl
  simp [filters, Filter.Definite, Filter.values, Json.isNull, Json.ofNat]

/-- The term null is written, and what is written is refused; a bound that is null is lost. -/
theorem null_does_not_arrive :
    (build [.withFilter (.term "color" .null)]).toJson =
        .obj [("filters", .arr [.obj [("field", .str "color"), ("term", .null)]])] ∧
      (build [.withFilter (.term "color" .null)]).toJson.readAs read =
        .error (.rule (.ambiguousFilter "color")) ∧
      (build [.withFilter (.range "price" (some .null) none)]).toJson.readAs read =
        .ok (build [.withFilter (.range "price" none none)]) := ⟨rfl, rfl, rfl⟩

end SearchRequest

end SearchTenancy

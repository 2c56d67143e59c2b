import Mathlib.Algebra.Order.Floor.Div
import SearchTenancy.Proofs.Tenant.Reads

/-!
# Pages of a search

The pages of a search are cut from one list, which does not depend on the page that is
asked for (`Paged.of_answers`). So the pages that have hits, one after the other, are all
that matches, each document once, and no page says anything else about the number of
matches or the facets (`Memory.pages_neither_lose_nor_repeat`).
-/

namespace SearchTenancy

open Operation

/-! ## Lists in pages -/

/-- The first pages of a list, one after the other. -/
theorem flatMap_pages {α : Type} (list : List α) (size count : Nat) :
    (List.range' 1 count).flatMap (fun page => (list.drop ((page - 1) * size)).take size) = list.take (count * size) := by
  induction count with
  | zero => simp
  | succ count ih =>
    rw [List.range'_concat, List.flatMap_append, ih, Nat.add_mul count 1 size, List.take_add]
    simp

theorem ceilDiv_le_iff {total size count : Nat} (nonempty : 0 < size) :
    total ⌈/⌉ size ≤ count ↔ total ≤ count * size := by
  rw [ceilDiv_le_iff_le_mul nonempty, Nat.mul_comm]

/-- In front of a page that has hits there are fewer hits than there are. -/
theorem lt_of_le_ceilDiv {total size page : Nat} (nonempty : 0 < size) (first : 1 ≤ page)
    (within : page ≤ total ⌈/⌉ size) : (page - 1) * size < total := by
  apply Nat.lt_of_not_le
  intro all
  have fewer : total ⌈/⌉ size ≤ page - 1 := (ceilDiv_le_iff nonempty).2 all
  omega

theorem toNat_pos {size : UInt64} (nonempty : size ≠ 0) : 0 < size.toNat := by
  apply Nat.pos_of_ne_zero
  intro zero
  exact nonempty (UInt64.toNat_inj.1 zero)

/-! ## Answers in pages -/

/-- A page that is not refused: pages are counted from one and are not empty, and the hits in front of it can be
counted with 64 bits. -/
structure Accepted (page size : UInt64) : Prop where
  counted : page ≠ 0
  nonempty : size ≠ 0
  offset : (page.toNat - 1) * size.toNat < UInt64.size

/-- The answers for a page and a page size are the pages of what matches. -/
structure Paged (ask : UInt64 → UInt64 → Except SearchError QueryResult) (matching : List (String × Members))
    (facets : List FacetResult) : Prop where
  each : ∀ page size, Accepted page size → ∃ result, ask page size = .ok result ∧ result.page = page ∧
    result.hitsPerPage = size ∧ result.total = matching.length.toUInt64 ∧ result.facets = facets
  /-- One after the other, the pages that have hits are the page of all hits. -/
  together : ∀ size, size ≠ 0 → ∀ whole : UInt64, whole.toNat = max matching.length 1 →
    ∃ pages all, ((List.range' 1 (matching.length ⌈/⌉ size.toNat)).mapM fun page => ask page.toUInt64 size) = .ok pages ∧
      ask 1 whole = .ok all ∧ all.hits = matching.map rendered ∧ pages.flatMap QueryResult.hits = all.hits
  beyond : ∀ page size, Accepted page size → matching.length ⌈/⌉ size.toNat < page.toNat →
    ∃ result, ask page size = .ok result ∧ result.hits = []

/-- A page of what matches. -/
def pageOf (matching : List (String × Members)) (facets : List FacetResult) (page size : UInt64) : QueryResult where
  hits := ((matching.drop ((page.toNat - 1) * size.toNat)).take size.toNat).map rendered
  total := matching.length.toUInt64
  page := page
  hitsPerPage := size
  facets := facets

/-- The pages that have hits are accepted, if the hits can be counted with 64 bits. -/
theorem accepted_of_le_ceilDiv {total page : Nat} {size : UInt64} (counted : total < UInt64.size) (nonempty : size ≠ 0)
    (first : 1 ≤ page) (within : page ≤ total ⌈/⌉ size.toNat) :
    page.toUInt64.toNat = page ∧ Accepted page.toUInt64 size := by
  have positive := toNat_pos nonempty
  have before := lt_of_le_ceilDiv positive first within
  have small : page - 1 ≤ (page - 1) * size.toNat := Nat.le_mul_of_pos_right _ positive
  have same : page.toUInt64.toNat = page := by
    have fits : page < UInt64.size := by omega
    simpa using Nat.mod_eq_of_lt fits
  refine ⟨same, ?_, nonempty, ?_⟩
  · intro zero
    rw [zero] at same
    simp at same
    omega
  · rw [same]
    omega

theorem Paged.of_answers {ask : UInt64 → UInt64 → Except SearchError QueryResult} {matching : List (String × Members)}
    {facets : List FacetResult}
    (answers : ∀ page size, Accepted page size → ask page size = .ok (pageOf matching facets page size)) :
    Paged ask matching facets where
  each page size accepted := ⟨_, answers page size accepted, rfl, rfl, rfl, rfl⟩
  together size nonempty whole all := by
    have counted : matching.length < UInt64.size := by
      have bound := whole.toNat_lt_size
      omega
    have pages : ∀ page ∈ List.range' 1 (matching.length ⌈/⌉ size.toNat),
        page.toUInt64.toNat = page ∧ Accepted page.toUInt64 size := by
      intro page mem
      obtain ⟨first, within⟩ := List.mem_range'_1.1 mem
      exact accepted_of_le_ceilDiv counted nonempty first (by omega)
    have one : Accepted 1 whole := by
      refine ⟨by decide, ?_, by simp [UInt64.size]⟩
      rintro rfl
      simp at all
      omega
    have everything : (pageOf matching facets 1 whole).hits = matching.map rendered := by
      have enough : matching.take whole.toNat = matching := List.take_of_length_le (by omega)
      simp [pageOf, enough]
    have cut : ∀ page ∈ List.range' 1 (matching.length ⌈/⌉ size.toNat), (pageOf matching facets page.toUInt64 size).hits =
        ((matching.map rendered).drop ((page - 1) * size.toNat)).take size.toNat := by
      intro page mem
      simp [pageOf, (pages page mem).1]
    refine ⟨_, _, mapM_ok fun page mem => answers _ _ (pages page mem).2, answers 1 whole one, everything, ?_⟩
    rw [everything, List.flatMap_map, List.flatMap_congr cut, flatMap_pages]
    apply List.take_of_length_le
    rw [List.length_map]
    exact (ceilDiv_le_iff (toNat_pos nonempty)).1 (Nat.le_refl _)
  beyond page size accepted later := by
    have none : matching.length ≤ (page.toNat - 1) * size.toNat :=
      (ceilDiv_le_iff (toNat_pos accepted.nonempty)).1 (by omega)
    refine ⟨_, answers page size accepted, ?_⟩
    simp [pageOf, List.drop_eq_nil_of_le none]

namespace SearchRequest

theorem valid_withPage (request : SearchRequest) {page size : UInt64} (accepted : Accepted page size)
    (config : ServiceConfig) : (request.withPage page size).Valid config where
  page := by simpa [withPage] using accepted.counted
  hitsPerPage := by simpa [withPage] using accepted.nonempty
  offset := accepted.offset

end SearchRequest

namespace TenantIndex

open Memory

variable {memory : Memory} (index : TenantIndex) {concrete : String} {content : StoredIndex} {schema : Schema}

/-- The selection and the facets do not depend on the page. -/
theorem answer_withPage (resolved : memory.resolve index.physical = some concrete)
    (found : memory.indices.get? concrete = some content) (described : Schema.Describes schema content.mappings)
    (plain : '*' ∉ index.physical.toList) (request : SearchRequest) {selected : List (String × Members)}
    (selects : content.selected? (CompiledQuery.query request (some (schema.mapping (some concrete)).searchableFields))
      (request.sort.getD []) = some selected) (now : Instant) {page size : UInt64} (accepted : Accepted page size) :
    memory.answer ⟨index, now, .query (request.withPage page size)⟩ =
      (index.facetsOf content (schema.mapping (some concrete)) selected).map (pageOf selected · page size) := by
  have valid := request.valid_withPage accepted index.config
  exact congrArg Prod.fst (index.runOn_query_eq resolved found described plain valid selects)

end TenantIndex

namespace Memory

/-- The pages of a search on an index with storage are one list, cut up, if the sort does not stop. The hits in front
of a page have to be counted with 64 bits, and nothing else makes a page fail that validates. If services disagree on
the sub-field, a facet may fail, on all pages alike. -/
theorem pages_neither_lose_nor_repeat {run : List Request} {index : TenantIndex} {concrete : String}
    (provisioned : (empty.after run).resolve index.physical = some concrete) (plain : '*' ∉ index.physical.toList)
    (now : Instant) (request : SearchRequest) :
    (∃ content settings, (empty.after run).indices.get? concrete = some content ∧
      (empty.after run).answer ⟨index, now, .getSettings⟩ = .ok settings ∧
      let matched := content.matching (CompiledQuery.query request settings.searchableFields)
      let ask (page size : UInt64) := (empty.after run).answer ⟨index, now, .query (request.withPage page size)⟩
      request.Sorts matched → ∃ matching : List (String × Members), matching.Perm matched ∧
        ((∃ facets, Paged ask matching facets) ∨
          ¬ SavedWith run index.config.keywordSubfield ∧
            ∃ failure, ∀ page size, Accepted page size → ask page size = .error failure)) ∧
    ∀ (config : ServiceConfig) (paged : SearchRequest) (page : UInt64) (settings : Option SettingsSpec)
      (mapping : Option IndexMapping), paged.page = some page → paged.validate = .ok () →
      let size := paged.size config
      if (page.toNat - 1) * size.toNat < UInt64.size then
        ∃ compiled start, CompiledQuery.compile config paged settings mapping = .ok compiled ∧
          compiled.body.get? "from" = some (.ofUInt64 start) ∧ start.toNat = (page.toNat - 1) * size.toNat ∧
          compiled.body.get? "size" = some (.ofUInt64 size)
      else CompiledQuery.compile config paged settings mapping = .error (.offsetOutOfRange page size) := by
  constructor
  · have sound := sound_empty.after run
    obtain ⟨content, found⟩ := sound.consistent.exists_content provisioned
    obtain ⟨schema, described, counted⟩ := exists_schema_after index found
    refine ⟨content, _, found, congrArg Prod.fst (index.runOn_getSettings provisioned found described), ?_⟩
    intro matched ask sorts
    obtain ⟨selected, selects⟩ := StoredIndex.exists_selected?_iff.2 sorts
    refine ⟨selected, StoredIndex.selected?_perm selects, ?_⟩
    have answers {page size : UInt64} (accepted : Accepted page size) :=
      index.answer_withPage provisioned found described plain request selects now accepted
    -- Whether the facets fail is the same for all pages.
    rcases counted selected with ⟨facets, counted⟩ | ⟨disagree, failure, refused⟩
    · refine .inl ⟨facets, .of_answers fun page size accepted => ?_⟩
      exact (answers accepted).trans (by rw [counted]; rfl)
    · refine .inr ⟨disagree, failure, fun page size accepted => ?_⟩
      exact (answers accepted).trans (by rw [refused]; rfl)
  · intro config paged page settings mapping asked validated size
    rw [CompiledQuery.compile_page asked validated]
    split
    · rename_i fits
      rw [CompiledQuery.offset_ok fits]
      refine ⟨_, _, rfl, CompiledQuery.from_bodyOf .., ?_, CompiledQuery.size_bodyOf ..⟩
      simpa using Nat.mod_eq_of_lt fits
    · rename_i beyond
      rw [CompiledQuery.offset_error beyond]
      rfl

/-- The two lamps of the shop, on pages. -/
theorem lamps_on_pages :
    ((empty.after shopRun).resolve (TenantIndex.physical ⟨.default, "acme", "shop"⟩) = some "acme_shop_1970.1.1.0" ∧
      '*' ∉ (TenantIndex.physical ⟨.default, "acme", "shop"⟩).toList) ∧
    ∃ matching facets, matching.length = 2 ∧
      Paged (fun page size => (empty.after shopRun).answer (.atEpoch "acme" "shop" (.query (lampSearch.withPage page size))))
        matching facets := by
  have provisioned : (empty.after shopRun).resolve (TenantIndex.physical ⟨.default, "acme", "shop"⟩) =
      some "acme_shop_1970.1.1.0" := by decide +kernel
  have plain : '*' ∉ (TenantIndex.physical ⟨.default, "acme", "shop"⟩).toList := by decide
  have service : ∀ request ∈ shopRun, request.index.config.keywordSubfield = "raw" := by decide
  have lamps : ((empty.after shopRun).indices.get? "acme_shop_1970.1.1.0").map (fun content =>
      (content.matching (CompiledQuery.query lampSearch (some ["title"]))).length) = some 2 := by decide +kernel
  have sortable : ((empty.after shopRun).indices.get? "acme_shop_1970.1.1.0").map (fun content =>
      decide (lampSearch.Sorts (content.matching (CompiledQuery.query lampSearch (some ["title"]))))) = some true := by
    decide +kernel
  have reported : (empty.after shopRun).answer (.atEpoch "acme" "shop" .getSettings) =
      .ok ⟨some ["title"], some [⟨"color", .count⟩]⟩ := by rfl
  obtain ⟨⟨content, settings, found, read, pages⟩, -⟩ :=
    pages_neither_lose_nor_repeat provisioned plain .epoch lampSearch
  cases reported.symm.trans read
  rw [found, Option.map_some, Option.some_inj] at lamps sortable
  obtain ⟨matching, perm, ⟨facets, paged⟩ | ⟨disagree, -⟩⟩ := pages (of_decide_eq_true sortable)
  · exact ⟨⟨provisioned, plain⟩, matching, facets, perm.length_eq.trans lamps, paged⟩
  · exact absurd (fun request mem _ _ => service request mem) disagree

/-- The cards in the order of their ranks. -/
def cardOrder : SearchRequest := ⟨none, none, some [⟨"rank", none⟩], none, none⟩

/-- There are no pages of the cards, on which the sort stops, and none of the posters, on which the facet fails. -/
theorem letter_and_subfield_take_pages_away :
    ((empty.after cardRun).resolve "acme_cards" = some "acme_cards_1970.1.1.0" ∧
      ¬ ∃ matching facets, Paged (fun page size =>
        (empty.after cardRun).answer (.atEpoch "acme" "cards" (.query (cardOrder.withPage page size)))) matching facets) ∧
    (empty.after posterRun).resolve "acme_posters" = some "acme_posters_1970.1.1.0" ∧
      ¬ ∃ matching facets, Paged (fun page size =>
        (empty.after posterRun).answer (.atEpoch "acme" "posters" (.query (SearchRequest.empty.withPage page size))))
        matching facets := by
  have first : Accepted 1 1 := ⟨by decide, by decide, by decide⟩
  have stopped : (empty.after cardRun).answer (.atEpoch "acme" "cards" (.query (cardOrder.withPage 1 1))) =
      .error (.unclassified StoredIndex.sortStopped) := by rfl
  have refused : (empty.after posterRun).answer (.atEpoch "acme" "posters" (.query (SearchRequest.empty.withPage 1 1))) =
      .error (.unclassified StoredIndex.textAggregation) := by rfl
  refine ⟨⟨by decide +kernel, ?_⟩, by decide +kernel, ?_⟩
  · rintro ⟨matching, facets, paged⟩
    obtain ⟨result, answered, -⟩ := paged.each 1 1 first
    cases stopped.symm.trans answered
  · rintro ⟨matching, facets, paged⟩
    obtain ⟨result, answered, -⟩ := paged.each 1 1 first
    cases refused.symm.trans answered

end Memory

end SearchTenancy

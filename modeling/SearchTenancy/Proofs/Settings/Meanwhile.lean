import SearchTenancy.Proofs.Settings.Concurrent
import SearchTenancy.Proofs.Tenant.Writers

/-!
# Documents written during a save

A save plans its update on the mapping that it has read, and documents that are written
before it puts the update map new fields, by the templates of before. The update does not
know of these fields (`Schema.SettlesLate`). One that an old template waited for stays
indexed, and one that none waited for stays switched off, whatever is requested.

The rest of what a save reads and puts is not affected (`SaveCourse`), so those fields make
up all of the difference (`save_among_writes`).
-/

namespace SearchTenancy

open Operation

namespace Schema

variable {seen current settled final : Schema} {requested : List String} {field : String}

/-! ## An update that documents have overtaken -/

/-- An update for searchable fields was planned on `seen`, and put on `current`. -/
structure SettlesLate (requested : List String) (seen current settled : Schema) : Prop where
  declared : settled.declared = requested
  waiting : settled.waiting = requested.filter fun field => seen.flag? field ≠ some true
  fields : ∀ field, mapped? settled.properties field =
    (mapped? current.properties field).map (FieldMapping.switched (seen.switch? requested field))

theorem SettlesLate.flags (late : SettlesLate requested seen current settled) (grows : Grows seen current)
    (field : String) : settled.flag? field = (seen.switch? requested field).or (current.flag? field) :=
  flag?_switched (fun _ known => grows.mapped?_eq known) late.fields field

/-- The update maps no further field. -/
theorem SettlesLate.get?_eq_none (late : SettlesLate requested seen current settled) :
    settled.properties.get? field = none ↔ current.properties.get? field = none := by
  rw [← mapped?_eq_none, ← mapped?_eq_none, late.fields, Option.map_eq_none_iff]

theorem SettlesLate.mem_waiting (late : SettlesLate requested seen current settled) :
    field ∈ settled.waiting ↔ field ∈ requested ∧ seen.flag? field ≠ some true := by
  rw [late.waiting]
  simp

theorem SettlesLate.plain (late : SettlesLate requested seen current settled) (named : "*" ∉ requested) :
    "*" ∉ settled.waiting := by
  intro waited
  exact named (late.mem_waiting.1 waited).1

/-- The requested fields are searchable. -/
theorem SettlesLate.lists_requested (late : SettlesLate requested seen current settled) (grows : Grows seen current)
    (named : "*" ∉ requested) (wanted : field ∈ requested) : settled.Lists field := by
  have name : field ≠ "*" := by
    rintro rfl
    exact named wanted
  by_cases indexed : seen.flag? field = some true
  · -- It is indexed already, and no document can change that.
    left
    cases mapped : seen.properties.get? field with
    | none => simp [flag?, mapped] at indexed
    | some parameters =>
      rw [late.flags grows, grows.flag?_of_mapped mapped, indexed]
      simp [switch?, wanted, indexed]
  · right
    exact ⟨late.mem_waiting.2 ⟨wanted, indexed⟩, name⟩

/-- A template has made the field searchable, and it was mapped before the update was put. -/
def Overtaken (seen current : Schema) (field : String) : Prop :=
  seen.Lists field ∧ seen.properties.get? field = none ∧ (current.properties.get? field).isSome

/-- A field that was not requested is searchable if it was overtaken. -/
theorem SettlesLate.lists_iff_overtaken (late : SettlesLate requested seen current settled)
    (grows : Grows seen current) (plain : "*" ∉ seen.waiting) (unwanted : field ∉ requested) :
    settled.Lists field ↔ Overtaken seen current field := by
  have unwaited : field ∉ settled.waiting := fun waited => unwanted (late.mem_waiting.1 waited).1
  have lists : settled.Lists field ↔ settled.flag? field = some true := by
    simp [Lists, unwaited]
  rw [lists, late.flags grows, Overtaken]
  cases mapped : seen.properties.get? field with
  | some parameters =>
    -- A field that was known is switched off if it was searchable.
    rw [grows.flag?_of_mapped mapped]
    by_cases listed : seen.Lists field
    · simp [switch?, listed, unwanted, mapped]
    · have unindexed : seen.flag? field ≠ some true := fun indexed => listed (.inl indexed)
      simp [switch?, listed, unwanted, unindexed]
  | none =>
    -- A field that was not known is indexed if it was waited for.
    have unswitched : seen.switch? requested field = none := by simp [switch?, unwanted, mapped]
    have unmarked : seen.flag? field = none := by simp [flag?, mapped]
    have listed : seen.Lists field ↔ field ∈ seen.waiting := by
      simp only [Lists, unmarked, reduceCtorEq, false_or, and_iff_left_iff_imp]
      rintro waited rfl
      exact plain waited
    rw [unswitched, Option.none_or, listed]
    cases there : current.properties.get? field with
    | none => simp [flag?, there]
    | some parameters =>
      have fresh := grows.fresh field mapped (by simp [there])
      rw [fresh]
      simp [plain]

/-- A requested field is switched off in the end exactly if a document mapped it so too late for the plan. -/
theorem SettlesLate.disabled_iff (late : SettlesLate requested seen current settled) (grows : Grows seen current)
    (named : "*" ∉ requested) (grown : Grows settled final) (wanted : field ∈ requested) :
    final.flag? field = some false ↔ seen.properties.get? field = none ∧ current.flag? field = some false := by
  have flag := late.flags grows field
  cases mapped : seen.properties.get? field with
  | some parameters =>
    obtain ⟨parameters', there⟩ : ∃ parameters', settled.properties.get? field = some parameters' := by
      rw [← Option.ne_none_iff_exists']
      intro missing
      have gone := late.get?_eq_none.1 missing
      rw [grows.kept field parameters mapped] at gone
      cases gone
    rw [grown.flag?_of_mapped there, flag, grows.flag?_of_mapped mapped]
    rcases indexed : seen.flag? field with _ | _ | _ <;> simp [switch?, wanted, indexed]
  | none =>
    have unmarked : seen.flag? field = none := by simp [flag?, mapped]
    have unswitched : seen.switch? requested field = none := by simp [switch?, wanted, unmarked]
    rw [unswitched, Option.none_or] at flag
    simp only [true_and]
    cases there : settled.properties.get? field with
    | some parameters => rw [grown.flag?_of_mapped there, flag]
    | none =>
      -- It is still to be mapped, and by a template of its own.
      have unknown : current.flag? field = none := by simp [flag?, late.get?_eq_none.1 there]
      have waited : field ∈ settled.waiting := late.mem_waiting.2 ⟨wanted, by simp [unmarked]⟩
      rw [unknown]
      rcases grown.flag?_of_unmapped (late.plain named) there with still | switched
      · simp [flag?, still]
      · simp [switched.2 waited]

end Schema

/-- The mapping `left` tells of a save that requests fields. The save has read `seen`, and has put its update on
`current`. A field that was only mapped in between is left out by the update: it stays searchable if it was, and
switched off if it was mapped so. -/
structure IndexMapping.SavedOver (requested : List String) (seen current left : IndexMapping) : Prop where
  fields : ∃ others : List String, left.searchableFields = requested.eraseDups ++ others ∧ others.Pairwise (· < ·) ∧
    ∀ field, field ∈ others ↔ field ∉ requested ∧ field ∈ seen.searchableFields ∧ seen.field? field = none ∧
      (current.field? field).isSome
  disabled : ∀ field ∈ requested, (left.field? field).any FieldMapping.isDisabled ↔
    seen.field? field = none ∧ (current.field? field).any FieldMapping.isDisabled

/-- A late update, and documents after it, in terms of what is read of the mapping. -/
theorem Schema.SettlesLate.savedOver {requested : List String} {seen current settled final : Schema}
    (late : SettlesLate requested seen current settled) (grows : Grows seen current) (plain : "*" ∉ seen.waiting)
    (named : "*" ∉ requested) (grown : Grows settled final) (indexName : Option String) :
    IndexMapping.SavedOver requested (seen.mapping indexName) (current.mapping indexName)
      (final.mapping indexName) where
  fields := by
    have searchable (field : String) :
        field ∈ (final.mapping indexName).searchableFields ↔ settled.Lists field := by
      rw [mem_searchableFields, grown.lists_iff (late.plain named)]
    have declared : (final.mapping indexName).declaredSearchable = requested := grown.declared.trans late.declared
    obtain ⟨others, listed, ordered, mem_others⟩ :=
      IndexMapping.searchableFields_eq_append (@sorted_mapping final indexName) (by
        rw [declared]
        exact fun field wanted => (searchable field).2 (late.lists_requested grows named wanted))
    rw [declared] at listed
    refine ⟨others, listed, ordered, fun field => ?_⟩
    rw [mem_others, searchable, declared, and_comm, mem_searchableFields, field?_mapping, field?_mapping,
      mapped?_eq_none, mapped?, Option.isSome_map]
    exact and_congr_right fun unwanted => late.lists_iff_overtaken grows plain unwanted
  disabled field wanted := by
    rw [any_isDisabled, any_isDisabled, field?_mapping, mapped?_eq_none]
    exact late.disabled_iff grows named grown wanted

/-! ## A save among other requests -/

namespace Memory

variable {memory after : Memory} {physical concrete subfield : String} {schema seen : Schema}

theorem Holds.readMapping (holds : memory.Holds physical concrete schema) :
    (runOn step (SearchTenancy.readMapping physical) memory).1 = .ok (schema.mapping (some concrete)) := by
  obtain ⟨content, there, described⟩ := holds.described
  rw [TenantIndex.runOn_readMapping holds.resolved there described]

/-- Storage that is there stays, and its schema grows. -/
theorem Holds.grows (holds : memory.Holds physical concrete schema) (grows : Grows memory after)
    (consistent : after.Consistent) :
    ∃ grown, after.Holds physical concrete grown ∧ Schema.Grows schema grown := by
  obtain ⟨behind, found⟩ := Option.isSome_iff_exists.1 holds.there
  obtain ⟨content, there, described⟩ := holds.described
  obtain ⟨content', there', growth⟩ := grows.content concrete content there
  obtain ⟨grown, described', grew⟩ := growth schema described
  refine ⟨grown, ⟨consistent, ?_, grows.resolve found holds.resolved, content', there', described'⟩, grew⟩
  rw [grows.aliases physical behind found]
  rfl

/-- An update for searchable fields is put on a mapping that has grown since it was planned. -/
theorem Holds.put_late (holds : memory.Holds physical concrete schema) (grows : Schema.Grows seen schema)
    {spec : SettingsSpec} {requested : List String} (given : spec.searchableFields = some requested)
    {update : MappingUpdate} {members : Members}
    (planned : MappingUpdate.plan spec (seen.mapping (some concrete)) subfield = some update)
    (body : update.body = .obj members) :
    ∃ settled, (memory.modify concrete (·.putMapping members)).Holds physical concrete settled ∧
      Schema.SettlesLate requested seen schema settled := by
  obtain ⟨searchable, facets⟩ := spec
  cases given
  refine holds.put fun mappings described => ?_
  obtain ⟨members', settled, body', described', declared, -, templates, fields⟩ :=
    described.forFields (fun _ known => grows.mapped?_eq known) requested (facets.getD seen.facets) (some concrete)
      subfield
  cases planned
  cases Json.obj.inj (body.symm.trans body')
  refine ⟨settled, described', declared, ?_, fields⟩
  rw [Schema.waiting, templates]
  rfl

end Memory

/-- A request and the ones that are made at the same time. -/
def Request.among {κ : Type} (request : Request) (others : κ → Request) : Option κ → Request
  | none => request
  | some k => others k

open Memory

section

variable {κ : Type} {start memory : Memory} {physical concrete : String} {requested : List String}
  {stage : Stage} {schema : Schema} {past : List (Option κ × Call)}

/-- What a save for searchable fields has read and put so far, among other calls. Those of the save are marked with
`none`. -/
inductive SaveCourse (start : Memory) (physical concrete : String) (requested : List String) :
    Stage → Schema → List (Option κ × Call) → Prop where
  | unread {stage : Stage} {schema : Schema} {past : List (Option κ × Call)} (soon : stage = .begun ∨ stage = .found)
      (plain : "*" ∉ schema.waiting) : SaveCourse start physical concrete requested stage schema past
  | read {seen schema : Schema} {early between : List (Option κ × Call)}
      (had : (Backend.after step start (early.map Prod.snd)).Holds physical concrete seen)
      (plain : "*" ∉ seen.waiting) (grows : Schema.Grows seen schema) :
      SaveCourse start physical concrete requested (.planned seen) schema
        (early ++ (none, .mappingGet physical) :: between)
  | put {seen current settled schema : Schema} {early between late : List (Option κ × Call)} {update : Json}
      (had : (Backend.after step start (early.map Prod.snd)).Holds physical concrete seen)
      (plain : "*" ∉ seen.waiting) (grows : Schema.Grows seen current)
      (has : (Backend.after step start ((early ++ (none, .mappingGet physical) :: between).map Prod.snd)).Holds
        physical concrete current)
      (settles : Schema.SettlesLate requested seen current settled) (grown : Schema.Grows settled schema) :
      SaveCourse start physical concrete requested .saved schema
        (early ++ (none, .mappingGet physical) :: (between ++ (none, .mappingPut physical update) :: late))

namespace SaveCourse

/-- Other requests let the schema grow. -/
theorem grows (course : SaveCourse start physical concrete requested stage schema past) {grown : Schema}
    (growth : Schema.Grows schema grown) (call : Option κ × Call) :
    SaveCourse start physical concrete requested stage grown (past ++ [call]) := by
  cases course with
  | unread soon plain =>
    rw [← growth.waiting] at plain
    exact .unread soon plain
  | read had plain grows =>
    rw [List.append_assoc]
    exact .read had plain (grows.trans growth)
  | put had plain grows has settles grown =>
    rw [List.append_assoc, List.cons_append, List.append_assoc]
    exact .put had plain grows has settles (grown.trans growth)

/-- A call of the save takes it one stage further. -/
theorem moves {index : TenantIndex} {spec : SettingsSpec} (given : spec.searchableFields = some requested)
    {stage' : Stage} {c : Call} {memory' : Memory}
    (course : SaveCourse start index.physical concrete requested stage schema past)
    (holds : memory.Holds index.physical concrete schema)
    (reached : memory = Backend.after step start (past.map Prod.snd))
    (moves : Stage.Moves index spec concrete memory schema stage c stage' memory') :
    ∃ schema', memory'.Holds index.physical concrete schema' ∧
      SaveCourse start index.physical concrete requested stage' schema' (past ++ [(none, c)]) := by
  cases moves with
  | find =>
    cases course with
    | unread _ plain => exact ⟨schema, holds, .unread (.inr rfl) plain⟩
  | read =>
    cases course with
    | unread _ plain => exact ⟨schema, holds, .read (reached ▸ holds) plain (.refl schema)⟩
  | put planned body =>
    cases course with
    | unread soon _ => rcases soon with is | is <;> cases is
    | read had plain grows =>
      obtain ⟨settled, holds', settles⟩ := holds.put_late grows given planned body
      refine ⟨settled, holds', ?_⟩
      rw [List.append_assoc, List.cons_append]
      exact .put had plain grows (reached ▸ holds) settles (.refl settled)

end SaveCourse

end

namespace Memory

section

variable {κ : Type} [DecidableEq κ] {start memory final : Memory} {index : TenantIndex} {now : Instant}
  {concrete : String} {spec : SettingsSpec} {requested : List String} {others : κ → Request}
  {log past : List (Option κ × Call)}

/-- The save is on its course, and what is left of the other requests is about documents. -/
def OnCourse (start : Memory) (index : TenantIndex) (now : Instant) (concrete : String) (spec : SettingsSpec)
    (requested : List String) (others : κ → Request)
    (programs : (i : Option κ) → Program (Except SearchError
      (Request.among ⟨index, now, .saveSettings spec⟩ others i).act.Answer))
    (memory : Memory) (past : List (Option κ × Call)) : Prop :=
  memory = Backend.after step start (past.map Prod.snd) ∧
    (∀ k, (programs (some k)).CallsDocuments index.physical) ∧
    ∃ stage schema, programs none = stage.program index now spec concrete ∧
      memory.Holds index.physical concrete schema ∧
      SaveCourse start index.physical concrete requested stage schema past

/-- Every turn keeps the save on its course. -/
theorem OnCourse.turn (given : spec.searchableFields = some requested)
    {programs : (i : Option κ) → Program (Except SearchError
      (Request.among ⟨index, now, .saveSettings spec⟩ others i).act.Answer)}
    (h : OnCourse start index now concrete spec requested others programs memory past) {i : Option κ} {c : Call}
    {next : Reply c → Program _} (calls : programs i = .call c next) :
    OnCourse start index now concrete spec requested others
      (Function.update programs i (next (step memory c).1)) (step memory c).2 (past ++ [(i, c)]) := by
  obtain ⟨reached, documents, stage, schema, saves, holds, course⟩ := h
  have reached' : (step memory c).2 = Backend.after step start ((past ++ [(i, c)]).map Prod.snd) := by
    rw [List.map_append, List.map_singleton, Backend.after_concat, ← reached]
  refine ⟨reached', ?_⟩
  cases i with
  | none =>
    obtain ⟨stage', moves, left⟩ := Stage.moves_of_call holds (.inl (by simp [given])) (saves.symm.trans calls)
    obtain ⟨schema', holds', course'⟩ := course.moves given holds reached moves
    refine ⟨fun k => ?_, stage', schema', ?_, holds', course'⟩
    · rw [Function.update_of_ne (by simp)]
      exact documents k
    · rw [Function.update_self]
      exact left
  | some k =>
    have about := documents k
    rw [calls] at about
    obtain ⟨grown, holds', growth⟩ := holds.grows (memory.step_grows about.1) (holds.consistent.step c)
    refine ⟨fun k' => ?_, stage, grown, ?_, holds', course.grows growth (some k, c)⟩
    · by_cases same : k' = k
      · subst same
        rw [Function.update_self]
        exact about.2 _ (not_absent holds.consistent holds.there c)
      · rw [Function.update_of_ne (by simpa using same)]
        exact documents k'
    · rw [Function.update_of_ne (by simp)]
      exact saves

/-- A save for searchable fields among requests about documents on the same index succeeds. What is reported in the
end are the requested fields, each once and in their order. Only fields that were mapped between the reading of the
mapping and the update make a difference: those that were searchable stay so, and those that were switched off are
so still. -/
theorem save_among_writes {run : List Request} (plain : ∀ request ∈ run, ¬ request.act.Declares "*")
    (provisioned : ((empty.after run).aliases.get? index.physical).isSome)
    (given : spec.searchableFields = some requested) (named : "*" ∉ requested)
    (same : ∀ k, (others k).index.physical = index.physical)
    (documents : ∀ k, (others k).act.isAdministrative = false)
    {results : (i : Option κ) → Except SearchError
      (Request.among ⟨index, now, .saveSettings spec⟩ others i).act.Answer}
    (interleaved : Program.Interleaved step
      (fun i => (Request.among ⟨index, now, .saveSettings spec⟩ others i).operation.run)
      (empty.after run) log results final) :
    results none = .ok spec ∧ ∃ early between late update seen current left,
      log = early ++ (none, .mappingGet index.physical) ::
        (between ++ (none, .mappingPut index.physical update) :: late) ∧
      (runOn step (readMapping index.physical)
        (Backend.after step (empty.after run) (early.map Prod.snd))).1 = .ok seen ∧
      (runOn step (readMapping index.physical) (Backend.after step (empty.after run)
        ((early ++ (none, .mappingGet index.physical) :: between).map Prod.snd))).1 = .ok current ∧
      (runOn step (readMapping index.physical) final).1 = .ok left ∧
      final.answer ⟨index, now, .getSettings⟩ = .ok left.settings ∧
      IndexMapping.SavedOver requested seen current left := by
  have sound := sound_empty.after run
  obtain ⟨behind, found⟩ := Option.isSome_iff_exists.1 provisioned
  obtain ⟨concrete, resolved⟩ := sound.consistent.exists_resolve found
  obtain ⟨content, there⟩ := sound.consistent.exists_content resolved
  obtain ⟨before, described, tidy⟩ := tidy_after plain concrete content there
  have starts : OnCourse (empty.after run) index now concrete spec requested others
      (fun i => (Request.among ⟨index, now, .saveSettings spec⟩ others i).operation.run)
      (empty.after run) [] := by
    refine ⟨rfl, fun k => ?_, .begun, before, rfl, ?_, .unread (.inl rfl) tidy.plain⟩
    · rw [← same k]
      exact Request.calls_documents (documents k)
    · exact ⟨sound.consistent, provisioned, resolved, content, there, described⟩
  obtain ⟨-, -, stage, schema, ends, holds, course⟩ :=
    interleaved.keeps (OnCourse (empty.after run) index now concrete spec requested others)
      (fun _ _ _ _ _ _ calls h => h.turn given calls) starts
  obtain ⟨rfl, succeeded⟩ := Stage.saved_of_done holds (.inl (by simp [given])) ends.symm
  refine ⟨succeeded, ?_⟩
  rw [List.nil_append] at course
  cases course with
  | unread soon _ => rcases soon with is | is <;> cases is
  | put had plain grows has settles grown =>
    refine ⟨_, _, _, _, _, _, _, rfl, had.readMapping, has.readMapping, holds.readMapping, ?_, ?_⟩
    · obtain ⟨content', there', described'⟩ := holds.described
      exact congrArg Prod.fst (index.runOn_getSettings holds.resolved there' described')
    · exact settles.savedOver grows plain named grown (some concrete)

end

/-- An index whose titles are searchable. -/
def titledRun : List Request := [.atEpoch "acme" "products" (.saveSettings ⟨some ["title"], none⟩)]

/-- A save that asks for the material instead of the title, and a lamp that is stored at the same time. -/
def saveAndLamp : Option Unit → Request :=
  Request.among (.atEpoch "acme" "products" (.saveSettings ⟨some ["material"], none⟩)) fun _ =>
    .atEpoch "acme" "products" (.put (some "1") (.obj [("material", .str "Oak"), ("title", .str "Lamp")]))

/-- What they are answered with. -/
def savedAndStored : (i : Option Unit) → Except SearchError (saveAndLamp i).act.Answer
  | none => .ok ⟨some ["material"], none⟩
  | some () => .ok ⟨"1", [("material", .str "Oak"), ("title", .str "Lamp")]⟩

/-- The lamp may be stored after the save has read the mapping, and before it puts its update. -/
theorem lamp_in_between : ∃ log final,
    Program.Interleaved step (fun i => (saveAndLamp i).operation.run) (empty.after titledRun) log savedAndStored final ∧
      log.map Prod.fst = [none, none, some (), some (), none] ∧
      final.answer (.atEpoch "acme" "products" .getSettings) = .ok ⟨some ["material", "title"], none⟩ ∧
      ∃ mapping, (runOn step (readMapping "acme_products") final).1 = .ok mapping ∧
        (mapping.field? "material").any FieldMapping.isDisabled := by
  refine ⟨_, _, .turn none rfl (.turn none rfl (.turn (some ()) rfl (.turn (some ()) rfl (.turn none rfl
    (.done _ ?_))))), rfl, ?_, _, rfl, ?_⟩
  · rintro (_ | _)
    · rfl
    · rfl
  · rfl
  · rfl

/-- A title that is still reported was mapped while the save was under way. -/
theorem title_was_mapped_meanwhile : ∃ log final early between late update seen current,
    Program.Interleaved step (fun i => (saveAndLamp i).operation.run) (empty.after titledRun) log savedAndStored final ∧
      log = early ++ (none, .mappingGet "acme_products") ::
        (between ++ (none, .mappingPut "acme_products" update) :: late) ∧
      (runOn step (readMapping "acme_products")
        (Backend.after step (empty.after titledRun) (early.map Prod.snd))).1 = .ok seen ∧
      (runOn step (readMapping "acme_products") (Backend.after step (empty.after titledRun)
        ((early ++ (none, .mappingGet "acme_products") :: between).map Prod.snd))).1 = .ok current ∧
      final.answer (.atEpoch "acme" "products" .getSettings) = .ok ⟨some ["material", "title"], none⟩ ∧
      seen.field? "title" = none ∧ (current.field? "title").isSome := by
  have plain : ∀ request ∈ titledRun, ¬ request.act.Declares "*" := by
    intro request mem
    rw [List.mem_singleton.1 mem]
    rintro ⟨requested, given, wanted⟩
    cases given
    simp at wanted
  have provisioned : ((empty.after titledRun).aliases.get?
      (TenantIndex.physical ⟨.default, "acme", "products"⟩)).isSome := by rfl
  obtain ⟨log, final, interleaved, -, reported, -⟩ := lamp_in_between
  obtain ⟨-, early, between, late, update, seen, current, left, shape, had, has, -, settings, saved⟩ :=
    save_among_writes plain provisioned rfl (by decide : "*" ∉ ["material"]) (fun _ => rfl) (fun _ => rfl) interleaved
  refine ⟨log, final, early, between, late, update, seen, current, interleaved, shape, had, has, reported, ?_⟩
  have listed : left.searchableFields = ["material", "title"] :=
    Option.some.inj (congrArg SettingsSpec.searchableFields (Except.ok.inj (settings.symm.trans reported)))
  obtain ⟨others, fields, -, mem_others⟩ := saved.fields
  have once : ["material"].eraseDups = ["material"] := by decide
  rw [listed, once, List.singleton_append, List.cons.injEq] at fields
  obtain ⟨-, rfl⟩ := fields
  exact ((mem_others "title").1 List.mem_cons_self).2.2

/-- Both succeed, but the title is reported although it was not requested, and the material is switched off although
it was. -/
theorem lamp_overtakes_save : ∃ log results final,
    Program.Interleaved step (fun i => (saveAndLamp i).operation.run) (empty.after titledRun) log results final ∧
      (∀ i, ∃ answer, results i = .ok answer) ∧
      final.answer (.atEpoch "acme" "products" .getSettings) = .ok ⟨some ["material", "title"], none⟩ ∧
      ∃ mapping, (runOn step (readMapping "acme_products") final).1 = .ok mapping ∧
        (mapping.field? "material").any FieldMapping.isDisabled := by
  obtain ⟨log, final, interleaved, -, reported, disabled⟩ := lamp_in_between
  refine ⟨log, savedAndStored, final, interleaved, ?_, reported, disabled⟩
  rintro (_ | _)
  · exact ⟨_, rfl⟩
  · exact ⟨_, rfl⟩

end Memory

end SearchTenancy

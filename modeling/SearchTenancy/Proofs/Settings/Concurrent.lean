import SearchTenancy.Proofs.Interleaving
import SearchTenancy.Proofs.Settings.RoundTrip

/-!
# Two saves at the same time

A save reads the mapping, plans an update, and puts it. Nothing keeps another save from
putting its update in between. The record of the declared order and the facets is then
the one that the later put brings, and what it says for the other save is what was read
before (`Schema.Describes.plan_late`).

Here one save declares fields and the other one facets. The stages of each are followed
through all orders in which the calls can be made (`Stage.Moves`, `Joint`): one save is
the first to put its update, and all depends on whether the other one has read the
mapping by then (`Stage.Late`). `concurrent_saves` tells what is reported in the end.
-/

namespace SearchTenancy

open Operation

/-- How far a save has come. A planned save has seen a schema. -/
inductive Stage where
  | begun
  | found
  | planned (seen : Schema)
  | saved

namespace TenantIndex

/-- The part of a save that comes after its reading of the mapping. -/
def putSettings (index : TenantIndex) (spec : SettingsSpec) (current : IndexMapping) : Operation SettingsSpec :=
  match MappingUpdate.plan spec current index.config.keywordSubfield with
  | none => return spec
  | some update => do
    index.call (.mappingPut index.physical update.body) none
    return spec

end TenantIndex

/-- What is left to do of a save. -/
def Stage.program (index : TenantIndex) (now : Instant) (spec : SettingsSpec) (concrete : String) :
    Stage → Program (Except SearchError SettingsSpec)
  | begun => (index.saveSettings now spec).run
  | found => ExceptT.run (do index.putSettings spec (← readMapping index.physical))
  | planned seen => (index.putSettings spec (seen.mapping (some concrete))).run
  | saved => .done (.ok spec)

namespace Memory

/-- There is storage for `physical`, and the schema describes its mapping. -/
structure Holds (memory : Memory) (physical concrete : String) (schema : Schema) : Prop where
  consistent : memory.Consistent
  there : (memory.aliases.get? physical).isSome
  resolved : memory.resolve physical = some concrete
  described : ∃ content, memory.indices.get? concrete = some content ∧ Schema.Describes schema content.mappings

theorem Holds.put {memory : Memory} {physical concrete : String} {schema : Schema} {members : Members}
    {good : Schema → Prop} (holds : memory.Holds physical concrete schema)
    (applied : ∀ mappings, Schema.Describes schema mappings →
      ∃ settled, Schema.Describes settled (members.foldl StoredIndex.applyUpdate mappings) ∧ good settled) :
    ∃ settled, (memory.modify concrete (·.putMapping members)).Holds physical concrete settled ∧ good settled := by
  obtain ⟨content, found, described⟩ := holds.described
  obtain ⟨settled, described', fine⟩ := applied _ described
  have inside := ChangesOnly.modify memory concrete (·.putMapping members)
  refine ⟨settled, ⟨inside.consistent holds.consistent, inside.aliases ▸ holds.there,
    (inside.resolve physical).trans holds.resolved, content.putMapping members, ?_, described'⟩, fine⟩
  simp [modify, found]

end Memory

namespace Stage

open Memory

/-- One call of a save, made in a state whose mapping is described by `schema`. -/
inductive Moves (index : TenantIndex) (spec : SettingsSpec) (concrete : String) (memory : Memory)
    (schema : Schema) : Stage → Call → Stage → Memory → Prop where
  | find : Moves index spec concrete memory schema .begun (.aliasGet index.physical) .found memory
  | read : Moves index spec concrete memory schema .found (.mappingGet index.physical) (.planned schema) memory
  | put {seen : Schema} {update : MappingUpdate} {members : Members}
      (planned : MappingUpdate.plan spec (seen.mapping (some concrete)) index.config.keywordSubfield = some update)
      (body : update.body = .obj members) :
      Moves index spec concrete memory schema (.planned seen) (.mappingPut index.physical update.body) .saved
        (memory.modify concrete (·.putMapping members))

variable {index : TenantIndex} {now : Instant} {spec : SettingsSpec} {memory : Memory} {concrete : String}
  {schema : Schema}

theorem lookup_asks (holds : memory.Holds index.physical concrete schema) :
    ∃ generations, (Lifecycle.lookup index.physical).run.Asks step memory (.aliasGet index.physical)
      (.done (.ok (some generations))) := by
  obtain ⟨behind, stands⟩ := Option.isSome_iff_exists.1 holds.there
  have asks := Memory.lookup_asks memory index.physical
  rw [generations_of_found stands, holds.consistent.keys_isEmpty stands] at asks
  exact ⟨behind.keys, asks⟩

/-- A save asks for the alias first. -/
theorem begun_asks (now : Instant) (spec : SettingsSpec) (holds : memory.Holds index.physical concrete schema) :
    (begun.program index now spec concrete).Asks step memory (.aliasGet index.physical)
      (found.program index now spec concrete) := by
  obtain ⟨generations, asks⟩ := lookup_asks holds
  exact (asks.bind _).bind _

/-- With storage behind the alias, it reads the mapping. -/
theorem found_asks (now : Instant) (spec : SettingsSpec) (holds : memory.Holds index.physical concrete schema) :
    (found.program index now spec concrete).Asks step memory (.mappingGet index.physical)
      ((planned schema).program index now spec concrete) := by
  obtain ⟨content, there, described⟩ := holds.described
  have answer : (step memory (.mappingGet index.physical)).1 =
      .ok (.obj [(concrete, .obj [("mappings", .obj content.mappings)])]) :=
    mappingGet_eq holds.resolved there
  have asks : (readMapping index.physical).run.Asks step memory (.mappingGet index.physical)
      (.done (.ok (schema.mapping (some concrete)))) := by
    refine ⟨_, rfl, ?_⟩
    rw [answer]
    show Program.done ((IndexMapping.ofResponse _).mapError SearchError.unreadable) = _
    rw [described.ofResponse]
    rfl
  exact asks.bind _

/-- With a mapping at hand, it puts the update. -/
theorem planned_asks (now : Instant) (holds : memory.Holds index.physical concrete schema) {seen : Schema}
    {update : MappingUpdate} {members : Members}
    (plan : MappingUpdate.plan spec (seen.mapping (some concrete)) index.config.keywordSubfield = some update)
    (body : update.body = .obj members) :
    ((planned seen).program index now spec concrete).Asks step memory (.mappingPut index.physical update.body)
        (saved.program index now spec concrete) ∧
      (step memory (.mappingPut index.physical update.body)).2 = memory.modify concrete (·.putMapping members) := by
  obtain ⟨content, there, -⟩ := holds.described
  have put : step memory (.mappingPut index.physical update.body) =
      (.ok (), memory.modify concrete (·.putMapping members)) := by
    simp [step, mappingPut, resolveOrMissing, holds.resolved, Dict.contains_eq, there, body, Json.asObject?]
  refine ⟨?_, congrArg Prod.snd put⟩
  show (index.putSettings spec (seen.mapping (some concrete))).run.Asks _ _ _ _
  unfold TenantIndex.putSettings
  rw [plan]
  refine ⟨_, rfl, ?_⟩
  rw [put]
  rfl

theorem exists_plan (given : spec.searchableFields.isSome ∨ spec.facets.isSome) (current : IndexMapping)
    (subfield : String) :
    ∃ update members, MappingUpdate.plan spec current subfield = some update ∧ update.body = .obj members := by
  have some : ∃ update, MappingUpdate.plan spec current subfield = .some update := by
    obtain ⟨searchable, facets⟩ := spec
    cases searchable with
    | some requested => exact ⟨_, rfl⟩
    | none =>
      cases facets with
      | some facets => exact ⟨_, rfl⟩
      | none => simp at given
  obtain ⟨update, planned⟩ := some
  obtain ⟨record, rest, body⟩ := Schema.plan_body planned
  exact ⟨update, _, planned, body⟩

/-- Every call of a save takes it to its next stage. -/
theorem moves_of_call (holds : memory.Holds index.physical concrete schema)
    (given : spec.searchableFields.isSome ∨ spec.facets.isSome) {stage : Stage} {c : Call}
    {next : Reply c → Program (Except SearchError SettingsSpec)}
    (calls : stage.program index now spec concrete = .call c next) :
    ∃ stage', Moves index spec concrete memory schema stage c stage' (step memory c).2 ∧
      next (step memory c).1 = stage'.program index now spec concrete := by
  have goes {asked : Call} {stage' : Stage}
      (asks : (stage.program index now spec concrete).Asks step memory asked (stage'.program index now spec concrete))
      (moves : Moves index spec concrete memory schema stage asked stage' (step memory asked).2) :
      ∃ stage', Moves index spec concrete memory schema stage c stage' (step memory c).2 ∧
        next (step memory c).1 = stage'.program index now spec concrete := by
    obtain ⟨rfl, after⟩ := asks.of_call calls
    exact ⟨stage', moves, after⟩
  cases stage with
  | begun => exact goes (begun_asks now spec holds) .find
  | found => exact goes (found_asks now spec holds) .read
  | planned seen =>
    obtain ⟨update, members, plan, body⟩ := exists_plan given (seen.mapping (some concrete))
      index.config.keywordSubfield
    obtain ⟨asks, left⟩ := planned_asks now holds plan body
    exact goes asks (left ▸ .put plan body)
  | saved => cases calls

/-- A save that is done was successful. -/
theorem saved_of_done (holds : memory.Holds index.physical concrete schema)
    (given : spec.searchableFields.isSome ∨ spec.facets.isSome) {stage : Stage} {result : Except SearchError SettingsSpec}
    (done : stage.program index now spec concrete = .done result) : stage = .saved ∧ result = .ok spec := by
  have busy {c : Call} {rest : Program (Except SearchError SettingsSpec)} {claim : Prop}
      (asks : (stage.program index now spec concrete).Asks step memory c rest) : claim := by
    obtain ⟨next, is, -⟩ := asks
    rw [done] at is
    cases is
  cases stage with
  | begun => exact busy (begun_asks now spec holds)
  | found => exact busy (found_asks now spec holds)
  | planned seen =>
    obtain ⟨update, members, plan, body⟩ := exists_plan given (seen.mapping (some concrete))
      index.config.keywordSubfield
    exact busy (planned_asks now holds plan body).1
  | saved =>
    cases done
    exact ⟨rfl, rfl⟩

end Stage

/-! ## Both saves -/

namespace SettingsSpec

/-- Settings that declare searchable fields only. -/
def fieldsOnly (requested : List String) : SettingsSpec := ⟨some requested, none⟩

/-- Settings that give facets only. -/
def facetsOnly (facets : List FacetSpec) : SettingsSpec := ⟨none, some facets⟩

end SettingsSpec

open SettingsSpec (fieldsOnly facetsOnly)
open Schema (Settles)

/-- What each side declares: the one searchable fields, the other one facets. -/
def declaredBy (requested : List String) (facets : List FacetSpec) : Side → SettingsSpec :=
  Side.pick (fieldsOnly requested) (facetsOnly facets)

/-- What is reported when one side has put its update first and the other one a later update that it had planned
before: facets may leave the fields in another order, and fields leave the facets as they were. -/
def Overwritten (requested : List String) (facets : List FacetSpec) (previous reported : SettingsSpec) : Side → Prop
  | .one => ∃ fields, fields.Perm requested.eraseDups ∧
      reported = (facetsOnly facets).on ⟨some fields, previous.facets⟩
  | .other => reported = (fieldsOnly requested).on previous

namespace Stage

/-- The save is still to put its update, and what it has seen is the schema. -/
def Pending (schema : Schema) (read : Prop) : Stage → Prop
  | begun | found => True
  | planned seen => seen = schema ∧ read
  | saved => False

/-- What a save has seen that is still to put its update when the other one has put its own, after the calls `past`.
The calls that it has made since then are those that read the mapping anew. -/
inductive Late (physical : String) (side : Side) (before middle : Schema) (past : List (Side × Call)) :
    Stage → List (Side × Call) → Prop where
  | begun : Late physical side before middle past .begun []
  | found : Late physical side before middle past .found []
  | foundAnew : Late physical side before middle past .found [(side, .aliasGet physical)]
  | planned (read : (side, .mappingGet physical) ∈ past) : Late physical side before middle past (.planned before) []
  | plannedAnew : Late physical side before middle past (.planned middle) [(side, .mappingGet physical)]
  | allAnew : Late physical side before middle past (.planned middle)
      [(side, .aliasGet physical), (side, .mappingGet physical)]

theorem Pending.imp {stage : Stage} {schema : Schema} {read read' : Prop} (pending : stage.Pending schema read)
    (still : read → read') : stage.Pending schema read' := by
  cases stage with
  | begun | found => trivial
  | planned seen => exact ⟨pending.1, still pending.2⟩
  | saved => exact pending

theorem Pending.late {stage : Stage} {physical : String} {side : Side} {before : Schema} {past : List (Side × Call)}
    (pending : stage.Pending before ((side, .mappingGet physical) ∈ past)) (middle : Schema) :
    Late physical side before middle past stage [] := by
  cases stage with
  | begun => exact .begun
  | found => exact .found
  | planned seen =>
    obtain ⟨rfl, read⟩ := pending
    exact .planned read
  | saved => exact pending.elim

end Stage

/-- The stages of both saves, the schema of the index, and the calls made so far: no update is put yet, or that of
one side, or those of both. -/
inductive Joint (physical : String) (requested : List String) (facets : List FacetSpec) (before : Schema) :
    (Side → Stage) → Schema → List (Side × Call) → Prop where
  | unchanged {stages : Side → Stage} {past : List (Side × Call)}
      (pending : ∀ side, (stages side).Pending before ((side, .mappingGet physical) ∈ past)) :
      Joint physical requested facets before stages before past
  | overtaken {stages : Side → Stage} {middle : Schema} (first : Side) (past : List (Side × Call))
      {since : List (Side × Call)} (update : Json) (saved : stages first = .saved)
      (settles : Settles (declaredBy requested facets first) before middle)
      (late : Stage.Late physical first.peer before middle past (stages first.peer) since) :
      Joint physical requested facets before stages middle (past ++ (first, .mappingPut physical update) :: since)
  | settled {stages : Side → Stage} {middle after seen : Schema} (first : Side) (past : List (Side × Call))
      {since : List (Side × Call)} (update update' : Json) (saved : ∀ side, stages side = .saved)
      (settles : Settles (declaredBy requested facets first) before middle)
      (late : Stage.Late physical first.peer before middle past (.planned seen) since)
      (settles' : Settles (declaredBy requested facets first.peer) (middle.withRecordOf seen) after) :
      Joint physical requested facets before stages after
        (past ++ (first, .mappingPut physical update) :: (since ++ [(first.peer, .mappingPut physical update')]))

namespace Memory

/-- A plan that is put settles the schema with the record that was seen. -/
theorem Holds.put_plan {memory : Memory} {physical concrete subfield : String} {spec : SettingsSpec}
    {schema seen : Schema} {update : MappingUpdate} {members : Members} (holds : memory.Holds physical concrete schema)
    (planned : MappingUpdate.plan spec (seen.mapping (some concrete)) subfield = some update)
    (body : update.body = .obj members)
    (same : (schema.withRecordOf seen).mapping (some concrete) = seen.mapping (some concrete) ∨
      spec.searchableFields = none) :
    ∃ settled, (memory.modify concrete (·.putMapping members)).Holds physical concrete settled ∧
      Settles spec (schema.withRecordOf seen) settled := by
  refine holds.put fun mappings described => ?_
  obtain ⟨members', settled, body', described', settles⟩ := described.plan_late seen planned same
  cases Json.obj.inj (body.symm.trans body')
  exact ⟨settled, described', settles⟩

end Memory

section

variable {physical : String} {requested : List String} {facets : List FacetSpec} {before middle seen after : Schema}
  {past since : List (Side × Call)}

/-- Facets change the record only, which is brought back to what was seen before. -/
theorem withRecordOf_of_facetsOnly (settles : Settles (facetsOnly facets) before middle) :
    middle.withRecordOf before = before := by
  obtain ⟨properties, templates, -⟩ := settles.kept rfl
  unfold Schema.withRecordOf
  rw [properties, templates]

/-- The later update is the one that would be planned now, or gives facets only. -/
theorem Stage.Late.same {first : Side} (late : Late physical first.peer before middle past (.planned seen) since)
    (settles : Settles (declaredBy requested facets first) before middle) (indexName : Option String) :
    (middle.withRecordOf seen).mapping indexName = seen.mapping indexName ∨
      (declaredBy requested facets first.peer).searchableFields = none := by
  cases late with
  | plannedAnew | allAnew => exact .inl rfl
  | planned read =>
    cases first with
    | one => exact .inr rfl
    | other => exact .inl (by rw [withRecordOf_of_facetsOnly settles])

theorem declaredBy_given (requested : List String) (facets : List FacetSpec) (side : Side) :
    (declaredBy requested facets side).searchableFields.isSome ∨ (declaredBy requested facets side).facets.isSome := by
  cases side with
  | one => exact .inl rfl
  | other => exact .inr rfl

theorem declaredBy_plain (plain : "*" ∉ requested) {side : Side} {given : List String}
    (declares : (declaredBy requested facets side).searchableFields = some given) : "*" ∉ given := by
  cases side with
  | one =>
    cases declares
    exact plain
  | other => cases declares

/-- An update that is put last by a save that has read the mapping before the first one. -/
theorem overwritten_of_late {first : Side} (plain : "*" ∉ requested)
    (settles : Settles (declaredBy requested facets first) before middle)
    (settles' : Settles (declaredBy requested facets first.peer) (middle.withRecordOf before) after)
    (indexName : Option String) :
    Overwritten requested facets (before.mapping indexName).settings (after.mapping indexName).settings first := by
  have reported := settles'.settings (fun _ => declaredBy_plain plain) indexName
  cases first with
  | one =>
    have settles : Settles (fieldsOnly requested) before middle := settles
    refine ⟨((middle.withRecordOf before).mapping indexName).searchableFields, ?_, reported⟩
    rw [← settles.searchableFields rfl plain indexName]
    refine (List.perm_ext_iff_of_nodup (IndexMapping.nodup_searchableFields Schema.sorted_mapping)
      (IndexMapping.nodup_searchableFields Schema.sorted_mapping)).2 fun field => ?_
    -- Which fields are listed does not depend on the record, but their order does.
    rw [Schema.mem_searchableFields, Schema.mem_searchableFields]
    rfl
  | other =>
    rw [withRecordOf_of_facetsOnly settles] at reported
    exact reported

/-- An update that is put last by a save that has read what the first one put leaves both. -/
theorem settings_of_anew {first : Side} (plain : "*" ∉ requested)
    (settles : Settles (declaredBy requested facets first) before middle)
    (settles' : Settles (declaredBy requested facets first.peer) middle after) (indexName : Option String) :
    (after.mapping indexName).settings =
      (⟨some requested, some facets⟩ : SettingsSpec).on (before.mapping indexName).settings := by
  rw [settles'.settings (fun _ => declaredBy_plain plain), settles.settings fun _ => declaredBy_plain plain]
  cases first with
  | one => rfl
  | other => rfl

end

/-- A call of one save takes both to their next stages. -/
theorem Joint.after {index : TenantIndex} {requested : List String} {facets : List FacetSpec} {before schema : Schema}
    {stages : Side → Stage} {stage : Stage} {past : List (Side × Call)} {memory memory' : Memory} {concrete : String}
    {c : Call} {side : Side} (joint : Joint index.physical requested facets before stages schema past)
    (holds : memory.Holds index.physical concrete schema)
    (moves : Stage.Moves index (declaredBy requested facets side) concrete memory schema (stages side) c stage memory') :
    ∃ schema', memory'.Holds index.physical concrete schema' ∧
      Joint index.physical requested facets before (Function.update stages side stage) schema' (past ++ [(side, c)]) := by
  have others {side' : Side} (different : side' ≠ side) : Function.update stages side stage side' = stages side' :=
    Function.update_of_ne different ..
  generalize at_side : stages side = current at moves
  cases joint with
  | unchanged pending =>
    have own := pending side
    rw [at_side] at own
    -- A call that reads leaves what both have seen as it is.
    have still (own' : stage.Pending before ((side, .mappingGet index.physical) ∈ past ++ [(side, c)])) :
        Joint index.physical requested facets before (Function.update stages side stage) before (past ++ [(side, c)]) := by
      refine .unchanged fun side' => ?_
      by_cases is : side' = side
      · subst is
        rw [Function.update_self]
        exact own'
      · rw [others is]
        exact (pending side').imp fun read => List.mem_append_left _ read
    cases moves with
    | find => exact ⟨before, holds, still trivial⟩
    | read => exact ⟨before, holds, still ⟨rfl, by simp⟩⟩
    | @put seen update members planned body =>
      obtain ⟨rfl, -⟩ := own
      obtain ⟨middle, holds', settles⟩ := holds.put_plan planned body (.inl rfl)
      refine ⟨middle, holds', .overtaken side past _ (Function.update_self ..) settles ?_⟩
      rw [others side.peer_ne]
      exact (pending side.peer).late middle
  | @overtaken _ first past since update saved settles late =>
    rcases side.eq_or_peer first with rfl | rfl
    · rw [saved] at at_side
      subst at_side
      cases moves
    · rw [at_side] at late
      have first_saved : Function.update stages first.peer stage first = .saved := by
        rw [others (Ne.symm first.peer_ne), saved]
      rw [List.append_assoc, List.cons_append]
      -- A call that reads adds to those that were made since the first update.
      have looked (late' : Stage.Late index.physical first.peer before schema past stage
          (since ++ [(first.peer, c)])) :
          Joint index.physical requested facets before (Function.update stages first.peer stage) schema
            (past ++ (first, .mappingPut index.physical update) :: (since ++ [(first.peer, c)])) := by
        refine .overtaken first past update first_saved settles ?_
        rw [Function.update_self]
        exact late'
      cases moves with
      | find =>
        cases late
        exact ⟨schema, holds, looked .foundAnew⟩
      | read =>
        cases late with
        | found => exact ⟨schema, holds, looked .plannedAnew⟩
        | foundAnew => exact ⟨schema, holds, looked .allAnew⟩
      | @put seen update' members planned body =>
        obtain ⟨after, holds', settles'⟩ := holds.put_plan planned body (late.same settles (some concrete))
        refine ⟨after, holds', .settled first past update _ (fun side' => ?_) settles late settles'⟩
        rcases side'.eq_or_peer first with rfl | rfl
        · exact first_saved
        · exact Function.update_self ..
  | settled first past update update' saved settles late settles' =>
    rw [saved side] at at_side
    subst at_side
    cases moves

namespace Memory

/-- Both saves are at some stage, and so is the index. -/
def InStages (saver : Side → TenantIndex) (now : Side → Instant) (physical concrete : String) (requested : List String)
    (facets : List FacetSpec) (before : Schema) (programs : Side → Program (Except SearchError SettingsSpec))
    (memory : Memory) (past : List (Side × Call)) : Prop :=
  ∃ stages schema,
    (∀ side, programs side =
      (stages side).program (saver side) (now side) (declaredBy requested facets side) concrete) ∧
    memory.Holds physical concrete schema ∧ Joint physical requested facets before stages schema past

section

variable {saver : Side → TenantIndex} {now : Side → Instant} {physical concrete : String}
  (same : ∀ side, (saver side).physical = physical) {requested : List String} {facets : List FacetSpec} {before : Schema}

include same

theorem InStages.turn {memory : Memory} {programs : Side → Program (Except SearchError SettingsSpec)}
    {past : List (Side × Call)} (h : InStages saver now physical concrete requested facets before programs memory past)
    {side : Side} {c : Call} {next : Reply c → Program (Except SearchError SettingsSpec)}
    (calls : programs side = .call c next) :
    InStages saver now physical concrete requested facets before
      (Function.update programs side (next (step memory c).1)) (step memory c).2 (past ++ [(side, c)]) := by
  obtain ⟨stages, schema, are, holds, joint⟩ := h
  rw [are] at calls
  cases same side
  obtain ⟨stage, moves, after⟩ := Stage.moves_of_call holds (declaredBy_given requested facets side) calls
  obtain ⟨schema', holds', joint'⟩ := joint.after holds moves
  refine ⟨_, schema', fun side' => ?_, holds', joint'⟩
  rw [after]
  by_cases is : side' = side
  · subst is
    rw [Function.update_self, Function.update_self]
  · rw [Function.update_of_ne is, Function.update_of_ne is, are]

/-- Both saves succeed, in whatever order they make their calls, and the one has put its update after the other. -/
theorem Holds.interleaved {memory final : Memory} (holds : memory.Holds physical concrete before)
    {log : List (Side × Call)} {results : Side → Except SearchError SettingsSpec}
    (interleaved : Program.Interleaved step
      (fun side => ((saver side).saveSettings (now side) (declaredBy requested facets side)).run) memory log results final) :
    (∀ side, results side = .ok (declaredBy requested facets side)) ∧
      ∃ stages schema, (∀ side, stages side = .saved) ∧ final.Holds physical concrete schema ∧
        Joint physical requested facets before stages schema log := by
  have start : InStages saver now physical concrete requested facets before
      (fun side => ((saver side).saveSettings (now side) (declaredBy requested facets side)).run) memory [] :=
    ⟨fun _ => .begun, before, fun _ => rfl, holds, .unchanged fun _ => trivial⟩
  obtain ⟨stages, schema, are, holds', joint⟩ :=
    interleaved.keeps (InStages saver now physical concrete requested facets before)
      (fun _ _ _ _ _ _ calls h => h.turn same calls) start
  have ended (side : Side) : stages side = .saved ∧ results side = .ok (declaredBy requested facets side) := by
    cases same side
    exact Stage.saved_of_done holds' (declaredBy_given requested facets side) (are side).symm
  exact ⟨fun side => (ended side).2, stages, schema, fun side => (ended side).1, holds', joint⟩

end

/-- Of two saves at the same time on an index that has storage, one of fields and one of facets, both
succeed. The later update is put by a save that makes some calls after the earlier one (`since`). Both are reported
if these calls read the mapping. If it was read before, facets that are put so late may leave the fields in another
order, and fields that are put so late leave the facets as they were. -/
theorem concurrent_saves {run : List Request} {index peer : TenantIndex} (same : peer.physical = index.physical)
    (provisioned : ((empty.after run).aliases.get? index.physical).isSome) {requested : List String}
    (plain : "*" ∉ requested) {facets : List FacetSpec} {now now' : Instant} {log : List (Side × Call)}
    {a b : Except SearchError SettingsSpec} {final : Memory}
    (together : Program.Together step (index.saveSettings now (fieldsOnly requested)).run
      (peer.saveSettings now' (facetsOnly facets)).run (empty.after run) log a b final) :
    a = .ok (fieldsOnly requested) ∧ b = .ok (facetsOnly facets) ∧
      ∃ previous reported, (empty.after run).answer ⟨index, now, .getSettings⟩ = .ok previous ∧
        final.answer ⟨index, now, .getSettings⟩ = .ok reported ∧
        ∃ first past since update update',
          log = past ++ (first, .mappingPut index.physical update) ::
            (since ++ [(first.peer, .mappingPut index.physical update')]) ∧
          (since = [] ∨ since = [(first.peer, .mappingGet index.physical)] ∨
            since = [(first.peer, .aliasGet index.physical), (first.peer, .mappingGet index.physical)]) ∧
          if since = [] then
            (first.peer, .mappingGet index.physical) ∈ past ∧ Overwritten requested facets previous reported first
          else reported = (⟨some requested, some facets⟩ : SettingsSpec).on previous := by
  have sound := sound_empty.after run
  obtain ⟨behind, found⟩ := Option.isSome_iff_exists.1 provisioned
  obtain ⟨concrete, resolved⟩ := sound.consistent.exists_resolve found
  obtain ⟨content, before, there, described⟩ := sound.exists_schema resolved
  have holds : (empty.after run).Holds index.physical concrete before :=
    ⟨sound.consistent, provisioned, resolved, content, there, described⟩
  have programs : (fun side => Side.pick (index.saveSettings now (fieldsOnly requested)).run
      (peer.saveSettings now' (facetsOnly facets)).run side) = fun side =>
        ((Side.pick index peer side).saveSettings (Side.pick now now' side) (declaredBy requested facets side)).run := by
    funext side
    cases side <;> rfl
  unfold Program.Together at together
  rw [programs] at together
  have meet : ∀ side : Side, (Side.pick index peer side).physical = index.physical := by
    rintro (_ | _)
    · rfl
    · exact same
  obtain ⟨succeed, stages, schema, saved, left, joint⟩ := holds.interleaved meet together
  obtain ⟨content', there', described'⟩ := left.described
  refine ⟨succeed .one, succeed .other, _, _, congrArg Prod.fst (index.runOn_getSettings resolved there described),
    congrArg Prod.fst (index.runOn_getSettings left.resolved there' described'), ?_⟩
  cases joint with
  | unchanged pending =>
    have still := pending .one
    rw [saved] at still
    exact still.elim
  | overtaken first past update _ settles late =>
    rw [saved] at late
    cases late
  | settled first past update update' _ settles late settles' =>
    refine ⟨first, past, _, update, update', rfl, ?_⟩
    cases late with
    | planned read => exact ⟨.inl rfl, read, overwritten_of_late plain settles settles' (some concrete)⟩
    | plannedAnew =>
      refine ⟨.inr (.inl rfl), ?_⟩
      rw [if_neg (by simp)]
      exact settings_of_anew plain settles settles' (some concrete)
    | allAnew =>
      refine ⟨.inr (.inr rfl), ?_⟩
      rw [if_neg (by simp)]
      exact settings_of_anew plain settles settles' (some concrete)

/-- A save of facets that begins after a save of fields is reported together with it. -/
theorem saves_in_turn_are_reported :
    ∃ log final, Program.Together step
        (TenantIndex.saveSettings ⟨.default, "a", "b"⟩ .epoch (fieldsOnly ["y", "x"])).run
        (TenantIndex.saveSettings ⟨.default, "a", "b"⟩ .epoch (facetsOnly [⟨"z", .count⟩])).run
        (empty.after [.atEpoch "a" "b" (.put (some "1") (.obj []))]) log
        (.ok (fieldsOnly ["y", "x"])) (.ok (facetsOnly [⟨"z", .count⟩])) final ∧
      ∃ previous, (empty.after [.atEpoch "a" "b" (.put (some "1") (.obj []))]).answer
          (.atEpoch "a" "b" .getSettings) = .ok previous ∧
        final.answer (.atEpoch "a" "b" .getSettings) =
          .ok ((⟨some ["y", "x"], some [⟨"z", .count⟩]⟩ : SettingsSpec).on previous) := by
  have provisioned : ((empty.after [.atEpoch "a" "b" (.put (some "1") (.obj []))]).aliases.get?
      (TenantIndex.physical ⟨.default, "a", "b"⟩)).isSome := by rfl
  obtain ⟨log, final, together, turns⟩ : ∃ log final, Program.Together step
      (TenantIndex.saveSettings ⟨.default, "a", "b"⟩ .epoch (fieldsOnly ["y", "x"])).run
      (TenantIndex.saveSettings ⟨.default, "a", "b"⟩ .epoch (facetsOnly [⟨"z", .count⟩])).run
      (empty.after [.atEpoch "a" "b" (.put (some "1") (.obj []))]) log
      (.ok (fieldsOnly ["y", "x"])) (.ok (facetsOnly [⟨"z", .count⟩])) final ∧
      log.map Prod.fst = [.one, .one, .one, .other, .other, .other] := by
    refine ⟨_, _, .turn .one rfl (.turn .one rfl (.turn .one rfl (.turn .other rfl (.turn .other rfl (.turn .other rfl
      (.done _ ?_)))))), rfl⟩
    rintro (_ | _)
    · rfl
    · rfl
  obtain ⟨-, -, previous, reported, before, after, first, past, since, update, update', shape, -, both⟩ :=
    concurrent_saves rfl provisioned (by decide : "*" ∉ ["y", "x"]) together
  have backwards := congrArg (fun calls => (calls.map Prod.fst).reverse) shape
  simp only [turns, List.map_append, List.map_cons, List.reverse_append, List.reverse_cons] at backwards
  have made : since ≠ [] := by
    rintro rfl
    cases first <;> simp [Side.peer] at backwards
  rw [if_neg made] at both
  subst both
  exact ⟨log, final, together, previous, before, after⟩

/-- When both saves read the mapping before either of them puts its update, the later update takes the facets
of the other one away, or the order of its fields. -/
theorem overlapping_saves_are_lost :
    (∃ log final, Program.Together step
        (TenantIndex.saveSettings ⟨.default, "a", "b"⟩ .epoch (fieldsOnly ["y", "x"])).run
        (TenantIndex.saveSettings ⟨.default, "a", "b"⟩ .epoch (facetsOnly [⟨"z", .count⟩])).run
        (empty.after [.atEpoch "a" "b" (.put (some "1") (.obj []))]) log
        (.ok (fieldsOnly ["y", "x"])) (.ok (facetsOnly [⟨"z", .count⟩])) final ∧
      final.answer (.atEpoch "a" "b" .getSettings) = .ok ⟨some ["y", "x"], none⟩) ∧
    ∃ log final, Program.Together step
        (TenantIndex.saveSettings ⟨.default, "a", "b"⟩ .epoch (fieldsOnly ["y", "x"])).run
        (TenantIndex.saveSettings ⟨.default, "a", "b"⟩ .epoch (facetsOnly [⟨"z", .count⟩])).run
        (empty.after [.atEpoch "a" "b" (.put (some "1") (.obj []))]) log
        (.ok (fieldsOnly ["y", "x"])) (.ok (facetsOnly [⟨"z", .count⟩])) final ∧
      final.answer (.atEpoch "a" "b" .getSettings) = .ok ⟨some ["x", "y"], some [⟨"z", .count⟩]⟩ := by
  refine ⟨⟨_, _, .turn .one rfl (.turn .one rfl (.turn .other rfl (.turn .other rfl (.turn .other rfl (.turn .one rfl
      (.done _ ?_)))))), ?_⟩,
    ⟨_, _, .turn .one rfl (.turn .one rfl (.turn .other rfl (.turn .other rfl (.turn .one rfl (.turn .other rfl
      (.done _ ?_)))))), ?_⟩⟩
  · rintro (_ | _) <;> rfl
  · rfl
  · rintro (_ | _) <;> rfl
  · rfl

end Memory

end SearchTenancy

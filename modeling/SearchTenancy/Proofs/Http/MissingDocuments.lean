import SearchTenancy.Proofs.Http.Provisioning
import SearchTenancy.Tenant.Index

/-!
# Missing documents, over HTTP

A response to a request about one document is read in three steps: the body, which is
none if it is no JSON (`Http.bodyOf?_eq_ofText?`); for a deletion the `found` that the
report of a missing document lacks there (`Http.tellsMissing_withFound`); and then
what the report means.
-/

namespace SearchTenancy

open Operation BackendError

/-! ## Bodies -/

theorem Text.not_isDigit_of_isBlank {c : Char} (blank : isBlank c) : c.isDigit = false := by
  rw [Bool.eq_false_iff]
  intro digit
  have range : 48 ≤ c.toNat ∧ c.toNat ≤ 57 := Char.isDigit_iff_toNat.1 digit
  unfold isBlank blankRanges at blank
  simp only [List.any_cons, List.any_nil, Bool.or_false, Bool.or_eq_true, Bool.and_eq_true, decide_eq_true_eq] at blank
  omega

/-- A text that starts with a blank of another kind than those between tokens is no JSON. -/
theorem Json.scanValue_of_blank {text : List Char} (blank : ∀ c ∈ (skipBlanks text).head?, Text.isBlank c)
    (fuel depth : Nat) : scanValue (fuel + 1) depth text = (.broken, none) := by
  unfold scanValue
  cases left : skipBlanks text with
  | nil => rfl
  | cons c rest =>
    have blank : Text.isBlank c := blank c (by rw [left]; rfl)
    have noNumber : scanWrittenNumber false (c :: rest) = (.broken, none) := by
      simp [scanWrittenNumber, scanNumber, scanDigits, Text.not_isDigit_of_isBlank blank]
    -- All that is no number starts with a character that is no blank.
    split <;> first | exact noNumber | (rename_i start; cases start; cases blank)

/-- A text of blanks is no JSON. -/
theorem Json.ofText?_of_blank {text : String} (blank : text.toList.all Text.isBlank) : ofText? text = none := by
  have left : ∀ c ∈ (skipBlanks text.toList).head?, Text.isBlank c := fun c mem =>
    List.all_eq_true.1 blank c ((List.dropWhile_suffix _).subset (List.mem_of_mem_head? mem))
  unfold ofText? scan
  simp only [scanValue_of_blank left]
  rfl

namespace Http

theorem bodyOf?_eq_ofText? (text : String) : bodyOf? text = Json.ofText? text := by
  unfold bodyOf?
  split
  · rename_i blank
    exact (Json.ofText?_of_blank blank).symm
  · rfl

/-! ## Deletions -/

/-- The body tells of a document that was not deleted since it was not found, and has no `found`. -/
def TellsUndeleted (body : Json) : Prop :=
  TellsIndex body ∧ body.get? "result" = some (.str "not_found") ∧ body.get? "found" = none

variable {failure : BackendError}

/-- A `found` is added in one case only, and nothing else is changed. -/
theorem withFound_cases (failure : BackendError) :
    (∃ members, failure.body = some (.obj members) ∧ Entries.get? members "result" = some (.str "not_found") ∧
      Entries.get? members "found" = none ∧
      withFound failure = { failure with body := some (.obj (Entries.insert members "found" (.bool false))) }) ∨
    withFound failure = failure ∧
      ∀ body ∈ failure.body, ¬(body.get? "result" = some (.str "not_found") ∧ body.get? "found" = none) := by
  unfold withFound
  split
  · rename_i members given
    have condition : ((failure.bodyMember? "result").bind Json.asString? = some "not_found" ∧
        (!Entries.contains members "found") = true) ↔
          Entries.get? members "result" = some (.str "not_found") ∧ Entries.get? members "found" = none := by
      rw [bodyMember?, given, Option.bind_some, Json.bind_asString?_eq_some, Entries.contains]
      simp [Json.get?]
    split
    · rename_i told
      exact .inl ⟨members, given, (condition.1 told).1, (condition.1 told).2, rfl⟩
    · rename_i untold
      refine .inr ⟨rfl, fun body mem told => untold (condition.2 ?_)⟩
      cases Option.some.inj (given.symm.trans mem)
      exact told
  · rename_i noObject
    refine .inr ⟨rfl, fun body mem told => ?_⟩
    cases body with
    | obj members => exact noObject members mem
    | _ => cases told.1

theorem status_withFound : (withFound failure).status = failure.status := by
  rcases withFound_cases failure with ⟨_, -, -, -, same⟩ | ⟨same, -⟩ <;> rw [same]

theorem tellsIndex_insert_found {members : Members} {value : Json} :
    TellsIndex (.obj (Entries.insert members "found" value)) ↔ TellsIndex (.obj members) := by
  have other : (Json.obj (Entries.insert members "found" value)).get? "_index" = (Json.obj members).get? "_index" :=
    Entries.get?_insert_of_ne members value (by decide)
  unfold TellsIndex
  rw [other]

/-- Whether a report tells an index is not changed. -/
theorem tellsIndex_withFound :
    (∀ body ∈ (withFound failure).body, ¬TellsIndex body) ↔ ∀ body ∈ failure.body, ¬TellsIndex body := by
  rcases withFound_cases failure with ⟨members, given, -, -, added⟩ | ⟨same, -⟩
  · simp [added, given, tellsIndex_insert_found]
  · rw [same]

theorem tellsMissing_withFound :
    (∃ body ∈ (withFound failure).body, TellsMissing body) ↔
      ∃ body ∈ failure.body, TellsMissing body ∨ TellsUndeleted body := by
  rcases withFound_cases failure with ⟨members, given, notFound, absent, added⟩ | ⟨same, untold⟩
  · have found : (Json.obj (Entries.insert members "found" (.bool false))).get? "found" = some (.bool false) :=
      Entries.get?_insert_self members "found" (.bool false)
    have absent : (Json.obj members).get? "found" = none := absent
    have notFound : (Json.obj members).get? "result" = some (.str "not_found") := notFound
    simp [added, given, TellsMissing, TellsUndeleted, tellsIndex_insert_found, found, absent, notFound]
  · rw [same]
    refine exists_congr fun body => and_congr_right fun mem => (or_iff_left fun undeleted => ?_).symm
    exact untold body mem undeleted.2

/-! ## What is read of a response -/

variable {physical objectId text : String} {status : Nat}

/-- A document is read exactly if the body of a success has its id. -/
theorem exists_reply_documentGet_iff (success : isSuccess status) :
    (∃ document, reply (.answered status text) (.documentGet physical objectId) = .ok document) ↔
      ∃ value ∈ Json.ofText? text, ∃ id, value.get? "_id" = some (.str id) := by
  unfold reply
  simp only [valueOf_success success, bodyOf?_eq_ofText?]
  cases Json.ofText? text with
  | none => simp [stringMember, Json.get?, bind, Except.bind]
  | some value =>
    simp only [Option.getD_some, Option.mem_some_iff, exists_eq_left', ← Json.bind_asString?_eq_some]
    cases told : (value.get? "_id").bind Json.asString? <;>
      simp [stringMember, told, bind, Except.bind, pure, Except.pure]

theorem reply_documentGet_of_refused (refused : ¬isSuccess status) :
    reply (.answered status text) (.documentGet physical objectId) = .error (.refused status (Json.ofText? text)) := by
  unfold reply
  rw [valueOf_refused refused, bodyOf?_eq_ofText?]
  rfl

theorem reply_documentDelete_of_success (success : isSuccess status) :
    reply (.answered status text) (.documentDelete physical objectId) = .ok () := by
  unfold reply
  rw [valueOf_success success]
  rfl

theorem reply_documentDelete_of_refused (refused : ¬isSuccess status) :
    reply (.answered status text) (.documentDelete physical objectId) =
      .error (withFound (.refused status (Json.ofText? text))) := by
  unfold reply
  rw [valueOf_refused refused, bodyOf?_eq_ofText?]
  rfl

variable {σ : Type} {carry : σ → Request → Response × σ} {state : σ} {index : TenantIndex}

theorem result_getObject :
    (runOn (step carry) (index.getObject objectId) state).1 =
      match reply (carry state (request (.documentGet index.physical objectId))).1
          (.documentGet index.physical objectId) with
      | .ok document => .ok (IndexedObject.toValue ⟨document.objectId, Entries.erase document.source objectIdAttribute⟩)
      | .error failure => .error (failure.classify index.physical (some objectId)) := by
  unfold TenantIndex.getObject
  simp only [runOn_bind, TenantIndex.call, Operation.call, runOn_mk_call, step]
  cases reply (carry state (request (.documentGet index.physical objectId))).1
      (.documentGet index.physical objectId) <;> rfl

theorem result_deleteObject :
    (runOn (step carry) (index.deleteObject objectId) state).1 =
      (reply (carry state (request (.documentDelete index.physical objectId))).1
        (.documentDelete index.physical objectId)).mapError (·.classify index.physical (some objectId)) := rfl

/-- A refusal says that the document is missing exactly if `missing` holds, that the index is missing exactly if
the status is that of something missing and the body tells no index, and anything else exactly if neither is so. -/
def RefusalMeans {α : Type} (result : Except SearchError α) (index objectId : String) (status : Nat)
    (body : Option Json) (missing : Prop) : Prop :=
  (result = .error (.objectNotFound index objectId) ↔ missing) ∧
  (result = .error (.indexNotFound index) ↔ status = 404 ∧ ∀ value ∈ body, ¬TellsIndex value) ∧
  ((∃ error, result = .error (.unclassified error) ∧ error.status = some status) ↔
    ¬missing ∧ ¬(status = 404 ∧ ∀ value ∈ body, ¬TellsIndex value))

theorem refusalMeans_classify {α : Type} {physical : String} {status : Nat} {body : Option Json} {missing : Prop}
    (document : failure.classification = .objectNotFound ↔ missing)
    (none : failure.classification = .indexNotFound ↔ status = 404 ∧ ∀ value ∈ body, ¬TellsIndex value)
    (kept : failure.status = some status) :
    RefusalMeans (.error (failure.classify physical (some objectId)) : Except SearchError α) physical objectId status
      body missing := by
  unfold RefusalMeans classify
  rw [← document, ← none]
  cases failure.classification <;> simp [kept]

/-- A missing document is told apart from a missing index. A response with a status of success means that the
document was deleted, and that it was read exactly if the body has its id. Of any other the body decides: a document
is missing if the body tells an index and that nothing was found, or for a deletion that nothing was deleted. -/
theorem missing_document_told_apart (carry : σ → Request → Response × σ) (state : σ) (index : TenantIndex)
    (objectId : String) (status : Nat) (text : String) :
    let body := Json.ofText? text
    let read := (runOn (step carry) (index.getObject objectId) state).1
    let deleted := (runOn (step carry) (index.deleteObject objectId) state).1
    ((carry state (request (.documentGet index.physical objectId))).1 = .answered status text →
      (isSuccess status →
        ((∃ document, read = .ok document) ↔ ∃ value ∈ body, ∃ id, value.get? "_id" = some (.str id))) ∧
      (¬isSuccess status →
        RefusalMeans read index.physical objectId status body (∃ value ∈ body, TellsMissing value))) ∧
    ((carry state (request (.documentDelete index.physical objectId))).1 = .answered status text →
      (isSuccess status → deleted = .ok ()) ∧
      (¬isSuccess status →
        RefusalMeans deleted index.physical objectId status body
          (∃ value ∈ body, TellsMissing value ∨ TellsUndeleted value))) := by
  intro body read deleted
  have reading : read = _ := result_getObject
  have deleting : deleted = _ := result_deleteObject
  refine ⟨fun answered => ⟨fun success => ?_, fun refused => ?_⟩,
    fun answered => ⟨fun success => ?_, fun refused => ?_⟩⟩
  · rw [reading, answered, ← exists_reply_documentGet_iff success]
    cases reply (.answered status text) (.documentGet index.physical objectId) <;> simp
  · rw [reading, answered, reply_documentGet_of_refused refused]
    exact refusalMeans_classify classification_eq_objectNotFound_iff
      (by rw [classification_eq_indexNotFound_iff]; simp [BackendError.refused, body]) rfl
  · rw [deleting, answered, reply_documentDelete_of_success success]
    rfl
  · rw [deleting, answered, reply_documentDelete_of_refused refused]
    refine refusalMeans_classify ?_ ?_ status_withFound
    · rw [classification_eq_objectNotFound_iff, tellsMissing_withFound]
      rfl
    · rw [classification_eq_indexNotFound_iff, tellsIndex_withFound, status_withFound]
      simp [BackendError.refused, body]

/-- The report of a deletion that found nothing, and one without a body. -/
theorem deletion_told_apart :
    let index : TenantIndex := ⟨.default, "acme", "products"⟩
    let deleted (response : Response) := (runOn (step replay) (index.deleteObject "1") [response]).1
    let report := "\x7b\"_index\":\"g\",\"result\":\"not_found\"\x7d"
    (¬isSuccess 404 ∧ deleted (.answered 404 report) = .error (.objectNotFound "acme_products" "1")) ∧
      deleted (.answered 404 "") = .error (.indexNotFound "acme_products") := by
  intro index deleted report
  have told (text : String) := (missing_document_told_apart replay [.answered 404 text] index "1" 404 text).2 rfl
  have facts : ((Json.ofText? report).bind fun value => some ((value.get? "_index").bind Json.asString?,
      (value.get? "result").bind Json.asString?, (value.get? "found").isNone)) =
        some (some "g", some "not_found", true) := by decide +kernel
  obtain ⟨value, given, members⟩ := Option.bind_eq_some_iff.1 facts
  simp only [Option.some.injEq, Prod.mk.injEq, Json.bind_asString?_eq_some, Option.isNone_iff_eq_none] at members
  refine ⟨⟨by decide, ((told report).2 (by decide)).1.2 ?_⟩, ((told "").2 (by decide)).2.1.2 ?_⟩
  · exact ⟨value, given, .inr ⟨⟨.str "g", members.1, nofun⟩, members.2⟩⟩
  · exact ⟨rfl, fun value mem => nomatch mem⟩

end Http

end SearchTenancy

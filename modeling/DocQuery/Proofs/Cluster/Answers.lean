import DocQuery.Cluster.Connection
import DocQuery.Proofs.Json.DistinctKeys

/-!
# What an answer of the cluster means

Status and body of an answer decide what an operation comes to. `Cluster.WellFormed` says,
without reading, which bodies answer an operation with which response;
`Cluster.answers_are_classified` says that exactly these are accepted, and what becomes of
all other answers.

A body without bytes counts as `null`, whatever the status (`WebReply.value?`).
-/

namespace DocQuery.Cluster

/-- Something that was given as fields, or not at all: an object gives its members, `null`
and absence give none. -/
inductive GivesFields : Option Json → Fields → Prop where
  | object (fields : Fields) : GivesFields (some (.ofFields fields)) fields
  | null : GivesFields (some .null) .empty
  | absent : GivesFields none .empty

/-- A value that is a document: its id is a string, and its source is given as fields. -/
structure IsDocument (value : Json) (hit : Hit) : Prop where
  id : value.get? "_id" = some (.string hit.id)
  source : GivesFields (value.get? "_source") hit.source

/-- A body answers an operation with a response: metadata is an object; a search has an
array of documents at `hits.hits`, and its aggregations are given as fields; a request for a
document says that it was not found, or else is that document. -/
inductive WellFormed (body : Json) : Operation → Response → Prop where
  | mappings {pattern : String} {metadata : Fields} (object : body = .ofFields metadata) :
      WellFormed body (.getMappings pattern) (.mappings metadata)
  | hits {search : Search} {elements : List Json} {hits : List Hit} {aggregations : Fields}
      (listed : (body.get? "hits").bind (Json.get? "hits") = some (.array elements))
      (documents : List.Forall₂ IsDocument elements hits)
      (aggregated : GivesFields (body.get? "aggregations") aggregations) :
      WellFormed body (.search search) (.hits ⟨hits, aggregations⟩)
  | missing {request : GetById} (said : body.get? "found" = some (.bool false)) :
      WellFormed body (.getById request) (.document none)
  | found {request : GetById} {hit : Hit} (unsaid : body.get? "found" ≠ some (.bool false))
      (document : IsDocument body hit) : WellFormed body (.getById request) (.document (some hit))

variable {body value : Json} {operation : Operation} {reply : WebReply}

/-- A value inside a value with distinct keys has distinct keys. -/
theorem keyed_of_get? {key : String} (keyed : body.Keyed) (found : body.get? key = some value) :
    value.Keyed := by
  cases keyed with
  | object distinct inside =>
      exact inside (key, value) ((Entries.find?_eq_some_iff distinct).mp found)
  | _ => cases found

/-- An object with distinct keys gives the fields that its members make. -/
theorem givesFields_object {members : List (String × Json)} (keyed : (Json.object members).Keyed) :
    GivesFields (some (.object members)) (.ofList members) := by
  rw [keyed.eq_ofFields]
  exact .object _

/-- A document is read as what it is, and nothing else is read as one. -/
theorem readHit_eq_ok_iff {hit : Hit} (keyed : value.Keyed) :
    readHit value = .ok hit ↔ IsDocument value hit := by
  constructor
  · intro read
    rw [readHit] at read
    split at read
    case h_1 id named =>
      split at read
      case h_1 members given =>
        cases read
        exact ⟨named, given ▸ givesFields_object (keyed_of_get? keyed given)⟩
      case h_2 given =>
        cases read
        exact ⟨named, given ▸ .null⟩
      case h_3 absent =>
        cases read
        exact ⟨named, absent ▸ .absent⟩
      case h_4 => cases read
    case h_2 => cases read
  · obtain ⟨_, _⟩ := hit
    rintro ⟨id, source⟩
    rw [readHit, id]
    generalize value.get? "_source" = given at source
    cases source with
    | object fields => simp only [Json.ofFields, OrderedMap.ofList_entries]
    | null => rfl
    | absent => rfl

/-- Aggregations are read as the fields that are given, and nothing else is read as such. -/
theorem readAggregations_eq_ok_iff {aggregations : Fields} (keyed : body.Keyed) :
    readAggregations body = .ok aggregations ↔
      GivesFields (body.get? "aggregations") aggregations := by
  constructor
  · intro read
    rw [readAggregations] at read
    split at read
    case h_1 members given =>
      cases read
      exact given ▸ givesFields_object (keyed_of_get? keyed given)
    case h_2 given =>
      cases read
      exact given ▸ .null
    case h_3 absent =>
      cases read
      exact absent ▸ .absent
    case h_4 => cases read
  · intro gives
    rw [readAggregations]
    generalize body.get? "aggregations" = given at gives
    cases gives with
    | object fields => simp only [Json.ofFields, OrderedMap.ofList_entries]
    | null => rfl
    | absent => rfl

/-- A list of documents is read item by item, in order; one item that is no document spoils
the list. -/
theorem mapM_readHit_eq_ok_iff {elements : List Json} {hits : List Hit}
    (keyed : ∀ element ∈ elements, element.Keyed) :
    elements.mapM readHit = .ok hits ↔ List.Forall₂ IsDocument elements hits :=
  Json.mapM_eq_ok_iff fun element member _ => readHit_eq_ok_iff (keyed element member)

/-- The response that an answer of success is read as. -/
def readSuccess (operation : Operation) (body : Json) : Except Error Response :=
  match operation with
  | .getMappings _ => readMappings body
  | .getById _ => readDocument body
  | .search _ => readSearch body

/-- Answers of success are accepted exactly if they are well-formed, as the response that
they give. -/
theorem readSuccess_eq_ok_iff {response : Response} (keyed : body.Keyed) :
    readSuccess operation body = .ok response ↔ WellFormed body operation response := by
  cases operation with
  | getMappings pattern =>
      constructor
      · intro read
        cases body with
        | object members =>
            cases read
            exact .mappings keyed.eq_ofFields
        | _ => cases read
      · rintro ⟨rfl⟩
        simp only [readSuccess, readMappings, Json.ofFields, OrderedMap.ofList_entries]
  | getById request =>
      have reported : saysMissing body = true ↔ body.get? "found" = some (.bool false) := beq_iff_eq
      rw [readSuccess, readDocument]
      constructor
      · intro read
        split at read
        case isTrue missing =>
          cases read
          exact .missing (reported.mp missing)
        case isFalse present =>
          cases made : readHit body with
          | error => rw [made] at read; cases read
          | ok hit =>
              rw [made] at read
              cases read
              exact .found (fun said => present (reported.mpr said))
                ((readHit_eq_ok_iff keyed).mp made)
      · intro formed
        cases formed with
        | missing said => rw [if_pos (reported.mpr said)]
        | found unsaid document =>
            rw [if_neg fun missing => unsaid (reported.mp missing),
              (readHit_eq_ok_iff keyed).mpr document]
            rfl
  | search search =>
      constructor
      · intro read
        obtain ⟨hits, listed, read⟩ := Json.exists_ok_of_bind read
        obtain ⟨aggregations, given, made⟩ := Json.exists_ok_of_bind read
        cases made
        rw [readHits] at listed
        split at listed
        case h_1 elements found =>
          obtain ⟨inner, outer, inside⟩ := Option.bind_eq_some_iff.mp found
          have elementsKeyed := keyed_of_get? (keyed_of_get? keyed outer) inside
          cases elementsKeyed with
          | array elementKeyed =>
              exact .hits found ((mapM_readHit_eq_ok_iff elementKeyed).mp listed)
                ((readAggregations_eq_ok_iff keyed).mp given)
        case h_2 => cases listed
        case h_3 => cases listed
      · intro formed
        cases formed with
        | @hits _ elements hits aggregations found documents aggregated =>
            obtain ⟨inner, outer, inside⟩ := Option.bind_eq_some_iff.mp found
            have elementsKeyed := keyed_of_get? (keyed_of_get? keyed outer) inside
            cases elementsKeyed with
            | array elementKeyed =>
                have listed : readHits body = .ok hits := by
                  rw [readHits, found]
                  exact (mapM_readHit_eq_ok_iff elementKeyed).mpr documents
                rw [readSuccess, readSearch, listed,
                  (readAggregations_eq_ok_iff keyed).mpr aggregated]
                rfl

/-- A result that is an error, if at all, because an answer has not the expected shape. -/
def FailsByShape {α : Type} (result : Except Error α) : Prop :=
  ∀ error, result = .error error → ∃ text, error = .of (.invalidResponse text)

section FailsByShape

variable {α β : Type}

theorem failsByShape_ok (result : α) : FailsByShape (.ok result) := by
  intro error failed
  cases failed

theorem failsByShape_invalidResponse (text : String) :
    FailsByShape (.error (.of (.invalidResponse text)) : Except Error α) := by
  intro error failed
  exact ⟨text, (Except.error.inj failed).symm⟩

theorem FailsByShape.bind {first : Except Error α} {next : α → Except Error β}
    (atFirst : FailsByShape first) (thereafter : ∀ result, FailsByShape (next result)) :
    FailsByShape (first >>= next) := by
  cases first with
  | error error => exact fun failure failed => atFirst failure (by cases failed; rfl)
  | ok result => exact thereafter result

theorem FailsByShape.map {result : Except Error α} (fails : FailsByShape result)
    (change : α → β) : FailsByShape (result.map change) := by
  cases result with
  | error error => exact fun failure failed => fails failure (by cases failed; rfl)
  | ok result => exact failsByShape_ok _

end FailsByShape

/-- What is no document has not the expected shape. -/
theorem failsByShape_readHit (value : Json) : FailsByShape (readHit value) := by
  rw [readHit]
  split
  · split
    · exact failsByShape_ok _
    · exact failsByShape_ok _
    · exact failsByShape_ok _
    · exact failsByShape_invalidResponse _
  · exact failsByShape_invalidResponse _

/-- Neither has a list of which some item is no document. -/
theorem failsByShape_mapM_readHit (elements : List Json) :
    FailsByShape (elements.mapM readHit) := by
  induction elements with
  | nil => exact failsByShape_ok []
  | cons element rest ih =>
      rw [List.mapM_cons]
      exact (failsByShape_readHit element).bind fun hit =>
        ih.bind fun others => failsByShape_ok (hit :: others)

/-- Answers of success are refused for their shape alone. -/
theorem failsByShape_readSuccess (operation : Operation) (body : Json) :
    FailsByShape (readSuccess operation body) := by
  cases operation with
  | getMappings pattern =>
      cases body with
      | object members => exact failsByShape_ok _
      | _ => exact failsByShape_invalidResponse _
  | getById request =>
      rw [readSuccess, readDocument]
      split
      · exact failsByShape_ok _
      · exact (failsByShape_readHit body).map _
  | search search =>
      have listed : FailsByShape (readHits body) := by
        rw [readHits]
        split
        · exact failsByShape_mapM_readHit _
        · exact failsByShape_invalidResponse _
        · exact failsByShape_invalidResponse _
      have aggregated : FailsByShape (readAggregations body) := by
        rw [readAggregations]
        split
        · exact failsByShape_ok _
        · exact failsByShape_ok _
        · exact failsByShape_ok _
        · exact failsByShape_invalidResponse _
      exact listed.bind fun hits => aggregated.bind fun aggregations => failsByShape_ok _

namespace WebReply

/-- The value that the body writes, if it writes one. A body without bytes counts as `null`. -/
def value? (reply : WebReply) : Option Json :=
  if reply.body.isEmpty then some .null else (Json.read reply.body).toOption

/-- Whether the status is one of success. -/
theorem succeeded_iff (reply : WebReply) :
    reply.succeeded = true ↔ 200 ≤ reply.status ∧ reply.status ≤ 299 := by
  rw [succeeded, Bool.and_eq_true, decide_eq_true_eq, decide_eq_true_eq]

/-- A body has no bytes, writes a value, or is other text. The text is an error for a status
of success, and stands for the reason of an error for other statuses. -/
theorem body_cases (reply : WebReply) :
    (reply.body = [] ∧ reply.value? = some .null ∧ reply.json = .ok .null) ∨
      (∃ value, Json.read reply.body = .ok value ∧
        reply.value? = some value ∧ reply.json = .ok value) ∨
      (reply.value? = none ∧ ∃ text, reply.json =
        if reply.succeeded then .error (.of (.invalidResponse text))
        else .ok (.object [("error", .string (Text.trim (Text.decodeLossy reply.body)))])) := by
  simp only [value?, json]
  by_cases empty : reply.body.isEmpty = true
  · exact .inl ⟨List.isEmpty_iff.mp empty, if_pos empty, if_pos empty⟩
  · simp only [if_neg empty]
    cases read : Json.read reply.body with
    | ok value => exact .inr (.inl ⟨value, rfl, rfl, rfl⟩)
    | error error => exact .inr (.inr ⟨rfl, error.message, rfl⟩)

/-- The value of a body is read, whatever the status, and it has no key twice. -/
theorem json_of_value? (written : reply.value? = some body) :
    reply.json = .ok body ∧ body.Keyed := by
  obtain ⟨_, null, read⟩ | ⟨value, given, some, read⟩ | ⟨none, _⟩ := reply.body_cases
  · obtain rfl := Option.some.inj (null.symm.trans written)
    exact ⟨read, .null⟩
  · obtain rfl := Option.some.inj (some.symm.trans written)
    exact ⟨read, Json.keyed_of_read given⟩
  · cases none.symm.trans written

/-- The reply reports that there is no such document: it answers a request for a document
with status 404 and says that it was not found. -/
structure ReportsMissing (reply : WebReply) (operation : Operation) : Prop where
  getById : ∃ request, operation = .getById request
  status : reply.status = 404
  said : ∃ body, reply.value? = some body ∧ body.get? "found" = some (.bool false)

end WebReply

/-- A refusal has the status of the answer. -/
theorem exists_refusal (status : Nat) (body : Json) :
    ∃ type reason, refusal status body = .of (.queryFailed status type reason) := by
  rw [refusal]
  split <;> exact ⟨_, _, rfl⟩

/-- What becomes of an answer, by the first thing that is wrong with it. -/
inductive Verdict (operation : Operation) (reply : WebReply) : Except Error Response → Prop where
  | missing (reports : reply.ReportsMissing operation) :
      Verdict operation reply (.ok (.document none))
  | read {body : Json} (succeeded : reply.succeeded = true) (written : reply.value? = some body) :
      Verdict operation reply (readSuccess operation body)
  | unreadable (succeeded : reply.succeeded = true) (unwritten : reply.value? = none)
      (text : String) : Verdict operation reply (.error (.of (.invalidResponse text)))
  | refused {body : Json} (failed : reply.succeeded = false)
      (present : ¬ reply.ReportsMissing operation) (written : reply.value? = some body) :
      Verdict operation reply (.error (refusal reply.status body))
  | refusedInText (failed : reply.succeeded = false) (unwritten : reply.value? = none) :
      Verdict operation reply (.error (.of (.queryFailed reply.status none
        (some (Text.trim (Text.decodeLossy reply.body))))))

/-- An answer whose body is a value. A missing document is looked for before the status is
judged; no status of success is 404. -/
theorem verdict_of_value? (operation : Operation) (written : reply.value? = some body) :
    Verdict operation reply (readReply operation reply) := by
  have read := (reply.json_of_value? written).1
  have reported : saysMissing body = true ↔ body.get? "found" = some (.bool false) := beq_iff_eq
  by_cases reports : reply.ReportsMissing operation
  · obtain ⟨⟨request, rfl⟩, status, other, otherWritten, said⟩ := id reports
    obtain rfl := Option.some.inj (otherWritten.symm.trans written)
    have answer : readReply (.getById request) reply = .ok (.document none) := by
      simp [readReply, read, bind, Except.bind, status, reported.mpr said]
    exact answer ▸ .missing reports
  · cases succeeded : reply.succeeded with
    | true =>
        have found : reply.status ≠ 404 := by
          have range := reply.succeeded_iff.mp succeeded
          omega
        have answer : readReply operation reply = readSuccess operation body := by
          cases operation <;>
            simp [readReply, readSuccess, read, bind, Except.bind, succeeded, found]
        exact answer ▸ .read succeeded written
    | false =>
        have answer : readReply operation reply = .error (refusal reply.status body) := by
          cases operation with
          | getById request =>
              have unsaid : ¬ (reply.status = 404 ∧ saysMissing body = true) := fun both =>
                reports ⟨⟨request, rfl⟩, both.1, body, written, reported.mp both.2⟩
              simp [readReply, read, bind, Except.bind, succeeded, unsaid]
          | _ => simp [readReply, read, bind, Except.bind, succeeded]
        exact answer ▸ .refused succeeded reports written

/-- Every answer has a verdict. Text that is no value is refused like a value that holds the
text as its error. -/
theorem verdict (operation : Operation) (reply : WebReply) :
    Verdict operation reply (readReply operation reply) := by
  cases written : reply.value? with
  | some body => exact verdict_of_value? operation written
  | none =>
      obtain ⟨_, null, _⟩ | ⟨_, _, some, _⟩ | ⟨_, text, read⟩ := reply.body_cases
      · cases null.symm.trans written
      · cases some.symm.trans written
      · cases succeeded : reply.succeeded with
        | true =>
            have answer : readReply operation reply = .error (.of (.invalidResponse text)) := by
              simp [readReply, read, bind, Except.bind, succeeded]
            exact answer ▸ .unreadable succeeded written text
        | false =>
            have answer : readReply operation reply = .error (.of (.queryFailed reply.status none
                (some (Text.trim (Text.decodeLossy reply.body))))) := by
              cases operation <;>
                simp [readReply, read, bind, Except.bind, succeeded, saysMissing, refusal,
                  Json.get?, Entries.find?]
            exact answer ▸ .refusedInText succeeded written

namespace Verdict

variable {result : Except Error Response}

/-- A reply whose body is no value reports nothing. -/
theorem not_reportsMissing (unwritten : reply.value? = none) :
    ¬ reply.ReportsMissing operation := by
  rintro ⟨_, _, body, written, _⟩
  cases written.symm.trans unwritten

/-- A request is refused with the status of the answer unless it succeeded or a missing
document was reported. -/
theorem refused_iff (verdict : Verdict operation reply result) :
    (∃ type reason, result = .error (.of (.queryFailed reply.status type reason))) ↔
      reply.succeeded = false ∧ ¬ reply.ReportsMissing operation := by
  cases verdict with
  | missing reports =>
      constructor
      · rintro ⟨_, _, same⟩
        cases same
      · exact fun other => absurd reports other.2
  | @read body succeeded _ =>
      constructor
      · rintro ⟨_, _, same⟩
        obtain ⟨_, invalid⟩ := failsByShape_readSuccess operation body _ same
        cases invalid
      · exact fun other => absurd (succeeded.symm.trans other.1) Bool.noConfusion
  | unreadable succeeded _ _ =>
      constructor
      · rintro ⟨_, _, same⟩
        cases same
      · exact fun other => absurd (succeeded.symm.trans other.1) Bool.noConfusion
  | @refused body failed present _ =>
      obtain ⟨type, reason, refusal⟩ := exists_refusal reply.status body
      exact ⟨fun _ => ⟨failed, present⟩, fun _ => ⟨type, reason, refusal ▸ rfl⟩⟩
  | refusedInText failed unwritten =>
      exact ⟨fun _ => ⟨failed, not_reportsMissing unwritten⟩, fun _ => ⟨_, _, rfl⟩⟩

/-- A missing document that is reported is the answer. -/
theorem eq_of_reportsMissing (verdict : Verdict operation reply result)
    (reports : reply.ReportsMissing operation) : result = .ok (.document none) := by
  cases verdict with
  | missing => rfl
  | read succeeded =>
      have range := reply.succeeded_iff.mp succeeded
      have status := reports.status
      omega
  | unreadable _ unwritten => exact absurd reports (not_reportsMissing unwritten)
  | refused _ present => exact absurd reports present
  | refusedInText _ unwritten => exact absurd reports (not_reportsMissing unwritten)

/-- With a status of success, exactly the well-formed bodies are accepted. -/
theorem accepted_iff (verdict : Verdict operation reply result) (succeeded : reply.succeeded = true)
    (response : Response) : result = .ok response ↔
      ∃ body, reply.value? = some body ∧ WellFormed body operation response := by
  cases verdict with
  | missing reports =>
      have range := reply.succeeded_iff.mp succeeded
      have status := reports.status
      omega
  | @read body _ written =>
      rw [readSuccess_eq_ok_iff (reply.json_of_value? written).2, written]
      simp
  | unreadable _ unwritten _ => simp [unwritten]
  | refused failed => cases succeeded.symm.trans failed
  | refusedInText failed => cases succeeded.symm.trans failed

/-- With a status of success, what is not accepted is invalid. -/
theorem invalid_of_not_accepted (verdict : Verdict operation reply result)
    (succeeded : reply.succeeded = true) (unaccepted : ∀ response, result ≠ .ok response) :
    ∃ text, result = .error (.of (.invalidResponse text)) := by
  cases verdict with
  | missing => exact absurd rfl (unaccepted _)
  | @read body =>
      cases read : readSuccess operation body with
      | ok response => exact absurd read (unaccepted response)
      | error error =>
          obtain ⟨text, rfl⟩ := failsByShape_readSuccess operation body error read
          exact ⟨text, rfl⟩
  | unreadable _ _ text => exact ⟨text, rfl⟩
  | refused failed => cases succeeded.symm.trans failed
  | refusedInText failed => cases succeeded.symm.trans failed

/-- Without success, text that is no value is the reason. -/
theorem refused_of_text (verdict : Verdict operation reply result)
    (failed : reply.succeeded = false) (unwritten : reply.value? = none) :
    result = .error (.of (.queryFailed reply.status none
      (some (Text.trim (Text.decodeLossy reply.body))))) := by
  cases verdict with
  | missing reports => exact absurd reports (not_reportsMissing unwritten)
  | read succeeded => cases succeeded.symm.trans failed
  | unreadable succeeded => cases succeeded.symm.trans failed
  | refused _ _ written => cases written.symm.trans unwritten
  | refusedInText => rfl

/-- Without success and without bytes there is no reason. -/
theorem refused_of_nothing (verdict : Verdict operation reply result)
    (failed : reply.succeeded = false) (nothing : reply.body = []) :
    result = .error (.of (.queryFailed reply.status none none)) := by
  have null : reply.value? = some .null := by
    rw [WebReply.value?, nothing]
    rfl
  cases verdict with
  | missing reports =>
      obtain ⟨_, _, body, written, said⟩ := reports
      obtain rfl := Option.some.inj (null.symm.trans written)
      cases said
  | read succeeded => cases succeeded.symm.trans failed
  | unreadable succeeded => cases succeeded.symm.trans failed
  | refused _ _ written =>
      obtain rfl := Option.some.inj (null.symm.trans written)
      rfl
  | refusedInText _ unwritten => cases null.symm.trans unwritten

end Verdict

/-- How answers are classified. The request is refused with the status of the answer exactly
if this is none of success, unless the answer reports that a document is missing; then there
is none. With a status of success exactly the well-formed bodies are accepted, as the
response that they give, and all others are invalid. With another status, a body that is no
value is the reason of the refusal, without the white space around it; a body without bytes
is no reason. -/
theorem answers_are_classified (operation : Operation) (reply : WebReply) :
    ((∃ type reason, respond operation (.ok reply) =
        .error (.of (.queryFailed reply.status type reason))) ↔
      ¬ (200 ≤ reply.status ∧ reply.status ≤ 299) ∧ ¬ reply.ReportsMissing operation) ∧
    (reply.ReportsMissing operation → respond operation (.ok reply) = .ok (.document none)) ∧
    (200 ≤ reply.status ∧ reply.status ≤ 299 →
      (∀ response, respond operation (.ok reply) = .ok response ↔
        ∃ body, reply.value? = some body ∧ WellFormed body operation response) ∧
      ((∀ body response, reply.value? = some body → ¬ WellFormed body operation response) →
        ∃ text, respond operation (.ok reply) = .error (.of (.invalidResponse text)))) ∧
    (¬ (200 ≤ reply.status ∧ reply.status ≤ 299) →
      (reply.value? = none → respond operation (.ok reply) =
        .error (.of (.queryFailed reply.status none
          (some (Text.trim (Text.decodeLossy reply.body)))))) ∧
      (reply.body = [] → respond operation (.ok reply) =
        .error (.of (.queryFailed reply.status none none)))) := by
  have decided : Verdict operation reply (respond operation (.ok reply)) :=
    verdict operation reply
  rw [← reply.succeeded_iff, Bool.not_eq_true]
  refine ⟨decided.refused_iff, decided.eq_of_reportsMissing,
    fun succeeded => ⟨decided.accepted_iff succeeded, fun illFormed => ?_⟩,
    fun failed => ⟨decided.refused_of_text failed, decided.refused_of_nothing failed⟩⟩
  refine decided.invalid_of_not_accepted succeeded fun response accepted => ?_
  obtain ⟨body, written, formed⟩ := (decided.accepted_iff succeeded response).mp accepted
  exact illFormed body response written formed

/-- A search whose second document has no source, and one whose second document has no id;
a document that is missing; and the text of something between the cluster and its client. -/
theorem answers_of_the_cluster_are_classified :
    let search := Operation.search ⟨"logs", .matchAll, 10, .all, []⟩
    let page := fun second : String => Text.bytes
      ("\x7b\"hits\":\x7b\"hits\":[\x7b\"_id\":\"1\",\"_source\":\x7b\"level\":3\x7d\x7d," ++
        "\x7b\"_id\":" ++ second ++ "\x7d]\x7d\x7d")
    let first : Hit := ⟨"1", .ofList [("level", .ofNat 3)]⟩
    respond search (.ok ⟨200, page "\"2\""⟩) = .ok (.hits ⟨[first, ⟨"2", .empty⟩], .empty⟩) ∧
      (∃ text, respond search (.ok ⟨200, page "2"⟩) = .error (.of (.invalidResponse text))) ∧
      respond (.getById ⟨"logs", "1", .all⟩)
        (.ok ⟨404, Text.bytes "\x7b\"found\":false\x7d"⟩) = .ok (.document none) ∧
      respond search (.ok ⟨502, Text.bytes "502 Bad Gateway\n"⟩) =
        .error (.of (.queryFailed 502 none (some "502 Bad Gateway"))) := by
  intro search page first
  have listedValue : WebReply.value? ⟨200, page "\"2\""⟩ = some (.object [("hits", .object [("hits",
      .array [.object [("_id", .string "1"), ("_source", .object [("level", .ofNat 3)])],
        .object [("_id", .string "2")]])])]) := by decide +kernel
  have spoiltValue : WebReply.value? ⟨200, page "2"⟩ = some (.object [("hits", .object [("hits",
      .array [.object [("_id", .string "1"), ("_source", .object [("level", .ofNat 3)])],
        .object [("_id", .ofNat 2)]])])]) := by decide +kernel
  have reports : WebReply.ReportsMissing ⟨404, Text.bytes "\x7b\"found\":false\x7d"⟩
      (.getById ⟨"logs", "1", .all⟩) :=
    ⟨⟨_, rfl⟩, rfl, .object [("found", .bool false)], by decide +kernel, by decide⟩
  refine ⟨?listed, ?spoilt, (answers_are_classified _ _).2.1 reports, ?text⟩
  case listed =>
    refine (((answers_are_classified search ⟨200, page "\"2\""⟩).2.2.1 (by decide)).1 _).mpr
      ⟨_, listedValue, .hits rfl ?_ .absent⟩
    exact .cons ⟨rfl, .object (.ofList [("level", .ofNat 3)])⟩ (.cons ⟨rfl, .absent⟩ .nil)
  case spoilt =>
    refine ((answers_are_classified search ⟨200, page "2"⟩).2.2.1 (by decide)).2 ?_
    intro body response written formed
    obtain rfl := Option.some.inj (spoiltValue.symm.trans written)
    change WellFormed _ (.search ⟨"logs", .matchAll, 10, .all, []⟩) response at formed
    cases formed with
    | hits found documents _ =>
        cases found
        cases documents with
        | cons _ others =>
            cases others with
            | cons unnamed _ => cases unnamed.id
  case text =>
    have unwritten : WebReply.value? ⟨502, Text.bytes "502 Bad Gateway\n"⟩ = none := by
      decide +kernel
    exact (((answers_are_classified search _).2.2.2 (by decide)).1 unwritten).trans
      (by decide +kernel)

/-- No bytes are no JSON, and yet the text that they make is no reason. -/
theorem text_of_empty_answer_is_no_reason :
    let reply : WebReply := ⟨502, []⟩
    ¬ (200 ≤ reply.status ∧ reply.status ≤ 299) ∧
      (∀ value, Json.read reply.body ≠ .ok value) ∧
      respond (.getMappings "*") (.ok reply) ≠ .error (.of (.queryFailed reply.status none
        (some (Text.trim (Text.decodeLossy reply.body))))) := by
  refine ⟨by decide, ?_, ?_⟩
  · intro value read
    have unread : (Json.read []).toOption = none := by decide +kernel
    rw [show Json.read [] = .ok value from read] at unread
    cases unread
  · intro same
    have reasonless : respond (.getMappings "*") (.ok ⟨502, []⟩) =
        .error (.of (.queryFailed 502 none none)) := rfl
    cases reasonless.symm.trans same

end DocQuery.Cluster

import Telemetry.Proofs.Tracking.Queued

set_option autoImplicit false

namespace Telemetry

open Delivery (Emitter)
open Store (Database)

namespace Json

mutual

/-- Whether the members of every object are in ascending key order. -/
def IsSorted : Json → Prop
  | .array items => ItemsSorted items
  | .object members => Dictionary.Ascending members ∧ MembersSorted members
  | _ => True

def ItemsSorted : List Json → Prop
  | [] => True
  | item :: rest => IsSorted item ∧ ItemsSorted rest

def MembersSorted : List (String × Json) → Prop
  | [] => True
  | (_, value) :: rest => IsSorted value ∧ MembersSorted rest

end

end Json

namespace SelfDescribing

/-- The text of an event that is an entity, with the schema and the data of the entity. -/
def unstructuredText (entity : SelfDescribing) : String :=
  "\x7b\"data\":\x7b\"data\":" ++ entity.data.text ++ ",\"schema\":" ++
    (Json.string entity.schema).text ++ "\x7d,\"schema\":" ++
      "\"iglu:com.snowplowanalytics.snowplow/unstruct_event/jsonschema/1-0-0\"\x7d"

theorem text_unstructured (entity : SelfDescribing) :
    entity.unstructured.text = entity.unstructuredText := by
  have opening : "\x7b\"data\":\x7b\"data\":".toList =
      '{' :: (Json.quoted "data".toList ++ ':' :: '{' :: (Json.quoted "data".toList ++ [':'])) := by
    decide
  have inner : ",\"schema\":".toList = ',' :: (Json.quoted "schema".toList ++ [':']) := by decide
  have outer : "\x7d,\"schema\":".toList = '}' :: ',' :: (Json.quoted "schema".toList ++ [':']) := by
    decide
  have closing : "\"iglu:com.snowplowanalytics.snowplow/unstruct_event/jsonschema/1-0-0\"\x7d".toList =
      Json.quoted Protocol.unstructuredSchema.toList ++ ['}'] := by decide +kernel
  refine String.toList_inj.1 ?_
  unfold unstructuredText
  rw [String.toList_append, String.toList_append, String.toList_append, String.toList_append,
    String.toList_append, opening, inner, outer, closing]
  simp only [text, json, unstructured, Json.text, Json.chars, Json.membersChars, String.toList_ofList,
    List.append_assoc, List.cons_append, List.nil_append]

theorem json_sorted {entity : SelfDescribing} (h : entity.data.IsSorted) : entity.json.IsSorted :=
  ⟨Dictionary.ascending_of_keys ["data", "schema"] rfl (by decide), h, trivial, trivial⟩

end SelfDescribing

namespace EventBody

/-- The entity of an event is sorted, if the data that a caller gave is. -/
theorem entity_sorted {body : EventBody} {entity : SelfDescribing} (h : entity ∈ body.entity?)
    (given : ∀ given, body = .selfDescribing given → given.data.IsSorted) :
    entity.unstructured.json.IsSorted := by
  refine SelfDescribing.json_sorted (SelfDescribing.json_sorted ?_)
  cases body with
  | structured | custom => cases h
  | screenView name id =>
    cases h
    refine ⟨screenView_ascending name id, ?_⟩
    cases name <;> cases id <;> simp [optionalMember, Json.IsSorted, Json.MembersSorted]
  | timing category variableName milliseconds label =>
    cases h
    constructor
    · refine Dictionary.ascending_of_keys _ rfl ?_
      rw [List.map_cons, List.map_append, optionalMember_keys]
      change ("category" :: (_ ++ ["timing", "variable"])).Pairwise (· < ·)
      cases label.isSome <;> decide
    · cases label <;> simp [optionalMember, Json.nat, Json.IsSorted, Json.MembersSorted]
  | selfDescribing entity =>
    cases h
    exact given entity rfl

end EventBody

namespace Payload

/-- Two payloads that hold the same text or none, the second in base64 and under a key of its own. -/
structure Encodes (plain encoded : Payload) (encodedKey plainKey : String) : Prop where
  plain_none : plain.get? encodedKey = none
  encoded_none : encoded.get? plainKey = none
  isSome_iff : (plain.get? plainKey).isSome ↔ (encoded.get? encodedKey).isSome
  decodes : ∀ text code, plain.get? plainKey = some text → encoded.get? encodedKey = some code →
    Text.Base64.decode? code.toList = some (Text.Utf8.encode text.toList)

theorem encodes_of_entity {plain encoded : Payload} {entity : Option SelfDescribing}
    {encodedKey plainKey : String} (named : encodedKey ≠ "" ∧ plainKey ≠ "")
    (apart : encodedKey ≠ plainKey)
    (hplain : ∀ key ∈ [encodedKey, plainKey], plain.get? key =
      setValue? key (entityParameter entity false encodedKey plainKey))
    (hencoded : ∀ key ∈ [encodedKey, plainKey], encoded.get? key =
      setValue? key (entityParameter entity true encodedKey plainKey)) :
    plain.Encodes encoded encodedKey plainKey := by
  have text : plain.get? plainKey = entity.map SelfDescribing.text := by
    rw [hplain _ (by simp)]
    exact setValue?_entityParameter entity false named
  have code : encoded.get? encodedKey =
      entity.map fun entity => Text.Base64.encodeText entity.text := by
    rw [hencoded _ (by simp)]
    exact setValue?_entityParameter entity true named
  constructor
  case plain_none =>
    rw [hplain _ (by simp)]
    exact setValue?_entityParameter_other apart
  case encoded_none =>
    rw [hencoded _ (by simp)]
    exact setValue?_entityParameter_other apart.symm
  case isSome_iff => rw [text, code, Option.isSome_map, Option.isSome_map]
  case decodes =>
    rintro _ _ htext hcode
    rw [text] at htext
    rw [code] at hcode
    obtain ⟨entity, rfl, rfl⟩ := Option.map_eq_some_iff.1 htext
    -- Injectivity by name: `cases` would evaluate the codec.
    rw [← Option.some.inj hcode]
    exact Text.Base64.decode?_encodeText entity.text

end Payload

namespace Event

variable {event : Event} (known : event.body.isBuiltIn) (base64 : Bool) (id : String) (clock : Nat)
  {key : String}

include known

theorem setValue?_parameters_unstructured
    (listed : key ∈ [Protocol.unstructuredEncodedKey, Protocol.unstructuredKey]) :
    setValue? key (event.parameters base64 id clock) =
      setValue? key (entityParameter (event.body.entity?.map SelfDescribing.unstructured) base64
        Protocol.unstructuredEncodedKey Protocol.unstructuredKey) := by
  have apart : key ∉ [Protocol.eventIdKey, Protocol.deviceTimeKey] ∧ key ∉ EventBody.keys ∧
      key ∉ [Protocol.trueTimeKey] := by
    revert key
    decide
  have first : setValue? key
      [(Protocol.eventIdKey, id), (Protocol.deviceTimeKey, Decimal.natText clock)] = none :=
    setValue?_eq_none apart.1
  have type : setValue? key event.body.typeParameters = none :=
    setValue?_eq_none fun h => apart.2.1 ((EventBody.typeParameters_keys known).subset h)
  have last : setValue? key (optionalParameter Protocol.trueTimeKey
      (event.trueTimestamp.map Decimal.natText)) = none :=
    setValue?_eq_none fun h => apart.2.2 ((optionalParameter_keys ..).subset h)
  rw [parameters, setValue?_append, setValue?_append, EventBody.parameters, setValue?_append, first,
    type, last, Option.none_or, Option.none_or, Option.or_none]

omit known in
theorem setValue?_parameters_other
    (other : key ∉ [Protocol.unstructuredEncodedKey, Protocol.unstructuredKey]) :
    setValue? key (event.parameters base64 id clock) =
      setValue? key (event.parameters false id clock) := by
  have none (base64 : Bool) : setValue? key (entityParameter
      (event.body.entity?.map SelfDescribing.unstructured) base64 Protocol.unstructuredEncodedKey
        Protocol.unstructuredKey) = none := by
    simp only [List.mem_cons, List.not_mem_nil, or_false, not_or] at other
    refine setValue?_entityParameter_other ?_
    cases base64
    · exact other.2
    · exact other.1
  simp only [parameters, EventBody.parameters, setValue?_append, none]

end Event

namespace Tracker

def encoding (tracker : Tracker) (base64 : Bool) : Tracker :=
  { tracker with settings := { tracker.settings with base64 } }

/-- Two payloads of an event that tell the same, the second one in base64. -/
structure Recodes (body : EventBody) (plain encoded : Payload) : Prop where
  unstructured :
    plain.Encodes encoded Protocol.unstructuredEncodedKey Protocol.unstructuredKey
  contexts : plain.Encodes encoded Protocol.contextsEncodedKey Protocol.contextsKey
  others : ∀ key, key ∉ [Protocol.unstructuredEncodedKey, Protocol.unstructuredKey,
    Protocol.contextsEncodedKey, Protocol.contextsKey] → encoded.get? key = plain.get? key
  text : plain.get? Protocol.unstructuredKey =
    body.entity?.map SelfDescribing.unstructuredText

section

variable {tracker : Tracker} {event : Event} (known : event.body.isBuiltIn)
  (own : ∀ s ∈ event.subject, s.IsMade) (general : ∀ s ∈ tracker.subject, s.IsMade)
  (moment : Moment) (sessions : List SelfDescribing)

include known own general

theorem get?_parameters_unstructured {key : String}
    (listed : key ∈ [Protocol.unstructuredEncodedKey, Protocol.unstructuredKey]) :
    (Payload.ofPairs (tracker.parameters moment event sessions)).get? key =
      setValue? key (entityParameter (event.body.entity?.map SelfDescribing.unstructured)
        tracker.settings.base64 Protocol.unstructuredEncodedKey Protocol.unstructuredKey) := by
  have apart : key ∉ [Protocol.contextsEncodedKey, Protocol.contextsKey] ∧ key ∉ Subject.keys ∧
      key ∉ TrackerSettings.keys := by
    revert key
    decide
  rw [get?_parameters_other known own general moment sessions apart.1,
    Subject.value?_eq_none own apart.2.1, Subject.value?_eq_none general apart.2.1,
    TrackerSettings.setValue?_parameters_eq_none apart.2.2,
    Event.setValue?_parameters_unstructured known _ _ _ listed, Option.none_or, Option.none_or,
    Option.none_or]

theorem recodes_parameters :
    Recodes event.body (.ofPairs ((tracker.encoding false).parameters moment event sessions))
      (.ofPairs ((tracker.encoding true).parameters moment event sessions)) := by
  have general (base64 : Bool) : ∀ s ∈ (tracker.encoding base64).subject, s.IsMade := general
  constructor
  case unstructured =>
    exact Payload.encodes_of_entity (by decide) (by decide)
      (fun _ => get?_parameters_unstructured known own (general false) moment sessions)
      (fun _ => get?_parameters_unstructured known own (general true) moment sessions)
  case contexts =>
    exact Payload.encodes_of_entity (by decide) (by decide)
      (fun _ => get?_parameters_contexts known own (general false) moment sessions)
      (fun _ => get?_parameters_contexts known own (general true) moment sessions)
  case others =>
    intro key other
    simp only [List.mem_cons, not_or] at other
    rw [get?_parameters_other known own (general true) moment sessions (by simp [other]),
      get?_parameters_other known own (general false) moment sessions (by simp [other]),
      Event.setValue?_parameters_other _ _ _ (by simp [other]),
      Event.setValue?_parameters_other (tracker.encoding false).settings.base64 _ _
        (by simp [other])]
    rfl
  case text =>
    rw [get?_parameters_unstructured known own (general false) moment sessions (by decide)]
    refine (setValue?_entityParameter _ false (by decide)).trans ?_
    rw [Option.map_map]
    exact congrFun (congrArg _ (funext SelfDescribing.text_unstructured)) _

end

inductive Agree (event : Event) (db : Database) : Tracked → Tracked → Prop
  | fails (cause : TrackerError) (tracker : Tracker) (emitter : Emitter) (after : Database) :
      Agree event db ⟨.error cause, tracker, emitter, after⟩
        ⟨.error cause, tracker.encoding true, emitter, after⟩
  | queues (id : String) (tracker : Tracker) (emitter : Emitter) {plain encoded : Payload}
      (recodes : Recodes event.body plain encoded) {after other : Database}
      (session : other.session = after.session) (rows : after.rows = db.rows ++ [db.nextRow plain])
      (others : other.rows = db.rows ++ [db.nextRow encoded]) :
      Agree event db ⟨.ok id, tracker, emitter, after⟩
        ⟨.ok id, tracker.encoding true, emitter, other⟩

theorem visit_encoding (tracker : Tracker) (base64 : Bool) (moment : Moment) (db : Database) :
    (tracker.encoding base64).visit moment db =
      ((tracker.visit moment db).1, (tracker.visit moment db).2.1.encoding base64,
        (tracker.visit moment db).2.2) := by
  obtain ⟨settings, subject, session⟩ := tracker
  cases session <;> rfl

/-- Base64 changes the encoding and nothing else. -/
theorem track_encoding (tracker : Tracker) (emitter : Emitter) (moment : Moment) (event : Event)
    (db : Database) (known : event.body.isBuiltIn) (own : ∀ s ∈ event.subject, s.IsMade)
    (general : ∀ s ∈ tracker.subject, s.IsMade) :
    Agree event db ((tracker.encoding false).track emitter moment event db)
        ((tracker.encoding true).track emitter moment event db) ∧
      ∀ entity ∈ event.body.entity?,
        entity.unstructured.json.text = entity.unstructuredText ∧
          ((∀ given, event.body = .selfDescribing given → given.data.IsSorted) →
            entity.unstructured.json.IsSorted) := by
  refine ⟨?_, fun entity h => ⟨entity.text_unstructured, EventBody.entity_sorted h⟩⟩
  rw [track_eq _ moment known, track_eq _ moment known, visit_encoding, visit_encoding]
  cases event.body.lacks? with
  | some cause => exact .fails (.invalidArgument cause) (tracker.encoding false) emitter db
  | none =>
    rcases visited : tracker.visit moment db with ⟨result, after, later⟩
    cases result with
    | error cause => exact .fails cause (after.encoding false) emitter later
    | ok sessions =>
      obtain ⟨-, -, same⟩ := visit_ok visited
      rcases add_cases emitter later with ⟨-, fails⟩ | adds
      · simp only [fails]
        exact .fails (.storage .database) (after.encoding false) emitter later
      · obtain ⟨plain, added, session, rows⟩ :=
          adds (.ofPairs ((tracker.encoding false).parameters moment event sessions))
        obtain ⟨encoded, others, session', rows'⟩ :=
          adds (.ofPairs ((tracker.encoding true).parameters moment event sessions))
        simp only [added, others]
        -- The session is written beside the queue, so both rows follow those of `db`.
        rw [Database.nextRow, Database.rows_of_events same] at rows rows'
        exact .queues moment.freshEvent (after.encoding false) emitter.wake
          (recodes_parameters known own general moment sessions) (session'.trans session.symm) rows
          rows'

def loading : Event where
  body := .timing "page" "load" 123 (some "é")

theorem track_encoding_loading :
    loading.body.isBuiltIn ∧ (∀ s ∈ loading.subject, s.IsMade) ∧ (∀ s ∈ shop.subject, s.IsMade) ∧
    ∃ plain encoded : Payload,
      ((shop.encoding false).track idleEmitter noon loading .empty).db.rows =
        [Database.empty.nextRow plain] ∧
      ((shop.encoding true).track idleEmitter noon loading .empty).db.rows =
        [Database.empty.nextRow encoded] ∧
      Recodes loading.body plain encoded ∧
      plain.get? "ue_pr" = some ("\x7b\"data\":\x7b\"data\":\x7b\"category\":\"page\",\"label\":\"é\"," ++
        "\"timing\":123,\"variable\":\"load\"\x7d,\"schema\":" ++
        "\"iglu:com.snowplowanalytics.snowplow/timing/jsonschema/1-0-0\"\x7d,\"schema\":" ++
        "\"iglu:com.snowplowanalytics.snowplow/unstruct_event/jsonschema/1-0-0\"\x7d") := by
  have own : ∀ s ∈ loading.subject, s.IsMade := nofun
  obtain ⟨agree, -⟩ := track_encoding shop idleEmitter noon loading .empty rfl own shop_subject
  obtain ⟨id, ok⟩ : ∃ id,
      ((shop.encoding false).track idleEmitter noon loading .empty).result = .ok id :=
    track_isOk rfl (by decide) rfl shop_ready
  generalize (shop.encoding false).track idleEmitter noon loading .empty = tracked,
    (shop.encoding true).track idleEmitter noon loading .empty = other at agree ok ⊢
  cases agree with
  | fails => cases ok
  | @queues _ _ _ plain encoded recodes _ _ _ rows others =>
    refine ⟨rfl, own, shop_subject, plain, encoded, rows, others, recodes, recodes.text.trans ?_⟩
    decide +kernel

end Tracker

end Telemetry

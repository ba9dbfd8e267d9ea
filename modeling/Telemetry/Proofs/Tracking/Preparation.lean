import Telemetry.Proofs.Text.Base64
import Telemetry.Proofs.Tracking.Parameters

set_option autoImplicit false

namespace Telemetry

open Decimal (natText)
open Delivery (Emitter)
open Dictionary (lookup?)
open Store (Database)

/-- An entity as a parameter, if there is one: its base64 text under one key, or its text under the other. -/
def entityParameter (entity : Option SelfDescribing) (base64 : Bool) (encodedKey plainKey : String) :
    List (String × String) :=
  (entity.map fun entity =>
    if base64 then (encodedKey, Text.Base64.encodeText entity.text)
    else (plainKey, entity.text)).toList

def optionalParameter (key : String) (value : Option String) : List (String × String) :=
  (value.map fun value => (key, value)).toList

def SelfDescribing.unstructured (entity : SelfDescribing) : SelfDescribing :=
  ⟨Protocol.unstructuredSchema, entity.json⟩

namespace EventBody

/-- The types of events that a tracker knows. -/
def isBuiltIn : EventBody → Bool
  | .custom _ => false
  | _ => true

/-- What an event of these types has to have, and lacks. -/
def lacks? : EventBody → Option ArgumentError
  | .structured category action _ _ _ =>
    if category = "" then some .missingCategory
    else if action = "" then some .missingAction
    else none
  | .screenView none none => some .missingNameAndId
  | .timing category variableName _ _ =>
    if category = "" then some .missingCategory
    else if variableName = "" then some .missingVariable
    else none
  | _ => none

/-- The entity that an event is, with the members of its data in ascending order. -/
def entity? : EventBody → Option SelfDescribing
  | .screenView name id =>
    some ⟨Protocol.screenViewSchema, .object (optionalMember "id" id ++ optionalMember "name" name)⟩
  | .timing category variableName milliseconds label =>
    some ⟨Protocol.timingSchema, .object (("category", .string category) ::
      (optionalMember "label" label ++
        [("timing", Json.nat milliseconds), ("variable", .string variableName)]))⟩
  | .selfDescribing entity => some entity
  | _ => none

/-- The parameters that tell the type of an event, and those of an event that is no entity. -/
def typeParameters : EventBody → List (String × String)
  | .structured category action label property value =>
    [(Protocol.eventTypeKey, Protocol.structuredType), (Protocol.categoryKey, category),
      (Protocol.actionKey, action)] ++ optionalParameter Protocol.labelKey label ++
      optionalParameter Protocol.propertyKey property ++
      optionalParameter Protocol.valueKey
        (value.map fun value => String.ofList (value.fixedText valuePlaces))
  | .custom fields => fields
  | _ => [(Protocol.eventTypeKey, Protocol.unstructuredType)]

def parameters (base64 : Bool) (body : EventBody) : List (String × String) :=
  body.typeParameters ++ entityParameter (body.entity?.map SelfDescribing.unstructured) base64
    Protocol.unstructuredEncodedKey Protocol.unstructuredKey

end EventBody

namespace Event

/-- The parameters of an event: its identifier, its time, those of its type and its true time. -/
def parameters (event : Event) (base64 : Bool) (id : String) (clock : Nat) : List (String × String) :=
  [(Protocol.eventIdKey, id), (Protocol.deviceTimeKey, natText clock)] ++
    event.body.parameters base64 ++
      optionalParameter Protocol.trueTimeKey (event.trueTimestamp.map natText)

end Event

namespace EventPayload

def made (pairs : List (String × String)) (id : String) (clock : Nat) : EventPayload :=
  ⟨Payload.ofPairs pairs, id, clock⟩

variable {pairs : List (String × String)} {id : String} {clock : Nat}

theorem new_eq_made (id : String) (clock : Nat) : new id clock =
    made [(Protocol.eventIdKey, id), (Protocol.deviceTimeKey, natText clock)] id clock := rfl

@[simp] theorem addAll_made (more : List (String × String)) :
    (made pairs id clock).addAll more = made (pairs ++ more) id clock := by
  unfold made
  rw [Payload.ofPairs_append]
  rfl

@[simp] theorem add_made (key value : String) :
    (made pairs id clock).add key value = made (pairs ++ [(key, value)]) id clock :=
  addAll_made [(key, value)]

@[simp] theorem addOption_made (key : String) (value : Option String) :
    (made pairs id clock).addOption key value =
      made (pairs ++ optionalParameter key value) id clock := by
  cases value with
  | none => rw [optionalParameter, Option.map_none, Option.toList_none, List.append_nil]; rfl
  | some value => exact add_made key value

@[simp] theorem addJson_made (entity : SelfDescribing) (base64 : Bool)
    (encodedKey plainKey : String) :
    (made pairs id clock).addJson entity.json base64 encodedKey plainKey =
      made (pairs ++ entityParameter (some entity) base64 encodedKey plainKey) id clock := by
  cases base64 with
  | true => exact add_made encodedKey _
  | false => exact add_made plainKey _

@[simp] theorem merge_made (other : Payload) :
    (made pairs id clock).merge other = made (pairs ++ other.entries) id clock :=
  addAll_made other.entries

@[simp] theorem ofEntity_made (entity : SelfDescribing) (base64 : Bool) :
    (made pairs id clock).ofEntity entity base64 =
      made (pairs ++ (Protocol.eventTypeKey, Protocol.unstructuredType) ::
        entityParameter (some entity.unstructured) base64 Protocol.unstructuredEncodedKey
          Protocol.unstructuredKey) id clock := by
  rw [ofEntity, add_made, addJson_made, List.append_assoc]
  rfl

end EventPayload

theorem optionalMember_keys (key : String) (value : Option String) :
    (optionalMember key value).map (·.1) = if value.isSome then [key] else [] := by
  cases value <;> rfl

theorem screenView_ascending (name id : Option String) :
    Dictionary.Ascending (optionalMember "id" id ++ optionalMember "name" name) := by
  refine Dictionary.ascending_of_keys _ rfl ?_
  rw [List.map_append, optionalMember_keys, optionalMember_keys]
  cases id.isSome <;> cases name.isSome <;> decide

theorem ofMembers_timing (category variableName : String) (milliseconds : Nat) (label : Option String) :
    Json.ofMembers ([("category", .string category), ("variable", .string variableName),
        ("timing", Json.nat milliseconds)] ++ optionalMember "label" label) =
      .object (("category", .string category) :: (optionalMember "label" label ++
        [("timing", Json.nat milliseconds), ("variable", .string variableName)])) := by
  have order : ("category" : String) < "label" ∧ ("label" : String) < "timing" ∧
      ("timing" : String) < "variable" := by decide
  have apart : ¬("variable" : String) < "category" ∧ ("variable" : String) ≠ "category" ∧
      ¬("timing" : String) < "category" ∧ ("timing" : String) ≠ "category" ∧
      ¬("label" : String) < "category" ∧ ("label" : String) ≠ "category" := by decide
  cases label <;>
    simp only [optionalMember, Json.ofMembers, Dictionary.ofList, Dictionary.insert,
      Dictionary.insertEntry, Dictionary.empty, List.foldl_cons, List.foldl_nil, List.cons_append,
      List.nil_append, order, apart, if_true, if_false]

namespace EventBody

theorem payload_made (body : EventBody) (base64 : Bool) (pairs : List (String × String)) (id : String)
    (clock : Nat) :
    body.payload base64 (.made pairs id clock) =
      match body.lacks? with
      | some cause => .error cause
      | none => .ok (.made (pairs ++ body.parameters base64) id clock) := by
  unfold parameters
  cases body with
  | structured category action label property value =>
    simp only [payload, lacks?, String.isEmpty_iff]
    split_ifs
    · rfl
    · rfl
    · simp [typeParameters, entity?, entityParameter]
  | screenView name id =>
    have data : Json.ofMembers (optionalMember "id" id ++ optionalMember "name" name) =
        .object (optionalMember "id" id ++ optionalMember "name" name) :=
      congrArg Json.object (Dictionary.ofList_ascending (screenView_ascending name id))
    cases name <;> cases id <;> simp [payload, lacks?, typeParameters, entity?, data]
  | timing category variableName milliseconds label =>
    simp only [payload, lacks?, String.isEmpty_iff, ofMembers_timing]
    split_ifs
    · rfl
    · rfl
    · simp [typeParameters, entity?]
  | selfDescribing entity => simp [payload, lacks?, typeParameters, entity?]
  | custom fields => simp [payload, lacks?, typeParameters, entity?, entityParameter]

theorem eventType_mem {body : EventBody} (known : body.isBuiltIn) :
    ∃ type, type ≠ "" ∧ (Protocol.eventTypeKey, type) ∈ body.typeParameters := by
  cases body with
  | structured => exact ⟨Protocol.structuredType, by decide, by simp [typeParameters]⟩
  | screenView | timing | selfDescribing =>
    exact ⟨Protocol.unstructuredType, by decide, List.mem_singleton_self _⟩
  | custom => cases known

end EventBody

theorem Event.payload_ok {event : Event} {base64 : Bool} {id : String} {clock : Nat}
    {payload : EventPayload} (h : event.payload base64 (EventPayload.new id clock) = .ok payload) :
    payload = .made (event.parameters base64 id clock) id clock := by
  rw [Event.payload, EventPayload.new_eq_made, event.body.payload_made] at h
  cases lacks : event.body.lacks? with
  | some cause =>
    rw [lacks] at h
    cases h
  | none =>
    simp only [lacks, EventPayload.addOption_made] at h
    split at h
    · cases h
    · cases h
      rfl

/-- An event of a known type is refused for what it lacks, and for nothing else. -/
theorem Event.payload_made {event : Event} (known : event.body.isBuiltIn) (base64 : Bool)
    (id : String) (clock : Nat) :
    event.payload base64 (EventPayload.new id clock) =
      match event.body.lacks? with
      | some cause => .error cause
      | none => .ok (.made (event.parameters base64 id clock) id clock) := by
  rw [payload, EventPayload.new_eq_made, event.body.payload_made]
  cases event.body.lacks? with
  | some cause => rfl
  | none =>
    obtain ⟨type, filled, listed⟩ := EventBody.eventType_mem known
    let pairs := [(Protocol.eventIdKey, id), (Protocol.deviceTimeKey, natText clock)] ++
      event.body.parameters base64
    have listed : (Protocol.eventTypeKey, type) ∈ pairs.reverse :=
      List.mem_reverse.2 (List.mem_append_right _ (List.mem_append_left _ listed))
    have typed : (Payload.ofPairs pairs).get? Protocol.eventTypeKey ≠ none := by
      rw [Payload.get?_ofPairs]
      exact setValue?_ne_none listed (by decide) filled
    obtain ⟨type, found⟩ := Option.ne_none_iff_exists'.1 typed
    simp only [EventPayload.made, pairs] at found ⊢
    rw [found]
    exact congrArg Except.ok (EventPayload.addOption_made _ _)

theorem optionalParameter_keys (key : String) (value : Option String) :
    ((optionalParameter key value).map (·.1)).Sublist [key] := by
  cases value with
  | none => exact List.nil_sublist _
  | some _ => exact .refl _

theorem entityParameter_keys (entity : Option SelfDescribing) (base64 : Bool)
    (encodedKey plainKey : String) :
    ((entityParameter entity base64 encodedKey plainKey).map (·.1)).Sublist
      [encodedKey, plainKey] := by
  cases entity <;> cases base64 <;> simp [entityParameter]

namespace EventBody

def keys : List String :=
  [Protocol.eventTypeKey, Protocol.categoryKey, Protocol.actionKey, Protocol.labelKey,
    Protocol.propertyKey, Protocol.valueKey]

theorem typeParameters_keys {body : EventBody} (known : body.isBuiltIn) :
    (body.typeParameters.map (·.1)).Sublist keys := by
  cases body with
  | structured category action label property value =>
    simp only [typeParameters, List.map_append]
    exact (((List.Sublist.refl [Protocol.eventTypeKey, Protocol.categoryKey,
      Protocol.actionKey]).append (optionalParameter_keys Protocol.labelKey label)).append
        (optionalParameter_keys Protocol.propertyKey property)).append
          (optionalParameter_keys Protocol.valueKey _)
  | screenView | timing | selfDescribing => exact .cons_cons _ (List.nil_sublist _)
  | custom => cases known

end EventBody

namespace Event

def keys : List String :=
  [Protocol.eventIdKey, Protocol.deviceTimeKey] ++ (EventBody.keys ++
    [Protocol.unstructuredEncodedKey, Protocol.unstructuredKey]) ++ [Protocol.trueTimeKey]

theorem parameters_keys {event : Event} (known : event.body.isBuiltIn) (base64 : Bool) (id : String)
    (clock : Nat) : ((event.parameters base64 id clock).map (·.1)).Sublist keys := by
  simp only [parameters, EventBody.parameters, List.map_append]
  exact ((List.Sublist.refl _).append ((EventBody.typeParameters_keys known).append
    (entityParameter_keys ..))).append (optionalParameter_keys ..)

theorem parameters_nodup {event : Event} (known : event.body.isBuiltIn) (base64 : Bool) (id : String)
    (clock : Nat) : ((event.parameters base64 id clock).map (·.1)).Nodup :=
  List.Nodup.sublist (parameters_keys known base64 id clock) (by decide)

end Event

/-- The envelope of the entities that go with an event; without entities there is none. -/
def SelfDescribing.contexts? (entities : List SelfDescribing) : Option SelfDescribing :=
  if entities = [] then none
  else some ⟨Protocol.contextsSchema, .array (entities.map SelfDescribing.json)⟩

namespace Tracker

variable (tracker : Tracker) (moment : Moment) (event : Event) (sessions : List SelfDescribing)

def entities : List SelfDescribing :=
  event.context ++ sessions ++ if tracker.settings.desktop then [moment.host.entity] else []

/-- The parameters of an event as they are queued, given the entities of its session. -/
def parameters : List (String × String) :=
  event.parameters tracker.settings.base64 moment.freshEvent moment.clock ++
    tracker.settings.parameters ++ Subject.parameters tracker.subject ++
      Subject.parameters event.subject ++
        entityParameter (SelfDescribing.contexts? (tracker.entities moment event sessions))
          tracker.settings.base64 Protocol.contextsEncodedKey Protocol.contextsKey

/-- The entities of the session for an event with the identifier and the clock of a moment. -/
def visit (db : Database) : Except TrackerError (List SelfDescribing) × Tracker × Database :=
  tracker.sessionEntities moment (EventPayload.new moment.freshEvent moment.clock) db

theorem visit_settings (db : Database) :
    (tracker.visit moment db).2.1.settings = tracker.settings := by
  unfold visit sessionEntities
  cases tracker.session <;> rfl

theorem identified_made (pairs : List (String × String)) (id : String) (clock : Nat) :
    tracker.identified event (.made pairs id clock) =
      .made (pairs ++ tracker.settings.parameters ++ Subject.parameters tracker.subject ++
        Subject.parameters event.subject) id clock := by
  have add (pairs : List (String × String)) (subject : Option Subject) :
      addSubject (.made pairs id clock) subject =
        .made (pairs ++ Subject.parameters subject) id clock := by
    cases subject with
    | none => rw [Subject.parameters, Option.map_none, Option.getD_none, List.append_nil]; rfl
    | some subject => exact EventPayload.merge_made subject.payload
  rw [identified, EventPayload.addAll_made, add, add]

theorem addEntities_made (entities : List SelfDescribing) (pairs : List (String × String))
    (id : String) (clock : Nat) :
    tracker.addEntities entities (.made pairs id clock) =
      .made (pairs ++ entityParameter (SelfDescribing.contexts? entities) tracker.settings.base64
        Protocol.contextsEncodedKey Protocol.contextsKey) id clock := by
  cases entities with
  | nil => simp [addEntities, SelfDescribing.contexts?, entityParameter]
  | cons entity entities => exact EventPayload.addJson_made _ _ _ _

/-- An event that makes its parameters gets those of the tracker, unless its session fails. -/
theorem prepare_of_payload {event : Event} {payload : EventPayload}
    (h : event.payload tracker.settings.base64 (.new moment.freshEvent moment.clock) = .ok payload)
    (db : Database) :
    tracker.prepare moment event db =
      match tracker.visit moment db with
      | (.error cause, after, db) => (.error cause, after, db)
      | (.ok sessions, after, db) =>
        (.ok (.made (tracker.parameters moment event sessions) moment.freshEvent moment.clock),
          after, db) := by
  rw [prepare, h, Event.payload_ok h]
  -- Entities are added with the settings after the session has moved on: the same ones.
  have same := tracker.visit_settings moment db
  simp only [identified_made]
  change (match tracker.visit moment db with
    | (.error cause, after, db) => (Except.error cause, after, db)
    | (.ok sessions, after, db) => _) = _
  generalize tracker.visit moment db = visited at same ⊢
  obtain ⟨result, after, db⟩ := visited
  cases result with
  | error cause => rfl
  | ok sessions =>
    simp only at same ⊢
    rw [same, addEntities_made, same]
    rfl

theorem prepare_eq {event : Event} (known : event.body.isBuiltIn) (db : Database) :
    tracker.prepare moment event db =
      match event.body.lacks? with
      | some cause => (.error (.invalidArgument cause), tracker, db)
      | none =>
        match tracker.visit moment db with
        | (.error cause, after, db) => (.error cause, after, db)
        | (.ok sessions, after, db) =>
          (.ok (.made (tracker.parameters moment event sessions) moment.freshEvent moment.clock),
            after, db) := by
  have made := Event.payload_made known tracker.settings.base64 moment.freshEvent moment.clock
  cases lacks : event.body.lacks? with
  | some cause =>
    rw [lacks] at made
    rw [prepare, made]
  | none =>
    rw [lacks] at made
    exact tracker.prepare_of_payload moment made db

/-- The parts of tracking an event of a known type: its check, its session, its place in the queue. -/
theorem track_eq {event : Event} (known : event.body.isBuiltIn) (emitter : Emitter) (db : Database) :
    tracker.track emitter moment event db =
      match event.body.lacks? with
      | some cause => ⟨.error (.invalidArgument cause), tracker, emitter, db⟩
      | none =>
        match tracker.visit moment db with
        | (.error cause, after, db) => ⟨.error cause, after, emitter, db⟩
        | (.ok sessions, after, db) =>
          match emitter.add db (.ofPairs (tracker.parameters moment event sessions)) with
          | .error cause => ⟨.error (.storage cause), after, emitter, db⟩
          | .ok (emitter, db) => ⟨.ok moment.freshEvent, after, emitter, db⟩ := by
  rw [track, prepare_eq tracker moment known]
  cases event.body.lacks? with
  | some cause => rfl
  | none =>
    obtain ⟨result, after, db⟩ := tracker.visit moment db
    cases result <;> rfl

end Tracker

theorem SelfDescribing.text_ne_empty (entity : SelfDescribing) : entity.text ≠ "" := by
  simp [text, json, Json.text, Json.chars]

theorem setValue?_entityParameter (entity : Option SelfDescribing) (base64 : Bool)
    {encodedKey plainKey : String} (named : encodedKey ≠ "" ∧ plainKey ≠ "") :
    setValue? (if base64 then encodedKey else plainKey)
        (entityParameter entity base64 encodedKey plainKey) =
      entity.map fun entity =>
        if base64 then Text.Base64.encodeText entity.text else entity.text := by
  cases entity with
  | none => rfl
  | some entity =>
    have filled := entity.text_ne_empty
    have encoded := Text.Base64.encodeText_ne_empty filled
    cases base64 <;> simp [setValue?, entityParameter, named, filled, encoded, lookup?]

theorem setValue?_entityParameter_other {entity : Option SelfDescribing} {base64 : Bool}
    {encodedKey plainKey key : String} (apart : key ≠ if base64 then encodedKey else plainKey) :
    setValue? key (entityParameter entity base64 encodedKey plainKey) = none := by
  refine setValue?_eq_none ?_
  cases entity <;> cases base64 <;> simp_all [entityParameter]

namespace Event

theorem setValue?_parameters_eq_none {event : Event} (known : event.body.isBuiltIn) {base64 : Bool}
    {id : String} {clock : Nat} {key : String} (other : key ∉ keys) :
    setValue? key (event.parameters base64 id clock) = none :=
  setValue?_eq_none fun listed => other ((parameters_keys known base64 id clock).subset listed)

end Event

namespace TrackerSettings

def keys : List String :=
  [Protocol.versionKey, Protocol.platformKey, Protocol.appIdKey, Protocol.namespaceKey]

theorem parameters_keys (settings : TrackerSettings) : settings.parameters.map (·.1) = keys := rfl

theorem setValue?_parameters_eq_none {settings : TrackerSettings} {key : String}
    (other : key ∉ keys) : setValue? key settings.parameters = none :=
  setValue?_eq_none other

end TrackerSettings

namespace Tracker

variable {tracker : Tracker} {event : Event} (known : event.body.isBuiltIn)
  (own : ∀ s ∈ event.subject, s.IsMade) (general : ∀ s ∈ tracker.subject, s.IsMade)
  (moment : Moment) (sessions : List SelfDescribing)

include known own general

/-- Of two values for a parameter the one that was added later counts. -/
theorem get?_parameters (key : String) :
    (Payload.ofPairs (tracker.parameters moment event sessions)).get? key =
      (setValue? key (entityParameter
        (SelfDescribing.contexts? (tracker.entities moment event sessions)) tracker.settings.base64
          Protocol.contextsEncodedKey Protocol.contextsKey)).or
        ((Subject.value? key event.subject).or ((Subject.value? key tracker.subject).or
          ((setValue? key tracker.settings.parameters).or (setValue? key
            (event.parameters tracker.settings.base64 moment.freshEvent moment.clock))))) := by
  have contexts := List.Nodup.sublist (entityParameter_keys
    (SelfDescribing.contexts? (tracker.entities moment event sessions)) tracker.settings.base64
      Protocol.contextsEncodedKey Protocol.contextsKey) (by decide)
  have settings : (tracker.settings.parameters.map (·.1)).Nodup := by
    rw [TrackerSettings.parameters_keys]
    decide
  rw [Payload.get?_ofPairs, parameters]
  simp only [List.reverse_append, setValue?_append]
  rw [setValue?_reverse contexts, setValue?_reverse (Subject.parameters_nodup _),
    setValue?_reverse (Subject.parameters_nodup _), setValue?_reverse settings,
    setValue?_reverse (Event.parameters_nodup known _ _ _), Subject.setValue?_parameters own,
    Subject.setValue?_parameters general]

theorem get?_parameters_contexts {key : String}
    (listed : key ∈ [Protocol.contextsEncodedKey, Protocol.contextsKey]) :
    (Payload.ofPairs (tracker.parameters moment event sessions)).get? key =
      setValue? key (entityParameter
        (SelfDescribing.contexts? (tracker.entities moment event sessions)) tracker.settings.base64
          Protocol.contextsEncodedKey Protocol.contextsKey) := by
  have apart : key ∉ Subject.keys ∧ key ∉ TrackerSettings.keys ∧ key ∉ Event.keys := by
    revert key
    decide
  rw [get?_parameters known own general, Subject.value?_eq_none own apart.1,
    Subject.value?_eq_none general apart.1, TrackerSettings.setValue?_parameters_eq_none apart.2.1,
    Event.setValue?_parameters_eq_none known apart.2.2]
  simp only [Option.or_none]

theorem get?_parameters_other {key : String}
    (other : key ∉ [Protocol.contextsEncodedKey, Protocol.contextsKey]) :
    (Payload.ofPairs (tracker.parameters moment event sessions)).get? key =
      (Subject.value? key event.subject).or ((Subject.value? key tracker.subject).or
        ((setValue? key tracker.settings.parameters).or (setValue? key
          (event.parameters tracker.settings.base64 moment.freshEvent moment.clock)))) := by
  simp only [List.mem_cons, List.not_mem_nil, or_false, not_or] at other
  have apart : key ≠ if tracker.settings.base64 then Protocol.contextsEncodedKey
      else Protocol.contextsKey := by
    split_ifs
    · exact other.1
    · exact other.2
  rw [get?_parameters known own general, setValue?_entityParameter_other apart, Option.none_or]

end Tracker

end Telemetry

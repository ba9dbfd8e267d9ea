import Telemetry.Error
import Telemetry.SelfDescribing
import Telemetry.Subject

set_option autoImplicit false

namespace Telemetry

open Decimal (Extended natText)

structure EventPayload where
  payload : Payload
  eventId : String
  timestamp : Nat
  deriving DecidableEq, Inhabited

namespace EventPayload

def new (eventId : String) (timestamp : Nat) : EventPayload where
  payload := (Payload.empty.add Protocol.eventIdKey eventId).add Protocol.deviceTimeKey
    (natText timestamp)
  eventId := eventId
  timestamp := timestamp

def add (event : EventPayload) (key value : String) : EventPayload :=
  { event with payload := event.payload.add key value }

def addAll (event : EventPayload) (pairs : List (String × String)) : EventPayload :=
  { event with payload := event.payload.addAll pairs }

def merge (event : EventPayload) (other : Payload) : EventPayload :=
  { event with payload := event.payload.merge other }

def addJson (event : EventPayload) (value : Json) (base64 : Bool) (encodedKey plainKey : String) :
    EventPayload :=
  { event with payload := event.payload.addJson value base64 encodedKey plainKey }

def addOption (event : EventPayload) (key : String) (value : Option String) : EventPayload :=
  match value with
  | some value => event.add key value
  | none => event

end EventPayload

inductive EventBody where
  | structured (category action : String) (label property : Option String) (value : Option Extended)
  | screenView (name id : Option String)
  | timing (category variableName : String) (milliseconds : Nat) (label : Option String)
  | selfDescribing (entity : SelfDescribing)
  | custom (fields : List (String × String))

structure Event where
  body : EventBody
  context : List SelfDescribing := []
  trueTimestamp : Option Nat := none
  subject : Option Subject := none

/-- The parameters of a self-describing event: the entity in an envelope. -/
def EventPayload.ofEntity (entity : SelfDescribing) (base64 : Bool) (event : EventPayload) :
    EventPayload :=
  let envelope : SelfDescribing := ⟨Protocol.unstructuredSchema, entity.json⟩
  (event.add Protocol.eventTypeKey Protocol.unstructuredType).addJson envelope.json base64
    Protocol.unstructuredEncodedKey Protocol.unstructuredKey

def optionalMember (key : String) : Option String → List (String × Json)
  | some value => [(key, .string value)]
  | none => []

def valuePlaces : Nat := 6

def EventBody.payload (body : EventBody) (base64 : Bool) (fresh : EventPayload) :
    Except ArgumentError EventPayload :=
  match body with
  | .structured category action label property value =>
    if category.isEmpty then .error .missingCategory
    else if action.isEmpty then .error .missingAction
    else
      .ok <| ((((fresh.add Protocol.eventTypeKey Protocol.structuredType).add Protocol.categoryKey
        category).add Protocol.actionKey action).addOption Protocol.labelKey label).addOption
        Protocol.propertyKey property |>.addOption Protocol.valueKey
          (value.map fun value => String.ofList (value.fixedText valuePlaces))
  | .screenView name id =>
    if name.isNone && id.isNone then .error .missingNameAndId
    else
      let data := Json.ofMembers (optionalMember "id" id ++ optionalMember "name" name)
      .ok (fresh.ofEntity ⟨Protocol.screenViewSchema, data⟩ base64)
  | .timing category variableName milliseconds label =>
    if category.isEmpty then .error .missingCategory
    else if variableName.isEmpty then .error .missingVariable
    else
      let data := Json.ofMembers
        ([("category", .string category), ("variable", .string variableName),
          ("timing", Json.nat milliseconds)] ++ optionalMember "label" label)
      .ok (fresh.ofEntity ⟨Protocol.timingSchema, data⟩ base64)
  | .selfDescribing entity => .ok (fresh.ofEntity entity base64)
  | .custom fields => .ok (fresh.addAll fields)

/-- The parameters of an event: those of its type, which must include the type itself, and its true
time. -/
def Event.payload (event : Event) (base64 : Bool) (fresh : EventPayload) :
    Except ArgumentError EventPayload :=
  match event.body.payload base64 fresh with
  | .error cause => .error cause
  | .ok payload =>
    match payload.payload.get? Protocol.eventTypeKey with
    | none => .error .missingEventType
    | some _ => .ok (payload.addOption Protocol.trueTimeKey (event.trueTimestamp.map natText))

end Telemetry

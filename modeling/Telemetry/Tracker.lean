import Telemetry.Delivery.Emitter
import Telemetry.Desktop
import Telemetry.Event
import Telemetry.Session

set_option autoImplicit false

namespace Telemetry

open Delivery (Emitter)
open Store (Database)

structure TrackerSettings where
  name : String
  appId : String := ""
  platform : String := "srv"
  base64 : Bool := true
  desktop : Bool := true
  deriving DecidableEq, Repr

structure Tracker where
  settings : TrackerSettings
  subject : Option Subject
  session : Option Session
  deriving DecidableEq

/-- What tracking an event finds around it: the time of day, identifiers that nothing else has, the host. -/
structure Moment where
  clock : Nat
  freshEvent : String
  freshSession : String
  host : Host

namespace TrackerSettings

def parameters (settings : TrackerSettings) : List (String × String) :=
  [(Protocol.versionKey, Protocol.trackerVersion), (Protocol.platformKey, settings.platform),
    (Protocol.appIdKey, settings.appId), (Protocol.namespaceKey, settings.name)]

end TrackerSettings

namespace Tracker

def addSubject (payload : EventPayload) : Option Subject → EventPayload
  | some subject => payload.merge subject.payload
  | none => payload

def identified (tracker : Tracker) (event : Event) (payload : EventPayload) : EventPayload :=
  addSubject (addSubject (payload.addAll tracker.settings.parameters) tracker.subject) event.subject

/-- Add the entities of an event in one envelope; no entities add nothing. -/
def addEntities (tracker : Tracker) (entities : List SelfDescribing) (payload : EventPayload) :
    EventPayload :=
  if entities.isEmpty then payload
  else
    let envelope : SelfDescribing :=
      ⟨Protocol.contextsSchema, .array (entities.map SelfDescribing.json)⟩
    payload.addJson envelope.json tracker.settings.base64 Protocol.contextsEncodedKey
      Protocol.contextsKey

def sessionEntities (tracker : Tracker) (moment : Moment) (payload : EventPayload) (db : Database) :
    Except TrackerError (List SelfDescribing) × Tracker × Database :=
  match tracker.session with
  | none => (.ok [], tracker, db)
  | some session =>
    let (entity, session, db) :=
      session.context db moment.clock moment.freshSession payload.eventId payload.timestamp
    (entity.map ([·]), { tracker with session := some session }, db)

/-- The payload of an event. An invalid event leaves the session as it is. -/
def prepare (tracker : Tracker) (moment : Moment) (event : Event) (db : Database) :
    Except TrackerError EventPayload × Tracker × Database :=
  match event.payload tracker.settings.base64 (EventPayload.new moment.freshEvent moment.clock) with
  | .error cause => (.error (.invalidArgument cause), tracker, db)
  | .ok payload =>
    let payload := tracker.identified event payload
    match tracker.sessionEntities moment payload db with
    | (.error cause, tracker, db) => (.error cause, tracker, db)
    | (.ok entities, tracker, db) =>
      let hosts := if tracker.settings.desktop then [moment.host.entity] else []
      (.ok (tracker.addEntities (event.context ++ entities ++ hosts) payload), tracker, db)

/-- A tracker with its emitter and its store after an event, and the identifier of the event if it was
queued. -/
structure Tracked where
  result : Except TrackerError String
  tracker : Tracker
  emitter : Emitter
  db : Database

def track (tracker : Tracker) (emitter : Emitter) (moment : Moment) (event : Event) (db : Database) :
    Tracked :=
  match tracker.prepare moment event db with
  | (.error cause, tracker, db) => ⟨.error cause, tracker, emitter, db⟩
  | (.ok payload, tracker, db) =>
    match emitter.add db payload.payload with
    | .error cause => ⟨.error (.storage cause), tracker, emitter, db⟩
    | .ok (emitter, db) => ⟨.ok payload.eventId, tracker, emitter, db⟩

end Tracker

end Telemetry

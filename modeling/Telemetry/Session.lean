import Telemetry.Calendar
import Telemetry.Protocol
import Telemetry.SelfDescribing
import Telemetry.Store.Database

set_option autoImplicit false

/-!
Client sessions. A session starts with the first event, on request, and after a silence longer than the
timeout of the mode in force. Its record is stored when it starts, so that a later run goes on from it.
-/

namespace Telemetry

open Store (Database)

structure SessionRecord where
  userId : String
  sessionId : String
  index : Nat
  previousId : Option String
  firstEventId : Option String
  firstTimestamp : String
  deriving DecidableEq, Repr, Inhabited

namespace SessionRecord

def storageMechanism : String := "SQLITE"

def members (record : SessionRecord) : List (String × Json) :=
  (match record.firstEventId with
    | some id => [("firstEventId", .string id)]
    | none => []) ++
  [("firstEventTimestamp", .string record.firstTimestamp),
    ("previousSessionId", match record.previousId with
      | some id => .string id
      | none => .null),
    ("sessionId", .string record.sessionId),
    ("sessionIndex", Json.nat record.index),
    ("storageMechanism", .string storageMechanism),
    ("userId", .string record.userId)]

def json (record : SessionRecord) : Json := .object record.members

def entity (record : SessionRecord) (eventIndex : Nat) : SelfDescribing :=
  ⟨Protocol.sessionSchema, .object (("eventIndex", Json.nat eventIndex) :: record.members)⟩

end SessionRecord

structure Restored where
  userId : String
  sessionId : String
  index : Nat
  deriving DecidableEq, Repr

/-- A record is read if it is an object with both identifiers and an unsigned index. -/
def Restored.ofJson? (record : Json) : Option Restored := do
  let userId ← (record.member? "userId").bind Json.string?
  let sessionId ← (record.member? "sessionId").bind Json.string?
  let index ← (record.member? "sessionIndex").bind Json.unsigned?
  some ⟨userId, sessionId, index⟩

structure SessionTimeouts where
  foreground : Nat
  background : Nat
  deriving DecidableEq, Repr

def SessionTimeouts.default : SessionTimeouts := ⟨1800000, 1800000⟩

structure Session where
  timeouts : SessionTimeouts
  userId : String
  sessionId : String
  index : Nat
  eventIndex : Nat
  isBackground : Bool
  startsAnew : Bool
  lastCheck : Nat
  record : Option SessionRecord
  deriving DecidableEq, Repr

namespace Session

/-- Go on from a stored record, or begin with a fresh user. -/
def start (timeouts : SessionTimeouts) (from? : Option Restored) (freshUser : String) (now : Nat) :
    Session where
  timeouts := timeouts
  userId := (from?.map (·.userId)).getD freshUser
  sessionId := (from?.map (·.sessionId)).getD ""
  index := (from?.map (·.index)).getD 0
  eventIndex := 0
  isBackground := false
  startsAnew := true
  lastCheck := now
  record := none

/-- Open a session on a store. A record that cannot be used is deleted, and its user with it. -/
def «open» (timeouts : SessionTimeouts) (db : Database) (freshUser : String) (now : Nat) :
    Except StorageError (Session × Database) :=
  let discard : Except StorageError (Session × Database) :=
    db.deleteSession.map fun db => (start timeouts none freshUser now, db)
  match db.getSession with
  | .ok none => .ok (start timeouts none freshUser now, db)
  | .ok (some record) =>
    match Restored.ofJson? record with
    | some restored => .ok (start timeouts (some restored) freshUser now, db)
    | none => discard
  | .error .serialization => discard
  | .error cause => .error cause

def timeout (session : Session) : Nat :=
  if session.isBackground then session.timeouts.background else session.timeouts.foreground

/-- Whether an event at this time starts a session: on request, when the clock went back, or after a silence
longer than the timeout. -/
def isOver (session : Session) (now : Nat) : Bool :=
  session.startsAnew || now < session.lastCheck || session.timeout < now - session.lastCheck

def nonEmpty? (text : String) : Option String := if text.isEmpty then none else some text

/-- Begin the next session with an event. The index is a 64-bit number and cannot pass the largest. An attempt to
pass it breaks off with the identifier replaced and the flag cleared, but behind a lock that lets no later call
through; the session is left as it was here, so that later calls fail as well. -/
def next (session : Session) (freshId eventId : String) (timestamp : Nat) :
    Except TrackerError Session :=
  if maxWord ≤ session.index then .error .sessionIndexOverflow
  else
    let index := session.index + 1
    .ok { session with
      sessionId := freshId
      index := index
      eventIndex := 0
      startsAnew := false
      record := some {
        userId := session.userId
        sessionId := freshId
        index := index
        previousId := nonEmpty? session.sessionId
        firstEventId := nonEmpty? eventId
        firstTimestamp := Calendar.dateTimeText timestamp } }

/-- Count an event, in a new session if the running one is over; also whether one was started. -/
def countEvent (session : Session) (now : Nat) (freshId eventId : String) (timestamp : Nat) :
    Except TrackerError (Session × Bool) :=
  let starts := session.isOver now
  let current := if starts then session.next freshId eventId timestamp else .ok session
  current.map fun current =>
    ({ current with lastCheck := now, eventIndex := current.eventIndex + 1 }, starts)

def recordJson (session : Session) : Json :=
  match session.record with
  | some record => record.json
  | none => .object []

def entity (session : Session) : SelfDescribing :=
  match session.record with
  | some record => record.entity session.eventIndex
  | none => ⟨Protocol.sessionSchema, .object [("eventIndex", Json.nat session.eventIndex)]⟩

def store (session : Session) (db : Database) : Except TrackerError Database :=
  match db.setSession session.recordJson with
  | .ok db => .ok db
  | .error cause => .error (.storage cause)

/-- The entity of an event. The session moves on first and its record is written afterwards, so a failing
write leaves the session moved on. -/
def context (session : Session) (db : Database) (now : Nat) (freshId eventId : String)
    (timestamp : Nat) : Except TrackerError SelfDescribing × Session × Database :=
  match session.countEvent now freshId eventId timestamp with
  | .error cause => (.error cause, session, db)
  | .ok (session, false) => (.ok session.entity, session, db)
  | .ok (session, true) =>
    match session.store db with
    | .ok db => (.ok session.entity, session, db)
    | .error cause => (.error cause, session, db)

def startNew (session : Session) : Session := { session with startsAnew := true }

/-- Change the mode. A session that is over under the old mode stays over. -/
def setBackground (session : Session) (isBackground : Bool) (now : Nat) : Session :=
  { session with
    startsAnew := session.isOver now
    lastCheck := now
    isBackground := isBackground }

end Session

end Telemetry

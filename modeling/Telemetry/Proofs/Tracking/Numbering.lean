import Mathlib.Data.List.Forall2
import Mathlib.Data.List.Nodup
import Telemetry.Proofs.Tracking.Queued

set_option autoImplicit false

/-!
How the events of a session are numbered when not all of them can be queued. A session counts an event before
it is queued and keeps the count when the queue, or the record of the session, cannot be written.
-/

namespace Telemetry

open Delivery (Emitter)
open Store (Database Row TableName)

structure Mark where
  eventId : String
  record : SessionRecord
  eventIndex : Nat
  queued : Bool
  deriving DecidableEq

namespace Mark

def sessionId (mark : Mark) : String := mark.record.sessionId

def entity (mark : Mark) : SelfDescribing := mark.record.entity mark.eventIndex

def ofSession (id : String) (marks : List Mark) : List Mark := marks.filter fun mark => mark.sessionId = id

/-- The events of each session are numbered from one without gaps, and refer to the first of them. -/
structure Numbered (marks : List Mark) : Prop where
  indices : ∀ id, (ofSession id marks).map (·.eventIndex) = List.range' 1 (ofSession id marks).length
  first : ∀ mark ∈ marks, ∃ first ∈ marks, first.sessionId = mark.sessionId ∧ first.eventIndex = 1 ∧
    mark.record.firstEventId = some first.eventId

/-- No event of a session is queued after one that was not. -/
def Unbroken (marks : List Mark) : Prop :=
  marks.Pairwise fun earlier later => earlier.sessionId = later.sessionId → later.queued → earlier.queued

variable {marks : List Mark}

theorem unbroken_iff : Unbroken marks ↔
    ∀ id, (ofSession id marks).Pairwise fun earlier later => later.queued → earlier.queued := by
  constructor
  · intro unbroken id
    apply List.pairwise_filter.2
    apply unbroken.imp
    intro earlier later keeps of_earlier of_later
    rw [decide_eq_true_iff] at of_earlier of_later
    exact keeps (of_earlier.trans of_later.symm)
  · intro unbroken
    apply List.pairwise_iff_forall_sublist.2
    intro earlier later both same
    apply List.pairwise_iff_forall_sublist.1 (unbroken later.sessionId)
    have kept := both.filter fun mark => mark.sessionId = later.sessionId
    simpa [ofSession, same] using kept

theorem ofSession_queued (id : String) (marks : List Mark) :
    ofSession id (marks.filter (·.queued)) = (ofSession id marks).filter (·.queued) := by
  rw [ofSession, ofSession, List.filter_filter, List.filter_filter]
  congr 1
  funext mark
  exact Bool.and_comm _ _

/-- Among numbers without gaps those of the queued events have none exactly if they come first. -/
theorem indices_queued_iff {start : Nat}
    (numbered : marks.map (·.eventIndex) = List.range' start marks.length) :
    (marks.filter (·.queued)).map (·.eventIndex) = List.range' start (marks.filter (·.queued)).length ↔
      marks.Pairwise fun earlier later => later.queued → earlier.queued := by
  induction marks generalizing start with
  | nil => simp
  | cons mark rest ih =>
    obtain ⟨head, tail⟩ : mark.eventIndex = start ∧
        rest.map (·.eventIndex) = List.range' (start + 1) rest.length := by
      simpa [List.range'_succ] using numbered
    rw [List.pairwise_cons, ← ih tail]
    by_cases queued : mark.queued
    · simp [queued, head, List.range'_succ]
    · rw [List.filter_cons_of_neg queued]
      constructor
      · intro same
        have none : rest.filter (·.queued) = [] := by
          cases left : rest.filter (·.queued) with
          | nil => rfl
          | cons other others =>
            have inside : other ∈ rest := List.mem_of_mem_filter (left ▸ List.mem_cons_self)
            have bound := List.mem_map_of_mem (f := (·.eventIndex)) inside
            have here : other.eventIndex = start := by
              rw [left, List.length_cons, List.range'_succ] at same
              exact (List.cons.inj same).1
            rw [tail, List.mem_range'_1] at bound
            omega
        rw [none]
        refine ⟨?_, rfl⟩
        intro later hlater reached
        exact absurd reached (List.filter_eq_nil_iff.1 none later hlater)
      · rintro ⟨kept, -⟩
        have none : rest.filter (·.queued) = [] := by
          apply List.filter_eq_nil_iff.2
          intro later hlater reached
          exact queued (kept later hlater reached)
        rw [none]
        rfl

/-- When all events of a session are numbered without gaps, the queued ones are so exactly if none of them
comes after one that was not queued. -/
theorem Numbered.queued_iff (h : Numbered marks) : Numbered (marks.filter (·.queued)) ↔ Unbroken marks := by
  rw [unbroken_iff]
  constructor
  · intro numbered id
    apply (indices_queued_iff (h.indices id)).1
    rw [← ofSession_queued]
    exact numbered.indices id
  · intro unbroken
    have indices : ∀ id, ((ofSession id marks).filter (·.queued)).map (·.eventIndex) =
        List.range' 1 ((ofSession id marks).filter (·.queued)).length := by
      intro id
      exact (indices_queued_iff (h.indices id)).2 (unbroken id)
    refine ⟨?_, ?_⟩
    · intro id
      rw [ofSession_queued]
      exact indices id
    · intro mark hmark
      obtain ⟨hmark, reached⟩ := List.mem_filter.1 hmark
      obtain ⟨first, hfirst, same, one, refers⟩ := h.first mark hmark
      refine ⟨first, List.mem_filter.2 ⟨hfirst, ?_⟩, same, one, refers⟩
      -- the first of the queued ones has the number of the first of all
      have own : mark ∈ (ofSession mark.sessionId marks).filter (·.queued) :=
        List.mem_filter.2 ⟨List.mem_filter.2 ⟨hmark, decide_eq_true rfl⟩, reached⟩
      cases left : (ofSession mark.sessionId marks).filter (·.queued) with
      | nil =>
        rw [left] at own
        cases own
      | cons other others =>
        have head : other.eventIndex = 1 := by
          have numbers := indices mark.sessionId
          rw [left, List.length_cons, List.range'_succ] at numbers
          exact (List.cons.inj numbers).1
        obtain ⟨inside, reached⟩ :=
          List.mem_filter.1 (left ▸ List.mem_cons_self (a := other) (l := others))
        have distinct : ((ofSession mark.sessionId marks).map (·.eventIndex)).Nodup := by
          rw [h.indices]
          exact List.nodup_range'
        have unique := List.inj_on_of_nodup_map distinct inside
          (List.mem_filter.2 ⟨hfirst, decide_eq_true same⟩) (head.trans one.symm)
        rw [← unique]
        exact reached

def between? (before after : Option Session) (eventId : String) (queued : Bool) : Option Mark :=
  if after = before then none
  else do
    let session ← after
    let record ← session.record
    some ⟨eventId, record, session.eventIndex, queued⟩

theorem ofSession_concat (id : String) (marks : List Mark) (mark : Mark) : ofSession id (marks ++ [mark]) =
    ofSession id marks ++ if mark.sessionId = id then [mark] else [] := by
  rw [ofSession, List.filter_append, List.filter_singleton]
  simp [ofSession]

theorem Numbered.concat (h : Numbered marks) {mark : Mark}
    (next : mark.eventIndex = (ofSession mark.sessionId marks).length + 1)
    (first : ∃ first ∈ marks ++ [mark], first.sessionId = mark.sessionId ∧ first.eventIndex = 1 ∧
      mark.record.firstEventId = some first.eventId) : Numbered (marks ++ [mark]) := by
  refine ⟨?_, ?_⟩
  · intro id
    rw [ofSession_concat]
    by_cases own : mark.sessionId = id
    · subst own
      rw [if_pos rfl, List.map_append, h.indices, List.length_append, List.length_singleton,
        List.range'_concat, List.map_singleton, next]
      simp [Nat.add_comm]
    · rw [if_neg own, List.append_nil]
      exact h.indices id
  · intro other hother
    rcases List.mem_append.1 hother with old | new
    · obtain ⟨start, hstart, rest⟩ := h.first other old
      exact ⟨start, List.mem_append_left _ hstart, rest⟩
    · rw [List.mem_singleton.1 new]
      exact first

end Mark

open Mark (Numbered Unbroken ofSession)

structure Session.Tallies (session : Session) (marks : List Mark) : Prop where
  numbered : Numbered marks
  running : session.startsAnew = false → ∃ record, session.record = some record ∧
    session.eventIndex = (ofSession record.sessionId marks).length ∧
    ∃ first ∈ marks, first.sessionId = record.sessionId ∧ first.eventIndex = 1 ∧
      record.firstEventId = some first.eventId

/-- An event gets the next number of its session, in a new session the first one. -/
theorem Session.Tallies.moved {session : Session} {marks : List Mark} (h : session.Tallies marks)
    (now timestamp : Nat) {freshId eventId : String} (named : eventId ≠ "")
    (fresh : ∀ mark ∈ marks, mark.sessionId ≠ freshId) (queued : Bool) :
    ∃ record, (session.moved now freshId eventId timestamp).record = some record ∧
      (record.sessionId = freshId ∨ ∃ old ∈ marks, old.sessionId = record.sessionId) ∧
      (session.moved now freshId eventId timestamp).Tallies
        (marks ++ [⟨eventId, record, (session.moved now freshId eventId timestamp).eventIndex,
          queued⟩]) := by
  unfold Session.moved
  split_ifs with lapsed
  · let record := session.nextRecord freshId eventId timestamp
    let mark : Mark := ⟨eventId, record, 1, queued⟩
    have unused : ofSession freshId marks = [] := by
      apply List.filter_eq_nil_iff.2
      intro other hother
      simpa using fresh other hother
    have first : ∃ first ∈ marks ++ [mark], first.sessionId = record.sessionId ∧ first.eventIndex = 1 ∧
        record.firstEventId = some first.eventId := by
      refine ⟨mark, List.mem_append_right _ List.mem_cons_self, rfl, rfl, ?_⟩
      simp [record, mark, Session.nextRecord, Session.nonEmpty?, named]
    refine ⟨record, rfl, .inl rfl, h.numbered.concat ?_ first, ?_⟩
    · change 1 = (ofSession freshId marks).length + 1
      rw [unused]
      rfl
    · intro _
      refine ⟨record, rfl, ?_, first⟩
      rw [Mark.ofSession_concat, show record.sessionId = freshId from rfl, unused]
      simp [Mark.sessionId, record, Session.nextRecord, Session.begun]
  · have running := Bool.eq_false_iff.2 lapsed
    obtain ⟨record, current, count, start, hstart, same, one, refers⟩ :=
      h.running (Session.startsAnew_of_running running)
    let mark : Mark := ⟨eventId, record, session.eventIndex + 1, queued⟩
    have first : ∃ first ∈ marks ++ [mark], first.sessionId = record.sessionId ∧ first.eventIndex = 1 ∧
        record.firstEventId = some first.eventId :=
      ⟨start, List.mem_append_left _ hstart, same, one, refers⟩
    refine ⟨record, current, .inr ⟨start, hstart, same⟩, h.numbered.concat ?_ first, ?_⟩
    · exact congrArg (· + 1) count
    · intro _
      refine ⟨record, current, ?_, first⟩
      rw [Mark.ofSession_concat, List.length_append, ← count]
      simp [Mark.sessionId, Session.counted]

theorem Session.moved_ne (session : Session) (now timestamp : Nat) (freshId eventId : String) :
    session.moved now freshId eventId timestamp ≠ session := by
  intro same
  unfold moved at same
  split_ifs at same
  · have index := congrArg Session.index same
    simp [begun] at index
  · have index := congrArg Session.eventIndex same
    simp [counted] at index

def Event.KeepsIdentifier (event : Event) : Prop :=
  ∀ fields, event.body = .custom fields → Protocol.eventIdKey ∉ fields.map (·.1)

/-- The identifier that an event sets among its own parameters, which only a custom event can. -/
def Event.ownIdentifier? (event : Event) : Option String :=
  match event.body with
  | .custom fields => setValue? Protocol.eventIdKey fields.reverse
  | _ => none

/-- The identifier that an event carries when it is given one. -/
def Event.identifier (event : Event) (given : String) : String := event.ownIdentifier?.getD given

theorem setValue?_reverse_eq_none {key : String} {pairs : List (String × String)}
    (h : key ∉ pairs.map (·.1)) : setValue? key pairs.reverse = none := by
  apply setValue?_eq_none
  rwa [List.map_reverse, List.mem_reverse]

theorem Event.identifier_of_keeps {event : Event} (keeps : event.KeepsIdentifier) (given : String) :
    event.identifier given = given := by
  unfold identifier ownIdentifier?
  cases body : event.body with
  | custom fields =>
    simp only [setValue?_reverse_eq_none (keeps fields body)]
    rfl
  | _ => rfl

/-- Of the parameters of a body only those that a custom event lists can be an identifier. -/
theorem Event.setValue?_body (event : Event) (base64 : Bool) :
    setValue? Protocol.eventIdKey (event.body.parameters base64).reverse = event.ownIdentifier? := by
  have entity : Protocol.eventIdKey ∉ (entityParameter (event.body.entity?.map SelfDescribing.unstructured)
      base64 Protocol.unstructuredEncodedKey Protocol.unstructuredKey).map (·.1) := by
    intro listed
    exact absurd ((entityParameter_keys ..).subset listed) (by decide)
  rw [EventBody.parameters, List.reverse_append, setValue?_append, setValue?_reverse_eq_none entity,
    Option.none_or]
  by_cases known : event.body.isBuiltIn
  · have type : Protocol.eventIdKey ∉ event.body.typeParameters.map (·.1) := by
      intro listed
      exact absurd ((EventBody.typeParameters_keys known).subset listed) (by decide)
    rw [setValue?_reverse_eq_none type, ownIdentifier?]
    split
    · simp_all [EventBody.isBuiltIn]
    · rfl
  · unfold ownIdentifier?
    cases same : event.body with
    | custom fields => rfl
    | _ => exact absurd (by rw [same]; rfl) known

namespace Tracker

variable {tracker : Tracker} {moment : Moment} {event : Event} {emitter : Emitter} {db : Database}

theorem visit_error {after : Tracker} {later : Database} {cause : TrackerError}
    (h : tracker.visit moment db = (.error cause, after, later)) : later.events = db.events ∧
      (cause = .sessionIndexOverflow ∧ after = tracker ∨
        (∃ fault, cause = .storage fault) ∧ after = tracker.moved moment) := by
  obtain ⟨settings, subject, session⟩ := tracker
  cases session with
  | none => cases h
  | some session =>
    simp only [visit, sessionEntities] at h
    have counts := session.context_counts db moment.clock moment.freshSession
      (EventPayload.new moment.freshEvent moment.clock).eventId
      (EventPayload.new moment.freshEvent moment.clock).timestamp
    generalize session.context db moment.clock moment.freshSession
      (EventPayload.new moment.freshEvent moment.clock).eventId
      (EventPayload.new moment.freshEvent moment.clock).timestamp = context at h counts
    obtain ⟨result, counted, written⟩ := context
    cases counts with
    | goesOn | begins => cases h
    | exhausted =>
      cases h
      exact ⟨rfl, .inl ⟨rfl, rfl⟩⟩
    | unwritten fault lapsed =>
      cases h
      refine ⟨rfl, .inr ⟨⟨fault, rfl⟩, ?_⟩⟩
      simp only [moved, Option.map_some, Session.moved, if_pos lapsed]
      rfl

theorem keptRows_of_events {later : Database} (same : later.events = db.events) :
    later.keptRows = db.keptRows := by
  rw [Database.keptRows, Database.keptRows, same]

/-- What tracking an event comes to. An error of the store is found after the session has counted the event,
any other error before. -/
inductive Tracks (tracker : Tracker) (moment : Moment) (event : Event) (db : Database) :
    Except TrackerError String → Tracker → Database → Prop
  | refused {cause : TrackerError} {later : Database} (other : ∀ fault, cause ≠ .storage fault)
      (rows : later.keptRows = db.keptRows) : Tracks tracker moment event db (.error cause) tracker later
  | lost {fault : StorageError} {later : Database} (rows : later.keptRows = db.keptRows) :
      Tracks tracker moment event db (.error (.storage fault)) (tracker.moved moment) later
  | queues {row : Row} {later : Database} (rows : later.keptRows = db.keptRows ++ [row])
      (payload : row.payload? = some (.ofPairs (tracker.parameters moment event
        ((tracker.moved moment).session.map Session.entity).toList))) :
      Tracks tracker moment event db (.ok moment.freshEvent) (tracker.moved moment) later

theorem track_tracks (tracker : Tracker) (emitter : Emitter) (moment : Moment) (event : Event)
    (db : Database) : Tracks tracker moment event db (tracker.track emitter moment event db).result
      (tracker.track emitter moment event db).tracker (tracker.track emitter moment event db).db := by
  unfold track
  cases made : event.payload tracker.settings.base64 (.new moment.freshEvent moment.clock) with
  | error cause =>
    rw [prepare, made]
    exact .refused (by simp) rfl
  | ok payload =>
    rw [tracker.prepare_of_payload moment made]
    rcases visited : tracker.visit moment db with ⟨result, after, later⟩
    cases result with
    | error cause =>
      obtain ⟨same, ⟨rfl, rfl⟩ | ⟨⟨fault, rfl⟩, rfl⟩⟩ := visit_error visited
      · exact .refused (by simp) (keptRows_of_events same)
      · exact .lost (keptRows_of_events same)
    | ok sessions =>
      obtain ⟨rfl, rfl, same⟩ := visit_ok visited
      dsimp only
      unfold Emitter.add
      cases added : later.add (EventPayload.made (tracker.parameters moment event
          ((tracker.moved moment).session.map Session.entity).toList) moment.freshEvent
            moment.clock).payload with
      | error fault => exact .lost (keptRows_of_events same)
      | ok final =>
        refine .queues ?_ (later.nextRow_payload? _)
        rw [← keptRows_of_events same]
        exact Database.keptRows_add added

def contextsText (base64 : Bool) (entities : List SelfDescribing) : String :=
  if base64 then Text.Base64.encodeText (contextsJson entities).text else (contextsJson entities).text

theorem get?_parameters_contextsKey (tracker : Tracker) (moment : Moment) (event : Event)
    (entity : SelfDescribing) :
    (Payload.ofPairs (tracker.parameters moment event [entity])).get? (contextsKey tracker.settings.base64) =
      some (contextsText tracker.settings.base64 (tracker.entities moment event [entity])) := by
  have some : SelfDescribing.contexts? (tracker.entities moment event [entity]) = some
      ⟨Protocol.contextsSchema, .array ((tracker.entities moment event [entity]).map
        SelfDescribing.json)⟩ := by
    apply if_neg
    simp [entities]
  have distinct := List.Nodup.sublist (entityParameter_keys
    (SelfDescribing.contexts? (tracker.entities moment event [entity])) tracker.settings.base64
      Protocol.contextsEncodedKey Protocol.contextsKey) (by decide)
  rw [Payload.get?_ofPairs, parameters, List.reverse_append, setValue?_append, setValue?_reverse distinct,
    contextsKey, setValue?_entityParameter _ _ (by decide), some, Option.map_some, Option.some_or]
  rfl

/-- Nothing that tracking adds hides the identifier that an event carries. -/
theorem get?_parameters_eventIdKey (named : moment.freshEvent ≠ "")
    (own : ∀ s ∈ event.subject, s.IsMade) (general : ∀ s ∈ tracker.subject, s.IsMade)
    (sessions : List SelfDescribing) :
    (Payload.ofPairs (tracker.parameters moment event sessions)).get? Protocol.eventIdKey =
      some (event.identifier moment.freshEvent) := by
  have entities : Protocol.eventIdKey ∉ (entityParameter (SelfDescribing.contexts?
      (tracker.entities moment event sessions)) tracker.settings.base64 Protocol.contextsEncodedKey
        Protocol.contextsKey).map (·.1) := by
    intro listed
    exact absurd ((entityParameter_keys ..).subset listed) (by decide)
  have time : Protocol.eventIdKey ∉ (optionalParameter Protocol.trueTimeKey
      (event.trueTimestamp.map Decimal.natText)).map (·.1) := by
    intro listed
    exact absurd ((optionalParameter_keys ..).subset listed) (by decide)
  have settings : Protocol.eventIdKey ∉ tracker.settings.parameters.map (·.1) := by
    rw [TrackerSettings.parameters_keys]
    decide
  have first : setValue? Protocol.eventIdKey [(Protocol.eventIdKey, moment.freshEvent),
      (Protocol.deviceTimeKey, Decimal.natText moment.clock)].reverse = some moment.freshEvent := by
    rw [setValue?_reverse]
    case nodup =>
      change [Protocol.eventIdKey, Protocol.deviceTimeKey].Nodup
      decide
    simp [setValue?, Dictionary.lookup?, named, Protocol.eventIdKey]
  rw [Payload.get?_ofPairs, parameters, Event.parameters]
  simp only [List.reverse_append, setValue?_append]
  rw [first, event.setValue?_body, setValue?_reverse_eq_none entities, setValue?_reverse_eq_none settings,
    setValue?_reverse_eq_none time, setValue?_reverse (Subject.parameters_nodup _),
    setValue?_reverse (Subject.parameters_nodup _),
    Subject.setValue?_parameters own, Subject.setValue?_parameters general,
    Subject.value?_eq_none own (by decide), Subject.value?_eq_none general (by decide)]
  simp only [Option.or_some, Option.getD_none, Event.identifier]

end Tracker

structure Desk where
  tracker : Tracker
  emitter : Emitter
  db : Database

/-- A call on a tracker or its session, or a change of what statements on the store can reach. -/
inductive DeskCall where
  | track (moment : Moment) (event : Event)
  | startNew
  | setBackground (isBackground : Bool) (now : Nat)
  | hide (table : TableName)
  | restore (table : TableName)

def DeskCall.freshIds (calls : List DeskCall) : List String :=
  calls.filterMap fun
    | .track moment _ => some moment.freshSession
    | _ => none

/-- Whether an event has an identifier of the tracker's choice, and a subject that was made by its setters. -/
def DeskCall.IsPlain : DeskCall → Prop
  | .track moment event =>
    moment.freshEvent ≠ "" ∧ event.KeepsIdentifier ∧ ∀ s ∈ event.subject, s.IsMade
  | _ => True

namespace Desk

def take (desk : Desk) : DeskCall → Except TrackerError (Option String) × Desk
  | .track moment event =>
    let tracked := desk.tracker.track desk.emitter moment event desk.db
    (tracked.result.map some, ⟨tracked.tracker, tracked.emitter, tracked.db⟩)
  | .startNew =>
    (.ok none, { desk with
      tracker := { desk.tracker with session := desk.tracker.session.map Session.startNew } })
  | .setBackground isBackground now =>
    (.ok none, { desk with tracker := { desk.tracker with
      session := desk.tracker.session.map fun session => session.setBackground isBackground now } })
  | .hide table => (.ok none, { desk with db := (desk.db.hide? table).getD desk.db })
  | .restore table => (.ok none, { desk with db := (desk.db.restore? table).getD desk.db })

def run (desk : Desk) (calls : List DeskCall) : Desk := calls.foldl (fun desk call => (desk.take call).2) desk

/-- What a call leaves in the session: nothing if the session stays as it is. -/
def mark? (desk : Desk) : DeskCall → Option Mark
  | .track moment event =>
    let tracked := desk.tracker.track desk.emitter moment event desk.db
    Mark.between? desk.tracker.session tracked.tracker.session moment.freshEvent tracked.result.toBool
  | _ => none

def marks (desk : Desk) : List DeskCall → List Mark
  | [] => []
  | call :: rest => (desk.mark? call).toList ++ (desk.take call).2.marks rest

/-- The marks of the events that reached the queue. -/
def queuedMarks (desk : Desk) (calls : List DeskCall) : List Mark := (desk.marks calls).filter (·.queued)

end Desk

/-- Whether a row is of an event and carries its number. -/
def Mark.IsShown (mark : Mark) (base64 : Bool) (row : Row) : Prop :=
  ∃ payload entities, row.payload? = some payload ∧
    payload.get? Protocol.eventIdKey = some mark.eventId ∧
    payload.get? (Tracker.contextsKey base64) = some (Tracker.contextsText base64 entities) ∧
    mark.entity ∈ entities

namespace Desk

variable {desk : Desk} {session : Session} {marks : List Mark}

structure Tallied (desk : Desk) (marks : List Mark) : Prop where
  session : ∃ session, desk.tracker.session = some session ∧ session.Tallies marks
  subject : ∀ s ∈ desk.tracker.subject, s.IsMade

/-- What calls leave: rows for the events that reached the queue, and marks in sessions that they began or
found. -/
structure Leaves (desk : Desk) (marks new : List Mark) (ids : List String) (after : Desk) : Prop where
  rows : ∃ rows, after.db.keptRows = desk.db.keptRows ++ rows ∧
    List.Forall₂ (fun mark row => mark.IsShown desk.tracker.settings.base64 row)
      (new.filter (·.queued)) rows
  settings : after.tracker.settings = desk.tracker.settings
  origin : ∀ mark ∈ new, mark.sessionId ∈ ids ∨ ∃ old ∈ marks, old.sessionId = mark.sessionId
  tallied : after.Tallied (marks ++ new)

theorem Leaves.nothing {after : Desk} (rows : after.db.keptRows = desk.db.keptRows)
    (settings : after.tracker.settings = desk.tracker.settings) (tallied : after.Tallied marks)
    (ids : List String) : Leaves desk marks [] ids after := by
  refine ⟨⟨[], ?_, .nil⟩, settings, nofun, ?_⟩
  · rw [rows, List.append_nil]
  · rw [List.append_nil]
    exact tallied

theorem Leaves.trans {middle last : Desk} {first second : List Mark} {ids more : List String}
    (h : Leaves desk marks first ids middle) (next : Leaves middle (marks ++ first) second more last) :
    Leaves desk marks (first ++ second) (ids ++ more) last := by
  obtain ⟨rows, kept, shown⟩ := h.rows
  obtain ⟨others, kept', shown'⟩ := next.rows
  refine ⟨⟨rows ++ others, ?_, ?_⟩, next.settings.trans h.settings, ?_, ?_⟩
  · rw [kept', kept, List.append_assoc]
  · rw [h.settings] at shown'
    rw [List.filter_append]
    exact List.rel_append shown shown'
  · intro mark hmark
    rcases List.mem_append.1 hmark with early | late
    · exact (h.origin mark early).imp_left (List.mem_append_left _)
    · rcases next.origin mark late with fresh | ⟨old, hold, same⟩
      · exact .inl (List.mem_append_right _ fresh)
      · rcases List.mem_append.1 hold with earlier | early
        · exact .inr ⟨old, earlier, same⟩
        · rw [← same]
          exact (h.origin old early).imp_left (List.mem_append_left _)
  · rw [← List.append_assoc]
    exact next.tallied

theorem Tallied.counted (h : desk.Tallied marks) {moment : Moment} (named : moment.freshEvent ≠ "")
    (fresh : ∀ mark ∈ marks, mark.sessionId ≠ moment.freshSession) (queued : Bool) (emitter : Emitter)
    (db : Database) : ∃ mark, mark.eventId = moment.freshEvent ∧ mark.queued = queued ∧
      Mark.between? desk.tracker.session (desk.tracker.moved moment).session moment.freshEvent queued =
        some mark ∧
      ((desk.tracker.moved moment).session.map Session.entity).toList = [mark.entity] ∧
      (mark.sessionId = moment.freshSession ∨ ∃ old ∈ marks, old.sessionId = mark.sessionId) ∧
      Tallied ⟨desk.tracker.moved moment, emitter, db⟩ (marks ++ [mark]) := by
  obtain ⟨session, has, tallies⟩ := h.session
  obtain ⟨record, current, origin, moved⟩ := tallies.moved moment.clock moment.clock named fresh queued
  have changed := session.moved_ne moment.clock moment.clock moment.freshSession moment.freshEvent
  have after : (desk.tracker.moved moment).session =
      some (session.moved moment.clock moment.freshSession moment.freshEvent moment.clock) := by
    rw [Tracker.moved, has, Option.map_some]
  refine ⟨_, rfl, rfl, ?_, ?_, ?_, ⟨_, after, moved⟩, h.subject⟩
  · rw [after, has, Mark.between?, if_neg (by simpa using changed)]
    simp [current]
  · rw [after, Option.map_some, Session.entity, current]
    rfl
  · exact origin

theorem Tallied.tracks (h : desk.Tallied marks) {moment : Moment} {event : Event}
    (plain : DeskCall.IsPlain (.track moment event))
    (fresh : ∀ mark ∈ marks, mark.sessionId ≠ moment.freshSession)
    {answer : Except TrackerError String} {after : Tracker} {later : Database}
    (tracks : Tracker.Tracks desk.tracker moment event desk.db answer after later) (emitter : Emitter) :
    Leaves desk marks
      (Mark.between? desk.tracker.session after.session moment.freshEvent answer.toBool).toList
      [moment.freshSession] ⟨after, emitter, later⟩ := by
  obtain ⟨named, keeps, own⟩ := plain
  cases tracks with
  | refused other rows =>
    rw [Mark.between?, if_pos rfl]
    apply Leaves.nothing
    · exact rows
    · rfl
    · exact ⟨h.session, h.subject⟩
  | lost rows =>
    obtain ⟨mark, -, lost, left, -, origin, tallied⟩ := h.counted named fresh false emitter later
    simp only [Except.toBool, left, Option.toList_some]
    exact ⟨⟨[], by simpa using rows, by simp [lost]⟩, rfl, by simpa using origin, tallied⟩
  | queues rows payload =>
    obtain ⟨mark, id, reached, left, entity, origin, tallied⟩ := h.counted named fresh true emitter later
    rw [entity] at payload
    have carried := Tracker.get?_parameters_eventIdKey named own h.subject [mark.entity]
    rw [event.identifier_of_keeps keeps, ← id] at carried
    have shown : mark.IsShown desk.tracker.settings.base64 _ :=
      ⟨_, _, payload, carried, Tracker.get?_parameters_contextsKey .., by simp [Tracker.entities]⟩
    simp only [Except.toBool, left, Option.toList_some]
    exact ⟨⟨[_], rows, by simpa [reached] using shown⟩, rfl, by simpa using origin, tallied⟩

theorem keptRows_hide {db after : Database} {table : TableName} (h : db.hide? table = some after) :
    after.keptRows = db.keptRows := by
  cases table with
  | events => exact (Database.hide_spec h).1
  | sessions =>
    obtain ⟨session, -, rfl⟩ := Option.map_eq_some_iff.1 h
    rfl

theorem keptRows_restore {db after : Database} {table : TableName} (h : db.restore? table = some after) :
    after.keptRows = db.keptRows := by
  cases table with
  | events => exact (Database.restore_spec h).1
  | sessions =>
    obtain ⟨session, -, rfl⟩ := Option.map_eq_some_iff.1 h
    rfl

theorem Tallied.take (h : desk.Tallied marks) {call : DeskCall} (plain : call.IsPlain)
    (fresh : ∀ id ∈ DeskCall.freshIds [call], ∀ mark ∈ marks, mark.sessionId ≠ id) :
    Leaves desk marks (desk.mark? call).toList (DeskCall.freshIds [call]) (desk.take call).2 := by
  obtain ⟨session, has, tallies⟩ := h.session
  cases call with
  | track moment event =>
    have apart : ∀ mark ∈ marks, mark.sessionId ≠ moment.freshSession := fresh _ List.mem_cons_self
    exact h.tracks plain apart (Tracker.track_tracks desk.tracker desk.emitter moment event desk.db) _
  | startNew =>
    apply Leaves.nothing
    · rfl
    · rfl
    · refine ⟨⟨session.startNew, ?_, tallies.numbered, nofun⟩, h.subject⟩
      rw [Desk.take, has]
      rfl
  | setBackground isBackground now =>
    apply Leaves.nothing
    · rfl
    · rfl
    · refine ⟨⟨session.setBackground isBackground now, ?_, tallies.numbered, ?_⟩, h.subject⟩
      · rw [Desk.take, has]
        rfl
      · intro running
        exact tallies.running (Session.startsAnew_of_running running)
  | hide table =>
    apply Leaves.nothing
    · simp only [Desk.take]
      cases hidden : desk.db.hide? table with
      | none => rfl
      | some db => exact keptRows_hide hidden
    · rfl
    · exact ⟨h.session, h.subject⟩
  | restore table =>
    apply Leaves.nothing
    · simp only [Desk.take]
      cases restored : desk.db.restore? table with
      | none => rfl
      | some db => exact keptRows_restore restored
    · rfl
    · exact ⟨h.session, h.subject⟩

theorem Tallied.run (h : desk.Tallied marks) {calls : List DeskCall} (plain : ∀ call ∈ calls, call.IsPlain)
    (distinct : (DeskCall.freshIds calls).Nodup)
    (fresh : ∀ id ∈ DeskCall.freshIds calls, ∀ mark ∈ marks, mark.sessionId ≠ id) :
    Leaves desk marks (desk.marks calls) (DeskCall.freshIds calls) (desk.run calls) := by
  induction calls generalizing desk marks with
  | nil => exact .nothing rfl rfl h _
  | cons call rest ih =>
    have ids : DeskCall.freshIds (call :: rest) = DeskCall.freshIds [call] ++ DeskCall.freshIds rest :=
      List.filterMap_append (l := [call])
    rw [ids] at distinct fresh ⊢
    obtain ⟨-, distinct, apart⟩ := List.nodup_append.1 distinct
    have here : Leaves desk marks (desk.mark? call).toList (DeskCall.freshIds [call]) (desk.take call).2 := by
      apply h.take (plain call List.mem_cons_self)
      intro id hid
      exact fresh id (List.mem_append_left _ hid)
    apply here.trans
    apply ih here.tallied
    · intro other hother
      exact plain other (List.mem_cons_of_mem _ hother)
    · exact distinct
    · intro id hid mark hmark same
      rcases List.mem_append.1 hmark with old | new
      · exact fresh id (List.mem_append_right _ hid) mark old same
      · rcases here.origin mark new with own | ⟨old, hold, of_old⟩
        · exact apart _ own id hid same
        · exact fresh id (List.mem_append_right _ hid) old hold (of_old.trans same)

/-- A track call that fails leaves a mark exactly if it was the store that failed. -/
theorem Tallied.mark?_eq_none_iff (h : desk.Tallied marks) {moment : Moment} {event : Event}
    (named : moment.freshEvent ≠ "") (fresh : ∀ mark ∈ marks, mark.sessionId ≠ moment.freshSession)
    {cause : TrackerError} (failed : (desk.take (.track moment event)).1 = .error cause) :
    desk.mark? (.track moment event) = none ↔ ∀ fault, cause ≠ .storage fault := by
  have tracks := Tracker.track_tracks desk.tracker desk.emitter moment event desk.db
  simp only [Desk.take, mark?] at failed ⊢
  generalize desk.tracker.track desk.emitter moment event desk.db = tracked at tracks failed ⊢
  obtain ⟨answer, after, emitter, later⟩ := tracked
  cases tracks with
  | refused other rows =>
    cases failed
    exact iff_of_true (if_pos rfl) other
  | lost rows =>
    cases failed
    obtain ⟨mark, -, -, left, -⟩ := h.counted named fresh false emitter later
    apply iff_of_false
    · exact fun none => absurd (left.symm.trans none) nofun
    · exact fun other => other _ rfl
  | queues => cases failed

theorem tallied_nil {session : Session} (has : desk.tracker.session = some session)
    (anew : session.startsAnew = true) (general : ∀ s ∈ desk.tracker.subject, s.IsMade) :
    desk.Tallied [] := by
  refine ⟨⟨session, has, ⟨?_, nofun⟩, ?_⟩, general⟩
  · intro id
    rfl
  · intro running
    rw [anew] at running
    cases running

/-- What the failures of a run leave behind. Each row that comes into the queue carries its number, and a call
that fails leaves none exactly if it fails before the store is written. The numbers in the queue are without
gaps, and refer to the first event there, exactly if no event of a session is queued after one that got its
number and was not queued. -/
theorem numbered_iff_unbroken {session : Session} (has : desk.tracker.session = some session)
    (anew : session.startsAnew = true) (general : ∀ s ∈ desk.tracker.subject, s.IsMade)
    {calls : List DeskCall} (plain : ∀ call ∈ calls, call.IsPlain)
    (distinct : (DeskCall.freshIds calls).Nodup) :
    (∃ rows, (desk.run calls).db.keptRows = desk.db.keptRows ++ rows ∧
      List.Forall₂ (fun mark row => mark.IsShown desk.tracker.settings.base64 row)
        (desk.queuedMarks calls) rows) ∧
    (∀ before moment event after cause, calls = before ++ .track moment event :: after →
      ((desk.run before).take (.track moment event)).1 = .error cause →
        ((desk.run before).mark? (.track moment event) = none ↔ ∀ fault, cause ≠ .storage fault)) ∧
    (Numbered (desk.queuedMarks calls) ↔ Unbroken (desk.marks calls)) := by
  have initial := tallied_nil has anew general
  have leaves := initial.run plain distinct (by simp)
  refine ⟨leaves.rows, ?_, ?_⟩
  · rintro before moment event after cause rfl failed
    have ids : DeskCall.freshIds (before ++ .track moment event :: after) =
        DeskCall.freshIds before ++ moment.freshSession :: DeskCall.freshIds after :=
      List.filterMap_append
    rw [ids, List.nodup_append] at distinct
    have first : Leaves desk [] (desk.marks before) (DeskCall.freshIds before) (desk.run before) := by
      apply initial.run _ distinct.1 (by simp)
      intro call hcall
      exact plain call (List.mem_append_left _ hcall)
    have named := (plain _ (List.mem_append_right _ List.mem_cons_self)).1
    apply first.tallied.mark?_eq_none_iff named _ failed
    intro mark hmark same
    obtain own | ⟨old, hold, -⟩ := first.origin mark hmark
    · exact distinct.2.2 _ own _ List.mem_cons_self same
    · cases hold
  · obtain ⟨last, -, tallies⟩ := leaves.tallied.session
    exact tallies.numbered.queued_iff

def opened : Desk := ⟨Tracker.shop, Tracker.idleEmitter, Database.empty⟩

def minutePast : Moment := { Tracker.noon with clock := 43260000, freshEvent := "e-2", freshSession := "s-2" }

def gap : List DeskCall :=
  [.hide .events, .track Tracker.noon Tracker.purchase, .restore .events, .track minutePast Tracker.purchase]

def separated : List DeskCall :=
  [.hide .events, .track Tracker.noon Tracker.purchase, .restore .events, .startNew,
    .track minutePast Tracker.purchase]

theorem purchase_isPlain {moment : Moment} (named : moment.freshEvent ≠ "") :
    DeskCall.IsPlain (.track moment Tracker.purchase) := by
  refine ⟨named, nofun, ?_⟩
  rintro s ⟨⟩
  exact .userId .empty _

theorem gap_isPlain : ∀ call ∈ gap, call.IsPlain := by
  simp only [gap, List.forall_mem_cons]
  exact ⟨trivial, purchase_isPlain (by decide), trivial, purchase_isPlain (by decide), List.forall_mem_nil _⟩

theorem separated_isPlain : ∀ call ∈ separated, call.IsPlain := by
  simp only [separated, List.forall_mem_cons]
  exact ⟨trivial, purchase_isPlain (by decide), trivial, trivial, purchase_isPlain (by decide),
    List.forall_mem_nil _⟩

theorem numbered_separated : Unbroken (opened.marks separated) ∧ Numbered (opened.queuedMarks separated) ∧
    (opened.marks separated).map (fun mark => (mark.sessionId, mark.eventIndex, mark.queued)) =
      [("s-1", 1, false), ("s-2", 1, true)] := by
  have unbroken : Unbroken (opened.marks separated) := by
    unfold Unbroken
    decide +kernel
  have has : opened.tracker.session = some (Session.start .default none "user" 0) := rfl
  have law := numbered_iff_unbroken has rfl Tracker.shop_subject separated_isPlain (by decide)
  exact ⟨unbroken, law.2.2.2 unbroken, by decide +kernel⟩

/-- One event that is lost is enough: the next one of its session is the first in the queue and has number
two. -/
theorem not_always_numbered : ¬∀ (desk : Desk) (session : Session) (calls : List DeskCall),
    desk.tracker.session = some session → session.startsAnew = true →
    (∀ s ∈ desk.tracker.subject, s.IsMade) → (∀ call ∈ calls, call.IsPlain) →
    (DeskCall.freshIds calls).Nodup → Numbered (desk.queuedMarks calls) := by
  intro law
  have numbered := law opened _ gap rfl rfl Tracker.shop_subject gap_isPlain (by decide)
  have indices := numbered.indices "s-1"
  revert indices
  decide +kernel

end Desk

end Telemetry

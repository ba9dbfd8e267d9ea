import Telemetry.Proofs.Delivery.Accounts
import Telemetry.Proofs.Tracking.Numbering

set_option autoImplicit false

namespace Telemetry

open Delivery (DeliveryStatus Emitter Exchange Outcome Policy RetryRules SendLoop Surroundings rowsWith)
open Store (Database EventRow Row)

namespace Delivery

def Outcome.reportedAs? (rows : List EventRow) (id : Int) : Option String :=
  (rows.find? (·.id = id)).bind (·.payload.get? Protocol.eventIdKey)

/-- A report lists the rows whose requests got its status, each by what its batch reports it as. -/
theorem Outcome.eventIds_of_mem_notices {rules : RetryRules} {rows : List EventRow}
    {exchanges : List Exchange} {subscribed : List DeliveryStatus} {notice : Notice}
    (reported : notice ∈ (Outcome.ofExchanges rules rows exchanges).notices subscribed) :
    notice.eventIds = (rowsWith rules notice.status exchanges).filterMap (reportedAs? rows) := by
  obtain ⟨status, -, rfl⟩ := List.mem_map.1 reported
  exact ofExchanges_idsWith_rowsWith rules rows exchanges status

namespace SendLoop

/-- A loop that reads a row reports it under a name, whatever answers and statuses it gets. -/
def ReportsAs (policy : Policy) (s : Surroundings) (row : Row) (name : String) : Prop :=
  row.id ∈ (read policy s).1.map (·.id) →
    Outcome.reportedAs? (read policy s).1 row.id = some name ∧
    ∀ (rules : RetryRules) (exchanges : List Exchange) (subscribed : List DeliveryStatus),
      ∀ notice ∈ (Outcome.ofExchanges rules (read policy s).1 exchanges).notices subscribed,
        notice.eventIds = (rowsWith rules notice.status exchanges).filterMap
          (Outcome.reportedAs? (read policy s).1)

variable {policy : Policy} {s : Surroundings} {row : Row} {payload : Payload}

theorem reportedAs?_read (kept : row ∈ s.db.rows) (holds : row.payload? = some payload)
    (found : row.id ∈ (read policy s).1.map (·.id)) :
    Outcome.reportedAs? (read policy s).1 row.id = payload.get? Protocol.eventIdKey := by
  obtain ⟨event, hevent, id⟩ := List.mem_map.1 found
  obtain ⟨first, hfirst⟩ : ∃ first, (read policy s).1.find? (·.id = row.id) = some first := by
    rw [← Option.isSome_iff_exists, List.find?_isSome]
    exact ⟨event, hevent, by simpa using id⟩
  have same : first.id = row.id := by simpa using List.find?_some hfirst
  obtain ⟨stored, inside, of_first, told⟩ :=
    (read_answered policy s).stored first (List.mem_of_find?_eq_some hfirst)
  have before := (read_trims policy s).sublist.subset inside
  obtain rfl := Store.eq_of_id_eq s.db.rows_ascending before kept (of_first.trans same)
  cases holds.symm.trans told
  rw [Outcome.reportedAs?, hfirst, Option.bind_some]

theorem reportsAs (kept : row ∈ s.db.rows) (holds : row.payload? = some payload) {name : String}
    (named : payload.get? Protocol.eventIdKey = some name) : ReportsAs policy s row name := by
  intro found
  refine ⟨?_, fun rules exchanges subscribed notice => Outcome.eventIds_of_mem_notices⟩
  rw [reportedAs?_read kept holds found, named]

end SendLoop

end Delivery

theorem Event.identifier_eq_iff {event : Event} {given : String} :
    event.identifier given = given ↔ ∀ own ∈ event.ownIdentifier?, own = given := by
  unfold identifier
  cases event.ownIdentifier? <;> simp

namespace Tracker

variable {tracker : Tracker} {moment : Moment} {event : Event} {emitter : Emitter} {db : Database}

/-- An event that begins a session is the first one that its entity tells. -/
theorem dataText?_moved {session : Session} (has : tracker.session = some session)
    (lapsed : session.isOver moment.clock) (named : moment.freshEvent ≠ "") :
    ∃ entity, ((tracker.moved moment).session.map Session.entity).toList = [entity] ∧
      entity.schema = Protocol.sessionSchema ∧ entity.dataText? "firstEventId" = some moment.freshEvent := by
  let record := session.nextRecord moment.freshSession moment.freshEvent moment.clock
  have moved : (tracker.moved moment).session.map Session.entity = some (record.entity 1) := by
    simp only [Tracker.moved, has, Option.map_some, Session.moved, if_pos lapsed]
    rfl
  refine ⟨record.entity 1, by rw [moved]; rfl, rfl, ?_⟩
  rw [SessionRecord.dataText?_firstEventId]
  simp [record, Session.nextRecord, Session.nonEmpty?, named]

/-- Where an event that was tracked is known, and as what. -/
structure Identifies (tracker : Tracker) (moment : Moment) (event : Event) (row : Row) (payload : Payload)
    (id : String) : Prop where
  holds : row.payload? = some payload
  queued : payload.get? Protocol.eventIdKey = some (event.identifier id)
  reported : ∀ (policy : Policy) (s : Surroundings), row ∈ s.db.rows →
    SendLoop.ReportsAs policy s row (event.identifier id)
  session : ∀ session ∈ tracker.session, session.isOver moment.clock →
    payload.get? (contextsKey tracker.settings.base64) =
        some (contextsText tracker.settings.base64 (tracker.queuedEntities moment event)) ∧
      ∃ entity ∈ tracker.queuedEntities moment event,
        entity.schema = Protocol.sessionSchema ∧ entity.dataText? "firstEventId" = some id

theorem identifies_of_ok (named : moment.freshEvent ≠ "") (own : ∀ s ∈ event.subject, s.IsMade)
    (general : ∀ s ∈ tracker.subject, s.IsMade) {id : String}
    (ok : (tracker.track emitter moment event db).result = .ok id) :
    ∃ row payload, (tracker.track emitter moment event db).db.keptRows = db.keptRows ++ [row] ∧
      Identifies tracker moment event row payload id := by
  have tracks := tracker.track_tracks emitter moment event db
  rw [ok] at tracks
  generalize (tracker.track emitter moment event db).tracker = after at tracks
  generalize (tracker.track emitter moment event db).db = later at tracks
  cases tracks with
  | queues rows holds =>
    have queued := get?_parameters_eventIdKey named own general
      ((tracker.moved moment).session.map Session.entity).toList
    refine ⟨_, _, rows, holds, queued, fun policy s kept => SendLoop.reportsAs kept holds queued, ?_⟩
    intro session has lapsed
    obtain ⟨entity, only, schema, first⟩ := dataText?_moved has lapsed named
    rw [queuedEntities, only]
    exact ⟨get?_parameters_contextsKey .., entity, by simp [entities], schema, first⟩

/-- The row of an event that was tracked, and every report about the row, go by the identifier that the event
carries, and the session that it began by the identifier that tracking answered. These are the same exactly if
the event sets no other among its own parameters. -/
theorem identifier_shared_iff (named : moment.freshEvent ≠ "") (own : ∀ s ∈ event.subject, s.IsMade)
    (general : ∀ s ∈ tracker.subject, s.IsMade) {id : String}
    (ok : (tracker.track emitter moment event db).result = .ok id) :
    ∃ row payload, (tracker.track emitter moment event db).db.keptRows = db.keptRows ++ [row] ∧
      Identifies tracker moment event row payload id ∧
      (payload.get? Protocol.eventIdKey = some id ↔ ∀ other ∈ event.ownIdentifier?, other = id) := by
  obtain ⟨row, payload, rows, identifies⟩ := identifies_of_ok named own general ok
  refine ⟨row, payload, rows, identifies, ?_⟩
  rw [identifies.queued, Option.some.injEq, Event.identifier_eq_iff]

def pageView (fields : List (String × String)) : Event :=
  ⟨.custom (("e", "pv") :: fields), [], none, none⟩

theorem pageView_subject (fields : List (String × String)) : ∀ s ∈ (pageView fields).subject, s.IsMade := by
  rintro s ⟨⟩

theorem pageView_ok : (shop.track idleEmitter noon (pageView [("url", "/")]) .empty).result = .ok "e-1" ∧
    (shop.track idleEmitter noon (pageView [("eid", "own")]) .empty).result = .ok "e-1" := by
  decide +kernel

theorem identifier_shared_iff_pageView :
    ∃ row payload,
      (shop.track idleEmitter noon (pageView [("url", "/")]) .empty).db.keptRows = [row] ∧
      row.payload? = some payload ∧ payload.get? "eid" = some "e-1" := by
  obtain ⟨row, payload, rows, identifies, shared⟩ :=
    identifier_shared_iff (by decide) (pageView_subject _) shop_subject pageView_ok.1
  exact ⟨row, payload, rows, identifies.holds, shared.2 (by decide)⟩

/-- An event that names itself is queued under its own name, whatever tracking answers. -/
theorem identifier_not_always_shared :
    ¬∀ (tracker : Tracker) (emitter : Emitter) (moment : Moment) (event : Event) (db : Database)
        (id : String),
      moment.freshEvent ≠ "" → (∀ s ∈ event.subject, s.IsMade) → (∀ s ∈ tracker.subject, s.IsMade) →
      (tracker.track emitter moment event db).result = .ok id →
        ∃ row payload, (tracker.track emitter moment event db).db.keptRows = db.keptRows ++ [row] ∧
          row.payload? = some payload ∧ payload.get? Protocol.eventIdKey = some id := by
  intro law
  obtain ⟨row, payload, rows, holds, shared⟩ :=
    law shop idleEmitter noon (pageView [("eid", "own")]) .empty "e-1" (by decide) (pageView_subject _)
      shop_subject pageView_ok.2
  obtain ⟨row', payload', rows', identifies⟩ :=
    identifies_of_ok (by decide) (pageView_subject _) shop_subject pageView_ok.2
  obtain rfl : row = row' := by simpa using rows.symm.trans rows'
  cases holds.symm.trans identifies.holds
  rw [identifies.queued] at shared
  revert shared
  decide

end Tracker

end Telemetry

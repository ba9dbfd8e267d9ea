import Telemetry.Proofs.Session.Visit
import Telemetry.Proofs.Store.Queue
import Telemetry.Proofs.Tracking.Preparation

set_option autoImplicit false

namespace Telemetry

open Delivery (Emitter RetryRules)
open Store (Database)

namespace Session

def moved (session : Session) (now : Nat) (freshId eventId : String) (timestamp : Nat) : Session :=
  if session.isOver now then session.begun now freshId eventId timestamp else session.counted now

theorem context_ok {session after : Session} {db later : Database} {now timestamp : Nat}
    {freshId eventId : String} {entity : SelfDescribing}
    (h : session.context db now freshId eventId timestamp = (.ok entity, after, later)) :
    after = session.moved now freshId eventId timestamp ∧ entity = after.entity ∧
      later.events = db.events := by
  have counts := session.context_counts db now freshId eventId timestamp
  rw [h] at counts
  cases counts with
  | goesOn running => exact ⟨(if_neg (Bool.eq_false_iff.1 running)).symm, rfl, rfl⟩
  | begins lapsed => exact ⟨(if_pos lapsed).symm, rfl, rfl⟩

theorem context_isOk {session : Session} {db : Database} (room : session.index < maxWord)
    (present : db.session.present.isSome) (now : Nat) (freshId eventId : String) (timestamp : Nat) :
    ∃ entity, (session.context db now freshId eventId timestamp).1 = .ok entity := by
  have counts := session.context_counts db now freshId eventId timestamp
  generalize session.context db now freshId eventId timestamp = answer at counts ⊢
  obtain ⟨result, after, later⟩ := answer
  cases counts with
  | goesOn => exact ⟨_, rfl⟩
  | begins => exact ⟨_, rfl⟩
  | exhausted _ last => omega
  | unwritten _ _ _ missing =>
    rw [missing] at present
    cases present

end Session

namespace Tracker

def moved (tracker : Tracker) (moment : Moment) : Tracker :=
  { tracker with session := tracker.session.map fun session =>
      session.moved moment.clock moment.freshSession moment.freshEvent moment.clock }

variable {tracker after : Tracker} {moment : Moment} {event : Event} {emitter : Emitter}
  {db later : Database} {sessions : List SelfDescribing}

theorem visit_ok (h : tracker.visit moment db = (.ok sessions, after, later)) :
    after = tracker.moved moment ∧ sessions = (after.session.map Session.entity).toList ∧
      later.events = db.events := by
  obtain ⟨settings, subject, session⟩ := tracker
  cases session with
  | none =>
    cases h
    exact ⟨rfl, rfl, rfl⟩
  | some session =>
    simp only [visit, sessionEntities] at h
    generalize answer : session.context db moment.clock moment.freshSession
      (EventPayload.new moment.freshEvent moment.clock).eventId
      (EventPayload.new moment.freshEvent moment.clock).timestamp = context at h
    obtain ⟨result, moved, later⟩ := context
    cases result with
    | error cause => cases h
    | ok entity =>
      obtain ⟨rfl, rfl, same⟩ := Session.context_ok answer
      cases h
      exact ⟨rfl, rfl, same⟩

theorem visit_isOk (ready : ∀ session ∈ tracker.session,
    session.index < maxWord ∧ db.session.present.isSome) :
    ∃ sessions, (tracker.visit moment db).1 = .ok sessions := by
  obtain ⟨settings, subject, session⟩ := tracker
  cases session with
  | none => exact ⟨[], rfl⟩
  | some session =>
    obtain ⟨room, present⟩ := ready session rfl
    obtain ⟨entity, answer⟩ := Session.context_isOk room present moment.clock moment.freshSession
      moment.freshEvent moment.clock
    refine ⟨[entity], ?_⟩
    simp only [visit, sessionEntities, EventPayload.new]
    rw [answer]
    rfl

/-- The entities of an event that is queued: its own, then that of its session, then that of the host. -/
def queuedEntities (tracker : Tracker) (moment : Moment) (event : Event) : List SelfDescribing :=
  tracker.entities moment event ((tracker.moved moment).session.map Session.entity).toList

def contextsKey (base64 : Bool) : String :=
  if base64 then Protocol.contextsEncodedKey else Protocol.contextsKey

def contextsJson (entities : List SelfDescribing) : Json :=
  .object [("data", .array (entities.map SelfDescribing.json)),
    ("schema", .string Protocol.contextsSchema)]

section

variable (known : event.body.isBuiltIn) (named : moment.freshEvent ≠ "")
  (own : ∀ s ∈ event.subject, s.IsMade) (general : ∀ s ∈ tracker.subject, s.IsMade)

include known own general

include named

end

/-- Whether a payload can be queued does not depend on the payload. -/
theorem add_cases (emitter : Emitter) (db : Database) :
    (db.isOpen = false ∧ ∀ payload, emitter.add db payload = .error .database) ∨
      ∀ payload, ∃ later, emitter.add db payload = .ok (emitter.wake, later) ∧
        later.session = db.session ∧ later.rows = db.rows ++ [db.nextRow payload] := by
  cases opened : db.isOpen with
  | false =>
    have missing : db.events.present = none := by simpa [Database.isOpen] using opened
    refine .inl ⟨rfl, fun payload => ?_⟩
    rw [Emitter.add, Database.add, Store.Shelf.write?, missing]
    rfl
  | true =>
    refine .inr fun payload => ?_
    obtain ⟨later, added, same, rows⟩ := Database.add_spec payload opened
    refine ⟨later, ?_, same.1, rows⟩
    rw [Emitter.add, added]
    rfl

theorem track_isOk (known : event.body.isBuiltIn) (complete : event.body.lacks? = none)
    (opened : db.isOpen)
    (ready : ∀ session ∈ tracker.session, session.index < maxWord ∧ db.session.present.isSome) :
    ∃ id, (tracker.track emitter moment event db).result = .ok id := by
  obtain ⟨sessions, ok⟩ := visit_isOk ready
  rcases visited : tracker.visit moment db with ⟨result, after, later⟩
  rw [visited] at ok
  cases ok
  obtain ⟨-, -, same⟩ := visit_ok visited
  refine ⟨moment.freshEvent, ?_⟩
  rw [track_eq tracker moment known, complete]
  rcases add_cases emitter later with ⟨closed, -⟩ | adds
  · rw [Database.isOpen, same, ← Database.isOpen, opened] at closed
    cases closed
  · obtain ⟨final, added, -⟩ := adds (.ofPairs (tracker.parameters moment event sessions))
    simp only [visited, added]

def shop : Tracker where
  settings := { name := "shop", appId := "web" }
  subject := some ((Subject.empty.setUserId "house").setTimezone "UTC")
  session := some (Session.start .default none "user" 0)

def noon : Moment := ⟨43200000, "e-1", "s-1", ⟨"Linux", "6.1", true, "", "", 8⟩⟩

def purchase : Event where
  body := .structured "basket" "buy" none (some "") none
  context := [⟨"iglu:com.acme/basket/jsonschema/1-0-0", .object [("items", .int 3)]⟩]
  subject := some (Subject.empty.setUserId "guest")

def idleEmitter : Emitter :=
  ⟨⟨⟨"https://collector.example/", .post, 50, 52000, 52000⟩, RetryRules.empty, []⟩, ⟨false, false, 0⟩, [],
    none⟩

theorem shop_subject : ∀ s ∈ shop.subject, s.IsMade := by
  rintro s ⟨⟩
  exact .timezone (.userId .empty _) _

theorem shop_ready : ∀ session ∈ shop.session,
    session.index < maxWord ∧ Database.empty.session.present.isSome := by
  rintro session ⟨⟩
  exact ⟨by decide, rfl⟩

end Tracker

end Telemetry

import Telemetry.Proofs.Calendar.Text
import Telemetry.Proofs.Session.Visit

set_option autoImplicit false

namespace Telemetry

open Calendar (dateTimeText endOfYear instant? lastYear)
open Store (Database)

namespace Session

theorem dataText?_context {session : Session} {db : Database} {now timestamp : Nat}
    {freshId eventId : String} {entity : SelfDescribing} (lapsed : session.isOver now)
    (told : (session.context db now freshId eventId timestamp).1 = .ok entity) :
    entity.dataText? "firstEventTimestamp" = some (dateTimeText timestamp) := by
  have counts := session.context_counts db now freshId eventId timestamp
  rw [told] at counts
  generalize (session.context db now freshId eventId timestamp).2 = after at counts
  obtain ⟨later, db'⟩ := after
  cases counts with
  | goesOn running =>
    rw [lapsed] at running
    cases running
  | begins => exact SessionRecord.dataText?_firstTimestamp _ _

/-- Until the end of the last year that can be named, the text of an instant reads as that instant, and what a
context tells of the first event of a new session is such a text. Until the year 9999 all texts are of one
length and in the order of their instants. -/
theorem timestamps_exact :
    (∀ ms : Nat, (ms : Int) < endOfYear lastYear → instant? (dateTimeText ms) = some (ms : Int)) ∧
    (∀ (session : Session) (db : Database) (now ms : Nat) (freshId eventId : String)
      (entity : SelfDescribing), (ms : Int) < endOfYear lastYear → session.isOver now →
        (session.context db now freshId eventId ms).1 = .ok entity →
          (entity.dataText? "firstEventTimestamp").bind instant? = some (ms : Int)) ∧
    ∀ a b : Nat, (a : Int) < endOfYear 9999 → (b : Int) < endOfYear 9999 →
      (dateTimeText a).length = 24 ∧ (dateTimeText a < dateTimeText b ↔ a < b) := by
  have reads : ∀ ms : Nat, (ms : Int) < endOfYear lastYear →
      instant? (dateTimeText ms) = some (ms : Int) := by
    intro ms h
    rw [Calendar.dateTimeText_eq h, Calendar.instant?_dateTimeChars]
  refine ⟨reads, ?_, ?_⟩
  · intro session db now ms freshId eventId entity h lapsed told
    rw [dataText?_context lapsed told, Option.bind_some, reads ms h]
  · intro a b ha hb
    exact ⟨Calendar.dateTimeText_length ha, Calendar.dateTimeText_lt_iff ha hb⟩

theorem timestamps_exact_leapDay :
    let session := Session.start .default none "user" 0
    ((951868799999 : Nat) : Int) < endOfYear 9999 ∧ ((951868800000 : Nat) : Int) < endOfYear 9999 ∧
      session.isOver 0 ∧ instant? (dateTimeText 951868799999) = some 951868799999 ∧
      (∃ entity, (session.context .empty 0 "first" "a" 951868800000).1 = .ok entity ∧
        (entity.dataText? "firstEventTimestamp").bind instant? = some 951868800000) ∧
      (dateTimeText 951868799999).length = 24 ∧ dateTimeText 951868799999 < dateTimeText 951868800000 := by
  intro session
  have early : ((951868799999 : Nat) : Int) < endOfYear 9999 ∧
      ((951868800000 : Nat) : Int) < endOfYear 9999 := by
    decide
  have named : endOfYear 9999 < endOfYear lastYear := by decide
  have lapsed : session.isOver 0 := rfl
  obtain ⟨reads, tells, order⟩ := timestamps_exact
  obtain ⟨length, less⟩ := order _ _ early.1 early.2
  have told : (session.context .empty 0 "first" "a" 951868800000).1 = .ok _ := rfl
  exact ⟨early.1, early.2, lapsed, reads _ (early.1.trans named),
    ⟨_, told, tells _ _ _ _ _ _ _ (early.2.trans named) lapsed told⟩, length, less.2 (by decide)⟩

example : dateTimeText 951868799999 = "2000-02-29T23:59:59.999Z" := by decide +kernel

end Session

end Telemetry

import Telemetry.Proofs.CommandLine.Report
import Telemetry.Proofs.Delivery.Audit
import Telemetry.Proofs.Tracking.Numbering

set_option autoImplicit false

/-!
Reports on events that are tracked, flushed and sent by steps in any order. Every step of a loop or of a caller
may come between the steps of another, and an event goes by its place of arrival, as its row can have the id of
a row that is gone.
-/

namespace Telemetry.CommandLine

open Delivery (Audit Audited Deed DeliveryStatus RetryRules Scene)
open Store (Database)

def AddsUp (audit : Audit) : Prop :=
  (SendReport.ofRecords audit.scene.surroundings.history).AddsUp audit.scene.db.rows.length
    audit.account.events audit.account.exchanges

section

variable {first : Scene} {deeds : List Deed} (new : first.IsNew)
  (fresh : first.surroundings.history = []) (named : ∀ row ∈ first.db.rows, row.IsNamed)
  (small : first.emitter.policy.settings.batchSize ≤ Database.maxParameters)
  (subscribed : first.emitter.policy.subscribed = DeliveryStatus.all)
  (rules : first.emitter.policy.rules = RetryRules.empty) (sound : ∀ deed ∈ deeds, deed.IsSound)

include new fresh named small subscribed rules sound

/-- Whenever nothing is in hand, a report accounts for every event that has come. -/
theorem quiet_report_adds_up
    (quiet : ∀ loop ∈ ((Audit.start first).run deeds).scene.emitter.loops, loop.phase.isQuiet) :
    AddsUp ((Audit.start first).run deeds) := by
  have audited : Audited first.emitter.policy ((Audit.start first).run deeds) :=
    (Audited.start new fresh named).run small subscribed sound
  exact addsUp_of_books (audited.kept.idle quiet) rfl rules

/-- That is so once a flush or a stop has come to its end. -/
theorem stopped_report_adds_up (idle : ((Audit.start first).run deeds).scene.caller = .done)
    (stopped : ((Audit.start first).run deeds).scene.emitter.isRunning = false) :
    AddsUp ((Audit.start first).run deeds) := by
  have audited : Audited first.emitter.policy ((Audit.start first).run deeds) :=
    (Audited.start new fresh named).run small subscribed sound
  exact quiet_report_adds_up new fresh named small subscribed rules sound
    (audited.isQuiet_of_stopped idle stopped)

end

/-- An event whose row has the id of one before it, and the requests about both. -/
example :
    let payload := Payload.ofPairs [("eid", "e")]
    let round : List Deed := [.turn (.loop 0), .turn (.loop 0), .turn (.loop 0), .turn (.loop 0)]
    let audit := (Audit.start .plain).run
      ([.turn (.start true), .insert payload] ++ round ++ [.insert payload] ++ round)
    (Delivery.exchangesOf audit.scene.surroundings.history).map (·.request.rowIds) = [[1], [1]] ∧
      audit.account.exchanges.map (·.request.rowIds) = [[0], [1]] := by
  decide +kernel

end Telemetry.CommandLine

namespace Telemetry.Tracker

open Delivery (Audit Deed Emitter)
open Store (Database)

variable {tracker : Tracker} {moment : Moment} {event : Event}

theorem track_of_visit {payload : EventPayload} {emitter : Emitter} {db later : Database} {after : Tracker}
    {sessions : List SelfDescribing}
    (made : event.payload tracker.settings.base64 (.new moment.freshEvent moment.clock) = .ok payload)
    (visited : tracker.visit moment db = (.ok sessions, after, later)) :
    tracker.track emitter moment event db =
      match later.add (.ofPairs (tracker.parameters moment event sessions)) with
      | .error cause => ⟨.error (.storage cause), after, emitter, later⟩
      | .ok db => ⟨.ok moment.freshEvent, after, emitter.wake, db⟩ := by
  rw [track, tracker.prepare_of_payload moment made, visited]
  dsimp only [Emitter.add, EventPayload.made]
  cases later.add (.ofPairs (tracker.parameters moment event sessions)) <;> rfl

/-- Tracking writes the session beside the queue and adds an event, and others may act in between. An event
that is not answered with an identifier does not come into the queue. -/
theorem track_deeds (named : moment.freshEvent ≠ "") (own : ∀ s ∈ event.subject, s.IsMade)
    (general : ∀ s ∈ tracker.subject, s.IsMade) (audit : Audit) :
    ∃ deeds : List Deed, (∀ deed ∈ deeds, deed.IsSound) ∧
      (audit.run deeds).scene = { audit.scene with
        emitter := (tracker.track audit.scene.emitter moment event audit.scene.db).emitter }.setDb
          (tracker.track audit.scene.emitter moment event audit.scene.db).db ∧
      (audit.run deeds).account.events.length = audit.account.events.length +
        if (tracker.track audit.scene.emitter moment event audit.scene.db).result.isOk then 1 else 0 := by
  cases made : event.payload tracker.settings.base64 (.new moment.freshEvent moment.clock) with
  | error cause =>
    rw [track, prepare, made]
    exact ⟨[], by simp, rfl, rfl⟩
  | ok payload =>
    rcases visited : tracker.visit moment audit.scene.db with ⟨result, after, later⟩
    cases result with
    | error cause =>
      have beside := audit.take_beside (visit_error visited).1
      rw [track, tracker.prepare_of_payload moment made, visited]
      exact ⟨[.beside later.session], by simp [Deed.IsSound], congrArg Audit.scene beside, rfl⟩
    | ok sessions =>
      have same := (visit_ok visited).2.2
      have queued := get?_parameters_eventIdKey named own general sessions
      rw [track_of_visit made visited]
      generalize Payload.ofPairs (tracker.parameters moment event sessions) = payload at queued ⊢
      cases added : later.add payload with
      | error cause =>
        have beside := audit.take_beside same
        exact ⟨[.beside later.session], by simp [Deed.IsSound], congrArg Audit.scene beside, rfl⟩
      | ok final =>
        have ran := audit.run_add same added
        refine ⟨[.beside later.session, .insert payload, .wake], ?_, ?_, ?_⟩
        · simp [Deed.IsSound, queued]
        · rw [ran]
          rfl
        · rw [ran]
          exact List.length_append

end Telemetry.Tracker

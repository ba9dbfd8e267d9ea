import Telemetry.Proofs.CommandLine.Opening
import Telemetry.Proofs.Delivery.Settling

set_option autoImplicit false

namespace Telemetry.CommandLine

open Delivery (Answer DeliveryStatus Exchange Record RetryRules Scene SendLoop exchangesOf lastExchange?
  reportedIds timesRefused)
open Job
open Store (Database Files Place Row Table)

theorem reported_eq (status : DeliveryStatus) (records : List Record) :
    reported status records = (reportedIds status records).length := by
  induction records using List.reverseRecOn with
  | nil => rfl
  | append_singleton rest record ih =>
    rw [Delivery.reportedIds_append, List.length_append, ← ih, reported, List.foldl_append, ← reported]
    cases record with
    | exchanged time exchange => rfl
    | noticed notice =>
      by_cases same : notice.status = status
      · simp [reportedIds, same]
      · simp [reportedIds, same]

structure SendReport.AddsUp (report : SendReport) (remaining : Nat) (events : List Int)
    (exchanges : List Exchange) : Prop where
  distinct : events.Nodup
  only : ∀ exchange ∈ exchanges, exchange.request.rowIds ⊆ events
  total : report.sent + report.dropped + remaining = events.length
  sent : report.sent = events.countP fun id => (lastExchange? exchanges id).any (·.answer.isSuccess)
  dropped : report.dropped = events.countP fun id =>
    (lastExchange? exchanges id).any fun exchange =>
      exchange.isFinal RetryRules.empty && !exchange.answer.isSuccess
  /-- An event counts once for each answer that leaves it to be tried again. -/
  willRetry : report.willRetry = (events.map (timesRefused RetryRules.empty exchanges)).sum

variable {scene : Scene} {events : List Int} {policy : Delivery.Policy}

theorem addsUp_of_books {account : Delivery.Account} {loop : SendLoop} {s : Delivery.Surroundings}
    (books : Delivery.Books account policy loop s) (quiet : loop.phase.isQuiet)
    (rules : policy.rules = RetryRules.empty) :
    (SendReport.ofRecords s.history).AddsUp s.db.rows.length account.events account.exchanges := by
  have total := books.total quiet
  have sent := books.reported_success quiet
  have dropped := books.reported_wontRetry quiet
  have willRetry := books.reported_willRetry quiet
  rw [rules] at dropped willRetry
  simp only [← reported_eq] at total sent dropped willRetry
  have only : ∀ exchange ∈ account.exchanges, exchange.request.rowIds ⊆ account.events := by
    intro exchange hexchange
    exact (books.sent exchange hexchange).2
  exact ⟨books.distinct, only, total, sent, dropped, willRetry⟩

def exchangesOfApp (app : Application) : List Exchange :=
  app.stations.flatMap fun station => exchangesOf station.scene.surroundings.history

/-- The scene that a command acts on: that of its one tracker, with the database as it stands. -/
def ActsOn (app : Application) (place : Place) (scene : Scene) : Prop :=
  ∃ station, app.stations = [station] ∧ station.KeepsAt place ∧
    (station.refresh app.files app.clock).scene = scene

variable {app : Application} {place : Place} {before after : Application × String} {rows : List Row}

theorem ActsOn.database (h : ActsOn app place scene) : app.files.database place = scene.db := by
  obtain ⟨station, -, keeps, rfl⟩ := h
  exact (keeps.db_refresh app.files app.clock).symm

theorem ActsOn.exchanges (h : ActsOn app place scene) :
    exchangesOfApp app = exchangesOf scene.surroundings.history := by
  obtain ⟨station, only, -, rfl⟩ := h
  rw [exchangesOfApp, only, List.flatMap_singleton]
  rfl

variable {settings : Settings} {path : String}

end Telemetry.CommandLine

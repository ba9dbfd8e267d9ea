import Telemetry.Proofs.CommandLine.Jobs
import Telemetry.Proofs.Delivery.Accounts
import Telemetry.Proofs.Session.Visit
import Telemetry.Proofs.Store.Files
import Telemetry.Proofs.Tracking.Queued

set_option autoImplicit false

namespace Telemetry

open Delivery (DeliveryStatus EmitterSettings Method RetryRules SendLoop)
open Store (Database Files Place Row)
open Store.Files (IsInner Opens)

namespace Delivery.Emitter

variable {emitter after : Emitter}

structure IsReady (emitter : Emitter) : Prop where
  small : emitter.policy.settings.batchSize ≤ Database.maxParameters
  rules : emitter.policy.rules = RetryRules.empty
  subscribed : emitter.policy.subscribed = DeliveryStatus.all
  running : emitter.isRunning
  worker : emitter.worker = some 0
  loops : emitter.loops = [SendLoop.new]

theorem IsReady.wake (h : emitter.IsReady) : emitter.wake.IsReady := by
  obtain ⟨policy, worker, running, -⟩ := emitter.wake_frame
  have none : ∀ loop ∈ emitter.loops, loop.isParked = false := by
    rw [h.loops]
    intro loop hloop
    rw [List.mem_singleton.1 hloop]
    rfl
  have loops : emitter.wake.loops = emitter.loops := by rw [wake_of_none_parked none]
  exact ⟨policy ▸ h.small, policy ▸ h.rules, policy ▸ h.subscribed, running.trans h.running,
    worker.trans h.worker, loops.trans h.loops⟩

end Delivery.Emitter

namespace Plan

variable {files after : Files} {place : Place} {path : String}

variable {plan : Plan} {environment : Environment} {freshUser : String} {clock : Nat} {station : Station}

end Plan

namespace Station

variable {place : Place} {station : Station}

structure KeepsAt (station : Station) (place : Place) : Prop where
  inner : IsInner place
  events : station.events = place
  session : station.session = place

theorem KeepsAt.congr (h : station.KeepsAt place) {after : Station} (events : after.events = station.events)
    (session : after.session = station.session) : after.KeepsAt place :=
  ⟨h.inner, events.trans h.events, session.trans h.session⟩

theorem KeepsAt.db_refresh (h : station.KeepsAt place) (files : Files) (clock : Nat) :
    (station.refresh files clock).scene.db = files.database place := by
  unfold refresh view
  rw [h.events, h.session]
  rfl

end Station

namespace Application

variable {app after : Application} {place : Place} {station : Station}

structure IsReady (place : Place) (rows : List Row) (app : Application) : Prop where
  tracker : ∃ station, app.stations = [station] ∧ station.KeepsAt place ∧
    (∀ s ∈ station.tracker.subject, s.IsMade) ∧ station.scene.emitter.IsReady ∧
      station.scene.surroundings.history = []
  opened : (app.files.database place).isOpen
  rows : (app.files.database place).rows = rows

end Application

namespace CommandLine

open Job

variable {settings : Settings} {path : String} {before after : Application × String}

end CommandLine

end Telemetry

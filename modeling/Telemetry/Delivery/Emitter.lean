import Telemetry.Delivery.Collector
import Telemetry.Delivery.SendLoop

set_option autoImplicit false

/-!
Emitters: what callers do to the loop that sends queued events. `start`, `add` and the changes of settings
are single steps; a stop and a flush are made of several, between which loops and other callers may step.
-/

namespace Telemetry.Delivery

open Store (Database)

structure EmitterSettings where
  batchSize : Nat := 50
  byteLimitGet : Nat := 52000
  byteLimitPost : Nat := 52000
  rules : List (Nat × Bool) := []
  subscribed : Option (List DeliveryStatus) := none
  deriving DecidableEq, Repr

structure Emitter where
  policy : Policy
  signals : Signals
  loops : List SendLoop
  /-- The loop whose end a stop waits for. -/
  worker : Option Nat
  deriving DecidableEq

namespace Emitter

def isRunning (emitter : Emitter) : Bool := emitter.signals.running

def subscribe (emitter : Emitter) (statuses : List DeliveryStatus) : Except TrackerError Emitter :=
  if emitter.isRunning then .error .emitterRunning
  else .ok { emitter with policy := { emitter.policy with subscribed := statuses } }

def leastRuleCode : Nat := 300

/-- Say whether a request that is refused with a status code is tried again. -/
def setRule (emitter : Emitter) (code : Nat) (retry : Bool) : Except TrackerError Emitter :=
  if code < leastRuleCode then .error (.invalidArgument (.ruleBelowRedirects code))
  else if emitter.isRunning then .error .emitterRunning
  else .ok { emitter with policy :=
    { emitter.policy with rules := emitter.policy.rules.insert code retry } }

/-- A stopped emitter for an endpoint. Batches hold at least one event. -/
def new (url : Url) (method : Method) (settings : EmitterSettings) : Except TrackerError Emitter :=
  let emitter : Emitter := {
    policy := {
      settings := {
        url := url.text
        method := method
        batchSize := max settings.batchSize 1
        byteLimitGet := settings.byteLimitGet
        byteLimitPost := settings.byteLimitPost }
      rules := RetryRules.empty
      subscribed := settings.subscribed.getD [] }
    signals := ⟨false, false, 0⟩
    loops := []
    worker := none }
  settings.rules.foldlM (fun emitter rule => emitter.setRule rule.1 rule.2) emitter

def ofNetwork (network : Network) (settings : EmitterSettings) : Except TrackerError Emitter :=
  match network.endpoint with
  | .ok url => new url network.method settings
  | .error cause => .error (.invalidArgument cause)

/-- Start a loop unless one is running. Loops need a runtime to live in. -/
def start (hasRuntime : Bool) (emitter : Emitter) : Except TrackerError Emitter :=
  if emitter.isRunning then .ok emitter
  else if hasRuntime then
    .ok { emitter with
      signals := { emitter.signals with running := true }
      loops := emitter.loops ++ [SendLoop.new]
      worker := some emitter.loops.length }
  else .error .noRuntime

def wakeFirst? : List SendLoop → Option (List SendLoop)
  | [] => none
  | loop :: rest =>
    if loop.isParked then some (loop.woken :: rest) else (wakeFirst? rest).map (loop :: ·)

/-- Wake a parked loop, or else the next one that is about to park. -/
def wake (emitter : Emitter) : Emitter :=
  match wakeFirst? emitter.loops with
  | some loops => { emitter with loops }
  | none => { emitter with signals := { emitter.signals with pendingWake := true } }

def clearRunning (emitter : Emitter) : Emitter :=
  { emitter with signals := { emitter.signals with running := false } }

def reportDrained (emitter : Emitter) : Emitter :=
  { emitter with signals := { emitter.signals with drains := emitter.signals.drains + 1 } }

def drop (emitter : Emitter) : Emitter := emitter.clearRunning.wake

def add (emitter : Emitter) (db : Database) (payload : Payload) :
    Except StorageError (Emitter × Database) :=
  (db.add payload).map fun db => (emitter.wake, db)

def hasEnded (emitter : Emitter) (place : Nat) : Bool :=
  match emitter.loops[place]? with
  | some loop => loop.hasEnded
  | none => true

def stepLoop (emitter : Emitter) (place : Nat) (s : Surroundings) : Option (Emitter × Surroundings) :=
  (emitter.loops[place]?).bind fun loop =>
    (loop.step emitter.policy emitter.signals s).map fun (loop, signals, s) =>
      ({ emitter with signals, loops := emitter.loops.set place loop }, s)

end Emitter

/-- Where a caller stands in a flush, which ends with a stop. -/
inductive Stage where
  | starting
  | registering
  | waking (ticket : Nat)
  | awaiting (ticket : Nat)
  | clearing
  | signalling
  | taking
  | joining (worker : Option Nat)
  | reporting
  | done
  deriving DecidableEq, Repr

namespace Stage

def flush : Stage := .starting

def stop : Stage := .clearing

/-- One step of a caller; nothing while it has to wait. Only starting can fail. -/
def step (hasRuntime : Bool) (stage : Stage) (emitter : Emitter) :
    Option (Except TrackerError (Stage × Emitter)) :=
  match stage with
  | .starting => some ((emitter.start hasRuntime).map fun emitter => (.registering, emitter))
  | .registering => some (.ok (.waking emitter.signals.drains, emitter))
  | .waking ticket => some (.ok (.awaiting ticket, emitter.wake))
  | .awaiting ticket =>
    if ticket < emitter.signals.drains then some (.ok (.clearing, emitter)) else none
  | .clearing => some (.ok (.signalling, emitter.clearRunning))
  | .signalling => some (.ok (.taking, emitter.wake))
  | .taking => some (.ok (.joining emitter.worker, { emitter with worker := none }))
  | .joining none => some (.ok (.reporting, emitter))
  | .joining (some place) =>
    if emitter.hasEnded place then some (.ok (.reporting, emitter)) else none
  | .reporting => some (.ok (.done, emitter.reportDrained))
  | .done => none

end Stage

end Telemetry.Delivery

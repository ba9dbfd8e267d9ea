import Telemetry.Delivery.Outcome
import Telemetry.Store.Database

set_option autoImplicit false

/-!
The loop that sends queued events, as atomic steps. A round checks whether to go on, reads a batch, sends
it, and removes what is done with. On an empty queue the loop reports so and rests until it is woken.
After a round with events to send again it backs off, longer each time in a row.
-/

namespace Telemetry.Delivery

open Store (Database EventRow)

/-- How long a loop rests on an empty queue before it looks again, in milliseconds. -/
def restMs : Nat := 5000

/-- The delay after a number of rounds in a row that left events to send again: a tenth of a second, doubled
nine times at most. The jitter of `RetryDelay.delayMs`, up to a tenth either way, is left out here, so a run takes
its delays from its surroundings and what is shown of runs holds for any delays. -/
def backOffMs (failures : Nat) : Nat :=
  if failures = 0 then 0 else 100 * Nat.pow 2 (min failures 10 - 1)

inductive Phase where
  | checking
  | reading
  | draining
  | pausing
  | resting (deadline : Nat)
  | sending (rows : List EventRow)
  | settling (outcome : Outcome)
  | delaying (deadline : Nat)
  | backingOff (deadline : Nat)
  | interrupted (deadline : Nat)
  | ended
  deriving DecidableEq

structure SendLoop where
  phase : Phase
  failures : Nat
  deriving DecidableEq

namespace SendLoop

def new : SendLoop := ⟨.checking, 0⟩

def hasEnded (loop : SendLoop) : Bool := loop.phase == .ended

def isParked (loop : SendLoop) : Bool :=
  match loop.phase with
  | .resting _ => true
  | .backingOff _ => true
  | _ => false

/-- A loop at rest goes on; one that backs off looks why it was woken. -/
def woken (loop : SendLoop) : SendLoop :=
  match loop.phase with
  | .resting _ => { loop with phase := .checking }
  | .backingOff deadline => { loop with phase := .interrupted deadline }
  | _ => loop

def deadline? (loop : SendLoop) : Option Nat :=
  match loop.phase with
  | .resting deadline => some deadline
  | .backingOff deadline => some deadline
  | _ => none

end SendLoop

structure Signals where
  running : Bool
  /-- A wake-up that came while no loop was parked. -/
  pendingWake : Bool
  drains : Nat
  deriving DecidableEq, Repr

inductive Record where
  | exchanged (time : Nat) (exchange : Exchange)
  | noticed (notice : Notice)
  deriving DecidableEq, Repr

structure Surroundings where
  db : Database
  /-- The answer to a request by the number of requests before it. -/
  answer : Nat → Answer
  answered : Nat
  /-- The delay after a number of failed rounds in a row. -/
  delay : Nat → Nat
  elapsed : Nat
  clock : Nat
  history : List Record

namespace Surroundings

def exchange (s : Surroundings) (requests : List Request) : List Exchange × Surroundings :=
  let exchanges := requests.zipIdx.map fun (request, i) => ⟨request, s.answer (s.answered + i)⟩
  (exchanges, { s with
    answered := s.answered + requests.length
    history := s.history ++ exchanges.map (.exchanged s.elapsed ·) })

end Surroundings

structure Policy where
  settings : DeliverySettings
  rules : RetryRules
  subscribed : List DeliveryStatus
  deriving DecidableEq, Repr

namespace SendLoop

/-- Read a batch. A read that fails counts as an empty queue. -/
def read (policy : Policy) (s : Surroundings) : List EventRow × Surroundings :=
  match s.db.batch policy.settings.batchSize with
  | (.ok rows, db) => (rows, { s with db })
  | (.error _, db) => ([], { s with db })

/-- Report an outcome and remove the rows that are done with. A removal that fails leaves them queued. -/
def settle (policy : Policy) (outcome : Outcome) (s : Surroundings) : Surroundings :=
  let db := match s.db.delete outcome.settledIds with
    | .ok db => db
    | .error _ => s.db
  { s with
    db
    history := s.history ++ (outcome.notices policy.subscribed).map .noticed }

/-- One step of a loop; nothing when it is parked or has ended. -/
def step (policy : Policy) (loop : SendLoop) (signals : Signals) (s : Surroundings) :
    Option (SendLoop × Signals × Surroundings) :=
  let goTo (phase : Phase) : SendLoop := { loop with phase }
  match loop.phase with
  | .checking => some (goTo (if signals.running then .reading else .ended), signals, s)
  | .reading =>
    match read policy s with
    | ([], s) => some (goTo .draining, signals, s)
    | (rows, s) => some (goTo (.sending rows), signals, s)
  | .draining => some (goTo .pausing, { signals with drains := signals.drains + 1 }, s)
  | .pausing =>
    if signals.pendingWake then some (goTo .checking, { signals with pendingWake := false }, s)
    else some (goTo (.resting (s.elapsed + restMs)), signals, s)
  | .resting deadline => if deadline ≤ s.elapsed then some (goTo .checking, signals, s) else none
  | .sending rows =>
    let (exchanges, s) := s.exchange (requestsFor policy.settings s.clock rows)
    some (goTo (.settling (Outcome.ofExchanges policy.rules rows (inTurns exchanges))), signals, s)
  | .settling outcome =>
    let failures := if outcome.retries then loop.failures + 1 else 0
    let delay := s.delay failures
    let phase := if delay = 0 then .checking else .delaying (s.elapsed + delay)
    some (⟨phase, failures⟩, signals, settle policy outcome s)
  | .delaying deadline =>
    if deadline ≤ s.elapsed then some (goTo .checking, signals, s)
    else if signals.pendingWake then
      some (goTo (.interrupted deadline), { signals with pendingWake := false }, s)
    else some (goTo (.backingOff deadline), signals, s)
  | .backingOff deadline =>
    if deadline ≤ s.elapsed then some (goTo .checking, signals, s) else none
  | .interrupted deadline =>
    some (goTo (if signals.running then .delaying deadline else .checking), signals, s)
  | .ended => none

end SendLoop

end Telemetry.Delivery

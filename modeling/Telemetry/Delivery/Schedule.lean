import Telemetry.Delivery.Emitter

set_option autoImplicit false

/-!
One way to run an emitter: everything that can step does so at once, and time passes only when nothing can.
-/

namespace Telemetry.Delivery

open Store (Database)

/-- An emitter at work, with at most one caller in a flush or a stop. -/
structure Scene where
  emitter : Emitter
  surroundings : Surroundings
  caller : Stage := .done

namespace Scene

def stepLoops (scene : Scene) : Option Scene :=
  (List.range scene.emitter.loops.length).findSome? fun place =>
    (scene.emitter.stepLoop place scene.surroundings).map fun (emitter, surroundings) =>
      { scene with emitter, surroundings }

/-- The caller steps before the loops. -/
def step (hasRuntime : Bool) (scene : Scene) : Option (Except TrackerError Scene) :=
  match scene.caller.step hasRuntime scene.emitter with
  | some (.ok (caller, emitter)) => some (.ok { scene with caller, emitter })
  | some (.error cause) => some (.error cause)
  | none => scene.stepLoops.map .ok

def settleFor (hasRuntime : Bool) : Nat → Scene → Except TrackerError Scene
  | 0, scene => .ok scene
  | fuel + 1, scene =>
    match scene.step hasRuntime with
    | none => .ok scene
    | some (.error cause) => .error cause
    | some (.ok scene) => settleFor hasRuntime fuel scene

/-- Steps enough to settle: a round takes four and leaves fewer rows or ends in a delay. -/
def settleSteps (scene : Scene) : Nat :=
  8 * (scene.surroundings.db.rows.length + 8)

def settle (hasRuntime : Bool) (scene : Scene) : Except TrackerError Scene :=
  settleFor hasRuntime scene.settleSteps scene

def nextDeadline? (scene : Scene) : Option Nat :=
  (scene.emitter.loops.filterMap (·.deadline?)).min?

def setElapsed (scene : Scene) (elapsed : Nat) : Scene :=
  { scene with surroundings := { scene.surroundings with elapsed } }

/-- Let time pass from deadline to deadline until a time, or until the caller is done. The first argument
bounds the number of deadlines. -/
def passFor (hasRuntime : Bool) (limit : Nat) : Nat → Scene → Except TrackerError Scene
  | 0, scene => .ok scene
  | fuel + 1, scene =>
    match scene.settle hasRuntime with
    | .error cause => .error cause
    | .ok settled =>
      if scene.caller ≠ .done ∧ settled.caller = .done then .ok settled
      else
        match settled.nextDeadline? with
        | none => .ok (settled.setElapsed limit)
        | some deadline =>
          if deadline ≤ limit then passFor hasRuntime limit fuel (settled.setElapsed deadline)
          else .ok (settled.setElapsed limit)

/-- Let a number of milliseconds pass, fewer when the caller is done before. -/
def pass (hasRuntime : Bool) (ms : Nat) (scene : Scene) : Except TrackerError Scene :=
  let limit := scene.surroundings.elapsed + ms
  (passFor hasRuntime limit (ms + 1) scene).bind (settle hasRuntime)

def begin (scene : Scene) (caller : Stage) : Scene := { scene with caller }

def wait (ms : Nat) (scene : Scene) : Scene :=
  match scene.pass true ms with
  | .ok scene => scene
  | .error _ => scene

def callerSteps : Nat := 10

def advance (hasRuntime : Bool) : Nat → Scene → Except TrackerError Scene
  | 0, scene => .ok scene
  | fuel + 1, scene =>
    match scene.caller.step hasRuntime scene.emitter with
    | some (.ok (caller, emitter)) => advance hasRuntime fuel { scene with caller, emitter }
    | some (.error cause) => .error cause
    | none => .ok scene

/-- Run a caller to its end, or give it up after a number of milliseconds; also whether it came to its end.
Without any time the loops do not step. -/
def call (hasRuntime : Bool) (caller : Stage) (ms : Nat) (scene : Scene) :
    Except TrackerError (Bool × Scene) := do
  let begun ← (scene.begin caller).advance hasRuntime callerSteps
  let after ← if ms = 0 then .ok begun else begun.pass hasRuntime ms
  return (after.caller == .done, { after with caller := .done })

/-- Stop the emitter. That takes no time but for the end of a round. -/
def stop (scene : Scene) : Scene :=
  let after := (scene.begin .stop).wait 0
  { after with caller := .done }

def db (scene : Scene) : Database := scene.surroundings.db

def setDb (scene : Scene) (db : Database) : Scene :=
  { scene with surroundings := { scene.surroundings with db } }

def addAll : List Payload → Scene → Except StorageError Unit × Scene
  | [], scene => (.ok (), scene)
  | payload :: rest, scene =>
    match scene.emitter.add scene.db payload with
    | .ok (emitter, db) => addAll rest ({ scene with emitter }.setDb db)
    | .error cause => (.error cause, scene)

def configure (change : Emitter → Except TrackerError Emitter) (scene : Scene) :
    Except TrackerError Scene :=
  (change scene.emitter).map fun emitter => { scene with emitter }

def recordsSince (before scene : Scene) : List Record :=
  scene.surroundings.history.drop before.surroundings.history.length

end Scene

end Telemetry.Delivery

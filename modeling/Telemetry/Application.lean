import Telemetry.Delivery.Schedule
import Telemetry.Registry
import Telemetry.Store.Files
import Telemetry.Tracker

set_option autoImplicit false

/-!
Applications: the trackers that one process makes, its registry of them, and the files that it keeps events
and sessions in. Trackers may share a database; each sees the queue of one and the session of another.
-/

namespace Telemetry

open Delivery (Emitter EmitterSettings Network Answer Record Scene Stage backOffMs)
open Store (Database Files Place)

inductive StoreChoice where
  | memory
  | file (path : String)
  deriving DecidableEq, Repr

def StoreChoice.check : StoreChoice → Except TrackerError Unit
  | .memory => .ok ()
  | .file path => if path.isEmpty then .error (.invalidArgument .emptyDatabasePath) else .ok ()

/-- Whether two choices are one file by their names. Parts of a path that name nothing make no difference. -/
def StoreChoice.isSameFile : StoreChoice → StoreChoice → Bool
  | .file path, .file other => Files.namedParts path == Files.namedParts other
  | _, _ => false

structure SessionSettings where
  choice : StoreChoice := .memory
  timeouts : SessionTimeouts := .default
  deriving DecidableEq, Repr

structure Plan where
  settings : TrackerSettings
  network : Network
  emitter : EmitterSettings := {}
  events : StoreChoice := .memory
  session : Option SessionSettings := none
  subject : Option Subject := none

structure Station where
  tracker : Tracker
  scene : Scene
  events : Place
  session : Place

structure Environment where
  identifier : Nat → String
  host : Host
  answer : Nat → Answer
  hasRuntime : Bool := true

namespace Station

def track (station : Station) (moment : Moment) (event : Event) :
    Except TrackerError String × Station :=
  let tracked := station.tracker.track station.scene.emitter moment event station.scene.db
  let scene := { station.scene with emitter := tracked.emitter }
  (tracked.result, { station with tracker := tracked.tracker, scene := scene.setDb tracked.db })

def view (station : Station) (files : Files) : Database :=
  ⟨(files.database station.events).events, (files.database station.session).session⟩

def refresh (station : Station) (files : Files) (clock : Nat) : Station :=
  { station with scene := { station.scene with surroundings :=
    { station.scene.surroundings with db := station.view files, clock } } }

def save (station : Station) (files : Files) : Files :=
  let db := station.scene.db
  let files := files.putDatabase station.events
    { files.database station.events with events := db.events }
  files.putDatabase station.session { files.database station.session with session := db.session }

end Station

namespace Plan

def check (plan : Plan) : Except TrackerError Unit := do
  plan.events.check
  match plan.session with
  | some session => session.choice.check
  | none => .ok ()

/-- Work on files that may fail in between; what was done before stays done. -/
abbrev Work := ExceptT TrackerError (StateM Files)

def require {α : Type} (result : Except TrackerError α) : Work α := ExceptT.mk (pure result)

def openStore (choice : StoreChoice) : Work Place :=
  ExceptT.mk fun files =>
    match choice with
    | .memory => (.ok files.openUnnamed.1, files.openUnnamed.2)
    | .file path =>
      match files.openDatabase path with
      | .ok (place, files) => (.ok place, files)
      | .error cause => (.error (.storage cause), files)

def openSession (timeouts : SessionTimeouts) (place : Place) (freshUser : String) (clock : Nat) :
    Work Session :=
  ExceptT.mk fun files =>
    match Session.open timeouts (files.database place) freshUser clock with
    | .ok (session, db) => (.ok session, files.putDatabase place db)
    | .error cause => (.error (.storage cause), files)

def sharesStore (plan : Plan) : Bool :=
  match plan.session with
  | some session => plan.events.isSameFile session.choice
  | none => false

/-- Build a tracker and start its emitter. A store that events and session share is opened before the address
is looked at, any other one after that. -/
def build (plan : Plan) (environment : Environment) (freshUser : String) (clock : Nat) :
    Work Station := do
  if plan.sharesStore then discard (openStore plan.events)
  let url ← require (plan.network.endpoint.mapError .invalidArgument)
  let events ← openStore plan.events
  let emitter ← require (Emitter.new url plan.network.method plan.emitter)
  let (session, place) ← match plan.session with
    | none => pure (none, events)
    | some settings => do
      let place ← openStore settings.choice
      let session ← openSession settings.timeouts place freshUser clock
      pure (some session, place)
  let emitter ← require (emitter.start environment.hasRuntime)
  return {
    tracker := ⟨plan.settings, plan.subject, session⟩
    scene := {
      emitter
      surroundings := {
        db := Database.empty
        answer := environment.answer
        answered := 0
        delay := backOffMs
        elapsed := 0
        clock
        history := [] } }
    events
    session := place }

end Plan

structure Application where
  environment : Environment
  clock : Nat
  files : Files := Files.empty
  stations : List Station := []
  registry : Registry := Registry.empty
  used : Nat := 0

namespace Application

def make (app : Application) (plan : Plan) : Except TrackerError Handle × Application :=
  let work := plan.build app.environment (app.environment.identifier app.used) app.clock
  let app := { app with used := app.used + 1 }
  match work.run.run app.files with
  | (.error cause, files) => (.error cause, { app with files })
  | (.ok station, files) =>
    (.ok ⟨plan.settings.name, app.stations.length⟩,
      { app with files, stations := app.stations ++ [station] })

/-- Make a tracker and register it under its name, which must be free. -/
def create (app : Application) (plan : Plan) : Except TrackerError Handle × Application :=
  if app.registry.isRegistered plan.settings.name then
    (.error (.alreadyRegistered plan.settings.name), app)
  else
    match app.make plan with
    | (.error cause, app) => (.error cause, app)
    | (.ok handle, app) =>
      match app.registry.register handle with
      | .error cause => (.error cause, app)
      | .ok registry => (.ok handle, { app with registry })

def act {α : Type} (app : Application) (number : Nat) (action : Station → α × Station) :
    Option (α × Application) :=
  (app.stations[number]?).map fun station =>
    let (result, station) := action (station.refresh app.files app.clock)
    (result, { app with
      files := station.save app.files
      stations := app.stations.set number station })

def moment (app : Application) : Moment :=
  let id := app.environment.identifier
  ⟨app.clock, id app.used, id (app.used + 1), app.environment.host⟩

def track (app : Application) (number : Nat) (event : Event) :
    Option (Except TrackerError String × Application) :=
  (app.act number (·.track app.moment event)).map fun (result, app) =>
    (result, { app with used := app.used + 2 })

def onScene {α : Type} (app : Application) (number : Nat) (action : Scene → α × Scene) :
    Option (α × Application) :=
  app.act number fun station =>
    let (result, scene) := action station.scene
    (result, { station with scene })

def waitOne (ms : Nat) (app : Application) (number : Nat) : Application :=
  match app.onScene number fun scene => ((), scene.wait ms) with
  | some (_, app) => app
  | none => app

def wait (app : Application) (ms : Nat) : Application :=
  (List.range app.stations.length).foldl (waitOne ms) app

end Application

end Telemetry

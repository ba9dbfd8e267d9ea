import Telemetry.CommandLine.Arguments
import Telemetry.CommandLine.Settings

set_option autoImplicit false

namespace Telemetry.CommandLine

open Delivery (DeliveryStatus Record Scene Stage)
open Store (Database Files Place)

inductive JsonArgument where
  | context
  | data
  deriving DecidableEq, Repr

inductive Failure where
  | usage (cause : UsageError)
  | settings (cause : SettingsError)
  | databaseNotFound (path : String)
  | invalidJson (argument : JsonArgument)
  | tracker (cause : TrackerError)
  | storage (cause : StorageError)
  | folder
  deriving DecidableEq, Repr

def Failure.message : Failure → String
  | .usage _ => "usage error"
  | .settings cause => "config error: " ++ cause.message
  | .databaseNotFound path =>
    "database not found at " ++ path ++ ". Run 'snowplow track' first"
  | .invalidJson .context => "invalid JSON in --context"
  | .invalidJson .data => "invalid JSON in --data"
  | .tracker cause => cause.message
  | .storage cause => cause.message
  | .folder => "cannot create folder"

def Failure.kind : Failure → String
  | .usage cause => cause.kind
  | .settings cause => cause.kind
  | .databaseNotFound _ => "DatabaseNotFound"
  | .invalidJson _ => "InvalidJson"
  | .tracker cause => "Tracker." ++ cause.kind
  | .storage cause => cause.kind
  | .folder => "Io"

structure DataFolders where
  dataHome : Option String := none
  home : Option String := none

def joinPath (folder name : String) : String :=
  if folder.isEmpty || folder.endsWith "/" then folder ++ name else folder ++ "/" ++ name

def DataFolders.defaultDatabase (folders : DataFolders) : String :=
  let folder :=
    match folders.dataHome, folders.home with
    | some dataHome, _ => joinPath dataHome "snowplow"
    | none, some home => joinPath (joinPath home ".local/share") "snowplow"
    | none, none => ".snowplow"
  joinPath folder "events.db"

structure SendReport where
  sent : Nat
  willRetry : Nat
  dropped : Nat
  deriving DecidableEq, Repr

def reported (status : DeliveryStatus) (records : List Record) : Nat :=
  records.foldl (fun total record =>
    match record with
    | .noticed notice => if notice.status = status then total + notice.eventIds.length else total
    | .exchanged .. => total) 0

def SendReport.ofRecords (records : List Record) : SendReport :=
  ⟨reported .success records, reported .willRetry records, reported .wontRetry records⟩

def SendReport.text (report : SendReport) (remaining : Nat) : String :=
  "Sent " ++ toString report.sent ++ " event(s), " ++ toString report.willRetry ++
    " failed and will be retried, " ++ toString report.dropped ++ " dropped, " ++
    toString remaining ++ " still queued.\n"

abbrev Job := ExceptT Failure (StateM (Application × String))

namespace Job

def check {α : Type} (result : Except Failure α) : Job α := ExceptT.mk (pure result)

def getFiles : Job Files := do return (← get).1.files

def setFiles (files : Files) : Job Unit :=
  modify fun (app, output) => ({ app with files }, output)

def print (text : String) : Job Unit := modify fun (app, output) => (app, output ++ text)

def perform {α : Type} (action : Application → Except TrackerError α × Application) : Job α :=
  ExceptT.mk do
    let (app, output) ← get
    let (result, app) := action app
    set (app, output)
    return result.mapError .tracker

def onScene {α : Type} (default : α) (action : Scene → α × Scene) : Job α := do
  let (app, output) ← get
  match app.onScene 0 action with
  | some (result, app) =>
    set (app, output)
    return result
  | none => return default

end Job

open Job

def loadSettings (path : String) : Job Settings := do
  match (← getFiles).lookup? path with
  | none => return {}
  | some (.text content) =>
    match Settings.ofText? content with
    | some settings => return settings
    | none => throw (.settings .malformed)
  | some _ => throw (.settings .unreadable)

def withDatabase {α : Type} (path : String)
    (action : Database → Except StorageError (α × Database)) : Job α := do
  let files ← getFiles
  if !files.hasEntry path then throw (.databaseNotFound path)
  let (place, files) ← check ((files.openDatabase path).mapError .storage)
  setFiles files
  let (result, db) ← check ((action (files.database place)).mapError .storage)
  setFiles (files.putDatabase place db)
  return result

def EventArguments.body (event : EventArguments) : Except Failure EventBody :=
  match event with
  | .structured category action label property value =>
    .ok (.structured category action label property value)
  | .screenView name id => .ok (.screenView name id)
  | .timing category variableName milliseconds label =>
    .ok (.timing category variableName milliseconds label)
  | .selfDescribing schema data =>
    match Json.ofText? data with
    | some data => .ok (.selfDescribing ⟨schema, data⟩)
    | none => .error (.invalidJson .data)

def createTracker (settings : Settings) (path : String) (subject : Option Subject) : Job Unit := do
  let network ← check (settings.network.mapError .settings)
  match (← getFiles).createParent? path with
  | some files => setFiles files
  | none => throw .folder
  let choice := StoreChoice.file path
  let plan : Plan := {
    settings := settings.trackerSettings
    network
    emitter := { settings.emitterSettings with subscribed := some DeliveryStatus.all }
    events := choice
    session := settings.sessionSettings choice
    subject }
  check (plan.check.mapError .tracker)
  discard (perform (·.create plan))

def flushFor (ms : Nat) (scene : Scene) : Except TrackerError Unit × Scene :=
  match scene.call true .flush ms with
  | .ok (true, scene) => (.ok (), scene)
  | .ok (false, scene) => (.ok (), scene.stop)
  | .error cause => (.error cause, scene)

def inspect (scene : Scene) : (SendReport × Except StorageError Nat) × Scene :=
  ((SendReport.ofRecords scene.surroundings.history, scene.db.count), scene)

def send (timeout : Nat) : Job Unit := do
  let finished ← onScene (.ok ()) (flushFor (timeout * secondMs))
  check (finished.mapError .tracker)
  let (report, remaining) ← onScene (⟨0, 0, 0⟩, .ok 0) inspect
  let remaining ← check (remaining.mapError .storage)
  print (report.text remaining)

def readContext : Option String → Except Failure (List SelfDescribing)
  | none => .ok []
  | some text =>
    match SelfDescribing.listOfText? text with
    | some entities => .ok entities
    | none => .error (.invalidJson .context)

def track (settings : Settings) (path : String) (event : EventArguments) (context userId : Option String)
    (timeout : Nat) : Job Unit := do
  let entities ← check (readContext context)
  createTracker settings path (userId.map (Subject.empty.setUserId ·))
  let body ← check event.body
  let id ← perform fun app =>
    (app.track 0 { body, context := entities }).getD (.error .noRuntime, app)
  print ("Tracked event " ++ id ++ "\n")
  send timeout

def flush (settings : Settings) (path : String) (timeout : Nat) : Job Unit := do
  if !(← getFiles).hasEntry path then throw (.databaseNotFound path)
  createTracker settings path none
  send timeout

def pending (path : String) : Job Unit := do
  let count ← withDatabase path fun db => db.count.map (·, db)
  print (toString count ++ " event(s) queued in " ++ path ++ "\n")

def session (path : String) : Job Unit := do
  match ← withDatabase path fun db => db.getSession.map (·, db) with
  | some record => print (record.indentedText ++ "\n")
  | none => print "No session stored.\n"

def clear (path : String) : Job Unit := do
  let count ← withDatabase path fun db => do
    let count ← db.count
    return (count, ← db.deleteAll)
  print ("Dropped " ++ toString count ++ " queued event(s).\n")

def Invocation.job (invocation : Invocation) (folders : DataFolders) : Job Unit := do
  let settings ← loadSettings invocation.settingsPath
  let path := settings.databasePath folders.defaultDatabase
  match invocation.command with
  | .track event context userId timeout => track settings path event context userId timeout
  | .flush timeout => flush settings path timeout
  | .pending => pending path
  | .session => session path
  | .clear => clear path

structure Completion where
  output : String
  result : Except Failure Unit
  app : Application

def run (app : Application) (folders : DataFolders) (arguments : List String) : Completion :=
  match Invocation.ofArguments arguments with
  | .error cause => ⟨"", .error (.usage cause), app⟩
  | .ok invocation =>
    let process := { app with stations := [], registry := Registry.empty }
    let (result, app, output) := (invocation.job folders).run.run (process, "")
    ⟨output, result, app⟩

end Telemetry.CommandLine

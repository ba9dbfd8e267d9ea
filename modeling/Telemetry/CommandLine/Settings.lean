import Telemetry.Application
import Telemetry.Toml.Reader

set_option autoImplicit false

namespace Telemetry.CommandLine

open Delivery (EmitterSettings Method Network)
open Toml (Value)

structure CollectorSection where
  url : Option String := none
  method : String := "post"
  deriving DecidableEq, Repr

structure TrackerSection where
  name : String := "snowplow-cli"
  appId : Option String := none
  platform : String := "srv"
  base64 : Bool := true
  desktop : Bool := true
  deriving DecidableEq, Repr

structure EmitterSection where
  databasePath : Option String := none
  batchSize : Nat := 50
  byteLimitGet : Nat := 52000
  byteLimitPost : Nat := 52000
  deriving DecidableEq, Repr

structure SessionSection where
  enabled : Bool := true
  foreground : Nat := 1800
  background : Nat := 1800
  deriving DecidableEq, Repr

structure LoggingSection where
  level : String := "warn"
  deriving DecidableEq, Repr

structure Settings where
  collector : CollectorSection := {}
  tracker : TrackerSection := {}
  emitter : EmitterSection := {}
  session : SessionSection := {}
  logging : LoggingSection := {}
  deriving DecidableEq, Repr

def text? : Value → Option String
  | .string text => some text
  | _ => none

def flag? : Value → Option Bool
  | .boolean value => some value
  | _ => none

def count? : Value → Option Nat
  | .integer value => if 0 ≤ value ∧ value.toNat ≤ maxWord then some value.toNat else none
  | _ => none

/-- The settings of a section, which may also be given without their names as the items of an array. -/
def settings? (names : List String) : Value → Option (List (String × Value))
  | .table members => some members
  | .array items => some (names.zip items)
  | _ => none

def setting? {α : Type} (members : List (String × Value)) (key : String) (decode? : Value → Option α)
    (default : α) : Option α :=
  match Toml.member? key members with
  | some value => decode? value
  | none => some default

def CollectorSection.ofValue? (value : Value) : Option CollectorSection := do
  let plain : CollectorSection := {}
  let members ← settings? ["url", "method"] value
  some {
    url := ← setting? members "url" (fun value => (text? value).map some) plain.url
    method := ← setting? members "method" text? plain.method }

def TrackerSection.ofValue? (value : Value) : Option TrackerSection := do
  let plain : TrackerSection := {}
  let members ← settings? ["namespace", "app_id", "platform", "base64", "desktop_context"] value
  some {
    name := ← setting? members "namespace" text? plain.name
    appId := ← setting? members "app_id" (fun value => (text? value).map some) plain.appId
    platform := ← setting? members "platform" text? plain.platform
    base64 := ← setting? members "base64" flag? plain.base64
    desktop := ← setting? members "desktop_context" flag? plain.desktop }

def EmitterSection.ofValue? (value : Value) : Option EmitterSection := do
  let plain : EmitterSection := {}
  let members ← settings? ["db_path", "batch_size", "byte_limit_get", "byte_limit_post"] value
  some {
    databasePath := ← setting? members "db_path" (fun value => (text? value).map some)
      plain.databasePath
    batchSize := ← setting? members "batch_size" count? plain.batchSize
    byteLimitGet := ← setting? members "byte_limit_get" count? plain.byteLimitGet
    byteLimitPost := ← setting? members "byte_limit_post" count? plain.byteLimitPost }

def SessionSection.ofValue? (value : Value) : Option SessionSection := do
  let plain : SessionSection := {}
  let members ← settings? ["enabled", "foreground_timeout_secs", "background_timeout_secs"] value
  some {
    enabled := ← setting? members "enabled" flag? plain.enabled
    foreground := ← setting? members "foreground_timeout_secs" count? plain.foreground
    background := ← setting? members "background_timeout_secs" count? plain.background }

def LoggingSection.ofValue? (value : Value) : Option LoggingSection := do
  let plain : LoggingSection := {}
  let members ← settings? ["level"] value
  some { level := ← setting? members "level" text? plain.level }

namespace Settings

def ofText? (text : String) : Option Settings := do
  let members ← Toml.ofText? text
  some {
    collector := ← setting? members "collector" CollectorSection.ofValue? {}
    tracker := ← setting? members "tracker" TrackerSection.ofValue? {}
    emitter := ← setting? members "emitter" EmitterSection.ofValue? {}
    session := ← setting? members "session" SessionSection.ofValue? {}
    logging := ← setting? members "logging" LoggingSection.ofValue? {} }

end Settings

def secondMs : Nat := 1000

inductive SettingsError where
  | unreadable
  | malformed
  | missingCollector
  | unknownMethod (text : String)
  deriving DecidableEq, Repr

def SettingsError.message : SettingsError → String
  | .unreadable => "failed to read config"
  | .malformed => "failed to parse config"
  | .missingCollector => "collector not configured: set collector.url"
  | .unknownMethod text =>
    "unknown collector.method '" ++ text ++ "': expected \"get\" or \"post\""

def SettingsError.kind : SettingsError → String
  | .unreadable => "Config.Io"
  | .malformed => "Config.Parse"
  | .missingCollector => "Config.MissingCollector"
  | .unknownMethod _ => "Config.InvalidMethod"

namespace Settings

def method (settings : Settings) : Except SettingsError Method :=
  match Method.ofText settings.collector.method with
  | .ok method => .ok method
  | .error _ => .error (.unknownMethod settings.collector.method)

def network (settings : Settings) : Except SettingsError Network :=
  match settings.collector.url with
  | none => .error .missingCollector
  | some url =>
    if url.isEmpty then .error .missingCollector
    else settings.method.map (Network.ofText url)

def trackerSettings (settings : Settings) : TrackerSettings where
  name := settings.tracker.name
  appId := settings.tracker.appId.getD ""
  platform := settings.tracker.platform
  base64 := settings.tracker.base64
  desktop := settings.tracker.desktop

def databasePath (settings : Settings) (default : String) : String :=
  settings.emitter.databasePath.getD default

def emitterSettings (settings : Settings) : EmitterSettings where
  batchSize := settings.emitter.batchSize
  byteLimitGet := settings.emitter.byteLimitGet
  byteLimitPost := settings.emitter.byteLimitPost

def sessionSettings (settings : Settings) (choice : StoreChoice) : Option SessionSettings :=
  if settings.session.enabled then
    some ⟨choice, settings.session.foreground * secondMs, settings.session.background * secondMs⟩
  else none

end Settings

end Telemetry.CommandLine

set_option autoImplicit false

namespace Telemetry

inductive AddressError where
  | emptyHost
  | invalidPort
  | invalidDomain
  | invalidIpv4
  | invalidIpv6
  deriving DecidableEq, Repr

def AddressError.message : AddressError → String
  | .emptyHost => "empty host"
  | .invalidPort => "invalid port number"
  | .invalidDomain => "invalid international domain name"
  | .invalidIpv4 => "invalid IPv4 address"
  | .invalidIpv6 => "invalid IPv6 address"

inductive ArgumentError where
  | missingEventType
  | missingCategory
  | missingAction
  | missingVariable
  | missingNameAndId
  | unknownMethod (text : String)
  | emptyCollector
  | collectorWithProtocol (address : String)
  | malformedCollector (address : String) (cause : AddressError)
  | collectorWithoutHost (address : String)
  | emptyDatabasePath
  | ruleBelowRedirects (code : Nat)
  deriving DecidableEq, Repr

def ArgumentError.message : ArgumentError → String
  | .missingEventType => "missing event type"
  | .missingCategory => "category is required"
  | .missingAction => "action is required"
  | .missingVariable => "variable is required"
  | .missingNameAndId => "either name or id must be set"
  | .unknownMethod text => "unknown method: " ++ text
  | .emptyCollector => "collector uri is empty"
  | .collectorWithProtocol address => "collector uri must not include the protocol: " ++ address
  | .malformedCollector address cause =>
    "invalid collector uri " ++ address ++ ": " ++ cause.message
  | .collectorWithoutHost address => "collector uri has no valid host: " ++ address
  | .emptyDatabasePath => "database path is empty"
  | .ruleBelowRedirects code => "retry rules apply to status codes >= 300, got " ++ toString code

/-- Why a store refuses a request: a statement that fails, or a record that is not JSON. -/
inductive StorageError where
  | database
  | serialization
  deriving DecidableEq, Repr

def StorageError.message : StorageError → String
  | .database => "database error"
  | .serialization => "serialization error"

def StorageError.kind : StorageError → String
  | .database => "Storage.Database"
  | .serialization => "Storage.Serialization"

inductive TrackerError where
  | invalidArgument (cause : ArgumentError)
  | emitterRunning
  | network
  | alreadyRegistered (name : String)
  | noRuntime
  | storage (cause : StorageError)
  | sessionIndexOverflow
  deriving DecidableEq, Repr

def TrackerError.message : TrackerError → String
  | .invalidArgument cause => "invalid argument: " ++ cause.message
  | .emitterRunning =>
    "invalid state: emitter must be stopped to change its configuration"
  | .network => "network error"
  | .alreadyRegistered name => "tracker already registered for namespace: " ++ name
  | .noRuntime => "no tokio runtime available to run the emitter"
  | .storage cause => cause.message
  | .sessionIndexOverflow => "session index overflow"

def TrackerError.kind : TrackerError → String
  | .invalidArgument _ => "InvalidArgument"
  | .emitterRunning => "InvalidState"
  | .network => "Network"
  | .alreadyRegistered _ => "AlreadyRegistered"
  | .noRuntime => "NoRuntime"
  | .storage cause => cause.kind
  | .sessionIndexOverflow => "Overflow"

end Telemetry

import Telemetry.Protocol
import Telemetry.SelfDescribing

set_option autoImplicit false

namespace Telemetry

structure Host where
  osType : String
  osVersion : String
  is64Bit : Bool
  manufacturer : String
  model : String
  processorCount : Nat
  deriving Repr

def Host.entity (host : Host) : SelfDescribing where
  schema := Protocol.desktopSchema
  data := .object [
    ("deviceManufacturer", .string host.manufacturer),
    ("deviceModel", .string host.model),
    ("deviceProcessorCount", Json.nat host.processorCount),
    ("osIs64Bit", .bool host.is64Bit),
    ("osServicePack", .string ""),
    ("osType", .string host.osType),
    ("osVersion", .string host.osVersion)]

end Telemetry

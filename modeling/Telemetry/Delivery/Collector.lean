import Telemetry.Protocol
import Telemetry.Url.Reader

set_option autoImplicit false

namespace Telemetry.Delivery

def Method.endpointPath : Method → String
  | .get => Protocol.getPath
  | .post => Protocol.postPath

def schemeOf? (text : String) : Option (Scheme × List Char) :=
  let lower := text.toList.map Char.toLower
  if "http://".toList.isPrefixOf lower then some (.http, text.toList.drop 7)
  else if "https://".toList.isPrefixOf lower then some (.https, text.toList.drop 8)
  else none

def withoutLastSlashes (cs : List Char) : List Char :=
  (cs.reverse.dropWhile (· == '/')).reverse

def endpointChars (address : String) (method : Method) : List Char :=
  withoutLastSlashes address.toList ++ '/' :: method.endpointPath.toList

def isProperHost (host : Url.Host) : Bool :=
  !(Text.splitOn '.' host.text).any List.isEmpty

def endpoint (address : String) (scheme : Scheme) (method : Method) : Except ArgumentError Url :=
  if address.isEmpty then .error .emptyCollector
  else if (schemeOf? address).isSome then .error (.collectorWithProtocol address)
  else
    match Url.ofAuthority scheme (endpointChars address method) with
    | .error cause => .error (.malformedCollector address cause)
    | .ok url => if isProperHost url.host then .ok url else .error (.collectorWithoutHost address)

structure Network where
  address : String
  scheme : Scheme
  method : Method
  deriving DecidableEq, Repr

namespace Network

/-- A scheme in front of the address counts; without one it is `https`. -/
def ofText (text : String) (method : Method) : Network :=
  match schemeOf? text with
  | some (scheme, address) => ⟨String.ofList address, scheme, method⟩
  | none => ⟨text, .https, method⟩

def endpoint (network : Network) : Except ArgumentError Url :=
  Delivery.endpoint network.address network.scheme network.method

end Network

end Telemetry.Delivery

import Telemetry.Error
import Telemetry.Text.Percent
import Telemetry.Url.Domain
import Telemetry.Url.Ipv4
import Telemetry.Url.Ipv6

set_option autoImplicit false

namespace Telemetry.Url

inductive Host where
  | domain (name : List Char)
  | ipv4 (address : Nat)
  | ipv6 (pieces : List Nat)
  deriving DecidableEq, Repr

namespace Host

def text : Host → List Char
  | .domain name => name
  | .ipv4 address => Ipv4.text address
  | .ipv6 pieces => '[' :: (Ipv6.text pieces ++ [']'])

/-- A domain name is percent-decoded first. One whose last label is a number must be an IPv4 address. -/
def ofText (cs : List Char) : Except AddressError Host :=
  match cs with
  | '[' :: rest =>
    if rest.getLast? = some ']' then
      match Ipv6.ofText? rest.dropLast with
      | some pieces => .ok (.ipv6 pieces)
      | none => .error .invalidIpv6
    else .error .invalidIpv6
  | cs =>
    match (Text.Percent.decode? cs).bind Domain.toAscii? with
    | none => .error .invalidDomain
    | some name =>
      if name.isEmpty then .error .emptyHost
      else if Ipv4.isMeant name then
        match Ipv4.ofHost? name with
        | some address => .ok (.ipv4 address)
        | none => .error .invalidIpv4
      else .ok (.domain name)

end Host

end Telemetry.Url

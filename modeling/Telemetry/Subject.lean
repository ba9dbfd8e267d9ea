import Telemetry.Payload
import Telemetry.Protocol

set_option autoImplicit false

namespace Telemetry

structure Subject where
  payload : Payload
  deriving DecidableEq, Inhabited

namespace Subject

open Decimal (natText)

def empty : Subject := ⟨Payload.empty⟩

def set (subject : Subject) (key value : String) : Subject := ⟨subject.payload.add key value⟩

def sizeText (width height : Nat) : String := natText width ++ "x" ++ natText height

def setUserId (subject : Subject) (id : String) : Subject := subject.set Protocol.userIdKey id

def setScreenResolution (subject : Subject) (width height : Nat) : Subject :=
  subject.set Protocol.resolutionKey (sizeText width height)

def setViewport (subject : Subject) (width height : Nat) : Subject :=
  subject.set Protocol.viewportKey (sizeText width height)

def setColorDepth (subject : Subject) (depth : Nat) : Subject :=
  subject.set Protocol.colorDepthKey (natText depth)

def setTimezone (subject : Subject) (timezone : String) : Subject :=
  subject.set Protocol.timezoneKey timezone

def setLanguage (subject : Subject) (language : String) : Subject :=
  subject.set Protocol.languageKey language

def setUseragent (subject : Subject) (useragent : String) : Subject :=
  subject.set Protocol.useragentKey useragent

def setIpAddress (subject : Subject) (address : String) : Subject :=
  subject.set Protocol.ipAddressKey address

end Subject

end Telemetry

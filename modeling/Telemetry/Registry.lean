import Telemetry.Dictionary
import Telemetry.Error

set_option autoImplicit false

namespace Telemetry

/-- A tracker as the registry knows it: its name, and a number that no other tracker has. -/
structure Handle where
  name : String
  number : Nat
  deriving DecidableEq, Repr

structure Registry where
  trackers : List (String × Handle)
  defaultName : Option String
  deriving DecidableEq, Repr

namespace Registry

def empty : Registry := ⟨[], none⟩

def find? (registry : Registry) (name : String) : Option Handle :=
  Dictionary.lookup? name registry.trackers

def isRegistered (registry : Registry) (name : String) : Bool := (registry.find? name).isSome

def default? (registry : Registry) : Option Handle := registry.defaultName.bind registry.find?

def put (registry : Registry) (tracker : Handle) : Registry :=
  { registry with trackers := Dictionary.insertEntry tracker.name tracker registry.trackers }

def register (registry : Registry) (tracker : Handle) : Except TrackerError Registry :=
  if registry.isRegistered tracker.name then .error (.alreadyRegistered tracker.name)
  else .ok { registry.put tracker with
    defaultName := some (registry.defaultName.getD tracker.name) }

/-- Remove the tracker of a name. The default is given up with it. -/
def remove (registry : Registry) (name : String) : Option Handle × Registry :=
  (registry.find? name, {
    trackers := registry.trackers.filter (·.1 ≠ name)
    defaultName := registry.defaultName.filter (· ≠ name) })

/-- Make a tracker the default. It is registered if its name is free. -/
def setDefault (registry : Registry) (tracker : Handle) : Except TrackerError Registry :=
  match registry.find? tracker.name with
  | some found =>
    if found = tracker then .ok { registry with defaultName := some tracker.name }
    else .error (.alreadyRegistered tracker.name)
  | none => .ok { registry.put tracker with defaultName := some tracker.name }

end Registry

end Telemetry

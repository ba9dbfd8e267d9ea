import Telemetry.Text.Parts
import Telemetry.Text.Percent

set_option autoImplicit false

namespace Telemetry.Text.Query

def encodePair (pair : String × String) : List Char :=
  Percent.encode Percent.isUnreserved pair.1.toList ++
    '=' :: Percent.encode Percent.isUnreserved pair.2.toList

def encode (pairs : List (String × String)) : List Char :=
  joinWith '&' (pairs.map encodePair)

def decodePair? (part : List Char) : Option (String × String) :=
  match part.dropWhile (· != '=') with
  | [] => none
  | _ :: value => do
    let key ← Percent.decode? (part.takeWhile (· != '='))
    let value ← Percent.decode? value
    some (String.ofList key, String.ofList value)

def decode? (cs : List Char) : Option (List (String × String)) :=
  if cs.isEmpty then some [] else (splitOn '&' cs).mapM decodePair?

end Telemetry.Text.Query

import Telemetry.Delivery.Method
import Telemetry.Protocol
import Telemetry.SelfDescribing
import Telemetry.Store.Table

set_option autoImplicit false

namespace Telemetry.Delivery

open Decimal (natText)
open Store (EventRow)

structure DeliverySettings where
  url : String
  method : Method
  batchSize : Nat
  byteLimitGet : Nat
  byteLimitPost : Nat
  deriving DecidableEq, Repr

structure Request where
  method : Method
  url : String
  body : String
  rowIds : List Int
  oversize : Bool
  deriving DecidableEq, Repr

/-- Whether a client can name itself by a text in a header. Headers hold no control characters but tabs. -/
def isUserAgent (text : String) : Bool :=
  text.toList.all fun c => c == '\t' || (' ' ≤ c && c != '\x7f')

def wrapperBytes : Nat := 88

/-- Bytes of the time of sending in an event, as a timestamp of 13 digits. -/
def sentTimeBytes : Nat := 22

def rowBytes (row : EventRow) : Nat := row.payload.text.utf8ByteSize + sentTimeBytes

structure Group where
  rows : List EventRow
  oversize : Bool
  deriving DecidableEq

def exceedsAlone (limit : Nat) (row : EventRow) : Bool := limit < rowBytes row + wrapperBytes

/-- Continue grouping: `pending` rows of `bytes` bytes wait for company. -/
def groupFrom (limit : Nat) : (pending : List EventRow) → (bytes : Nat) → List EventRow → List Group
  | pending, _, [] => if pending.isEmpty then [] else [⟨pending, false⟩]
  | pending, bytes, row :: rest =>
    if exceedsAlone limit row then ⟨[row], true⟩ :: groupFrom limit pending bytes rest
    else if limit < bytes + rowBytes row + wrapperBytes + pending.length then
      ⟨pending, false⟩ :: groupFrom limit [row] (rowBytes row) rest
    else groupFrom limit (pending ++ [row]) (bytes + rowBytes row) rest

/-- Split rows into groups under a limit, as many in a group as fit. -/
def groupRows (limit : Nat) (rows : List EventRow) : List Group := groupFrom limit [] 0 rows

def stamped (clock : Nat) (payload : Payload) : Payload :=
  payload.add Protocol.sentTimeKey (natText clock)

def postData (clock : Nat) (payloads : List Payload) : SelfDescribing :=
  ⟨Protocol.payloadDataSchema, .array (payloads.map fun payload => (stamped clock payload).json)⟩

def postBody (clock : Nat) (payloads : List Payload) : String := (postData clock payloads).text

def queryFor (clock : Nat) (payload : Payload) : String := (stamped clock payload).queryString

def postPayloads? (body : String) : Option (List Payload) := do
  let envelope ← Json.ofText? body
  if (envelope.member? "schema").bind Json.string? ≠ some Protocol.payloadDataSchema then none
  else
    match envelope.member? "data" with
    | some (.array items) => items.mapM Payload.ofJson?
    | _ => none

def queryPayload? (query : String) : Option Payload :=
  (Text.Query.decode? query.toList).map fun pairs => ⟨Dictionary.ofList pairs⟩

def Request.payloads? (request : Request) : Option (List Payload) :=
  match request.method with
  | .get => (queryPayload? request.body).map ([·])
  | .post => postPayloads? request.body

def requestsFor (settings : DeliverySettings) (clock : Nat) (rows : List EventRow) : List Request :=
  match settings.method with
  | .get => rows.map fun row =>
    let query := queryFor clock row.payload
    { method := .get
      url := settings.url
      body := query
      rowIds := [row.id]
      oversize := settings.byteLimitGet < query.utf8ByteSize }
  | .post => (groupRows settings.byteLimitPost rows).map fun group =>
    { method := .post
      url := settings.url
      body := postBody clock (group.rows.map (·.payload))
      rowIds := group.rows.map (·.id)
      oversize := group.oversize }

end Telemetry.Delivery

import Telemetry.Delivery.Request
import Telemetry.Delivery.Result

set_option autoImplicit false

namespace Telemetry.Delivery

open Store (EventRow)

inductive Answer where
  | status (code : Int)
  | noResponse
  /-- Sending broke off, so that not even a failure is known. -/
  | lost
  deriving DecidableEq, Repr, Inhabited

def Answer.result? (answer : Answer) (request : Request) : Option RequestResult :=
  match answer with
  | .status code => some (RequestResult.new false code request.rowIds request.oversize)
  | .noResponse => some (RequestResult.new true (-1) request.rowIds request.oversize)
  | .lost => none

inductive DeliveryStatus where
  | success
  | willRetry
  | wontRetry
  deriving DecidableEq, Repr

namespace DeliveryStatus

def all : List DeliveryStatus := [.success, .willRetry, .wontRetry]

def text : DeliveryStatus → String
  | .success => "success"
  | .willRetry => "failed_will_retry"
  | .wontRetry => "failed_wont_retry"

def ofText? (text : String) : Option DeliveryStatus := all.find? (·.text == text)

end DeliveryStatus

def RequestResult.status (result : RequestResult) (rules : RetryRules) : DeliveryStatus :=
  if result.isSuccess then .success
  else if result.shouldRetry rules then .willRetry
  else .wontRetry

structure Outcome where
  succeeded : List String
  willRetry : List String
  wontRetry : List String
  settledIds : List Int
  retries : Bool
  deriving DecidableEq, Repr

namespace Outcome

def empty : Outcome := ⟨[], [], [], [], false⟩

def eventIds (rows : List EventRow) (rowIds : List Int) : List String :=
  rowIds.filterMap fun id =>
    (rows.find? (·.id = id)).bind fun row => row.payload.get? Protocol.eventIdKey

def add (rules : RetryRules) (rows : List EventRow) (outcome : Outcome) (result : RequestResult) :
    Outcome :=
  let ids := eventIds rows result.rowIds
  match result.status rules with
  | .success => { outcome with
      succeeded := outcome.succeeded ++ ids
      settledIds := outcome.settledIds ++ result.rowIds }
  | .willRetry => { outcome with
      willRetry := outcome.willRetry ++ ids
      retries := true }
  | .wontRetry => { outcome with
      wontRetry := outcome.wontRetry ++ ids
      settledIds := outcome.settledIds ++ result.rowIds }

def ofResults (rules : RetryRules) (rows : List EventRow) (results : List RequestResult)
    (lost : Nat) : Outcome :=
  let outcome := results.foldl (add rules rows) empty
  { outcome with retries := outcome.retries || 0 < lost }

def idsWith (outcome : Outcome) : DeliveryStatus → List String
  | .success => outcome.succeeded
  | .willRetry => outcome.willRetry
  | .wontRetry => outcome.wontRetry

end Outcome

structure Notice where
  status : DeliveryStatus
  eventIds : List String
  deriving DecidableEq, Repr

/-- The reports about an outcome: one for each status asked for that some events have. -/
def Outcome.notices (outcome : Outcome) (subscribed : List DeliveryStatus) : List Notice :=
  (DeliveryStatus.all.filter fun status =>
    subscribed.contains status && !(outcome.idsWith status).isEmpty).map fun status =>
      ⟨status, outcome.idsWith status⟩

structure Exchange where
  request : Request
  answer : Answer
  deriving DecidableEq, Repr

def turnLength : Nat := 128

/-- The order in which the exchanges of a round are collected: in turns, where the first one that a turn
leaves over goes behind all others. -/
def inTurns {α : Type} (queue : List α) : List α :=
  if h : turnLength < queue.length then
    queue.take turnLength ++ inTurns (queue.drop (turnLength + 1) ++ [queue[turnLength]])
  else queue
termination_by queue.length
decreasing_by
  simp only [List.length_append, List.length_drop, List.length_singleton]
  unfold turnLength at *
  omega

theorem inTurns_perm {α : Type} (queue : List α) : (inTurns queue).Perm queue := by
  fun_induction inTurns queue with
  | case1 queue h ih =>
    refine (ih.append_left _).trans ?_
    refine ((List.perm_append_singleton _ _).append_left _).trans ?_
    rw [← List.drop_eq_getElem_cons h, List.take_append_drop]
  | case2 => exact .refl _

/-- The outcome of the exchanges about a batch, in the order in which they are collected. -/
def Outcome.ofExchanges (rules : RetryRules) (rows : List EventRow) (exchanges : List Exchange) :
    Outcome :=
  let results := exchanges.filterMap fun exchange => exchange.answer.result? exchange.request
  ofResults rules rows results (exchanges.length - results.length)

end Telemetry.Delivery

set_option autoImplicit false

namespace Telemetry.Delivery

structure RequestResult where
  code : Int
  rowIds : List Int
  internalError : Bool
  oversize : Bool
  deriving DecidableEq, Repr

structure RetryRules where
  rules : List (Nat × Bool)
  deriving DecidableEq, Repr, Inhabited

namespace RetryRules

def empty : RetryRules := ⟨[]⟩

def insert (rules : RetryRules) (code : Nat) (retry : Bool) : RetryRules :=
  ⟨(code, retry) :: rules.rules.filter (·.1 != code)⟩

def ofList (pairs : List (Nat × Bool)) : RetryRules :=
  pairs.foldl (fun rules pair => rules.insert pair.1 pair.2) empty

/-- The rule for a code; codes that are no unsigned 16-bit numbers have none. -/
def find? (rules : RetryRules) (code : Int) : Option Bool :=
  if 0 ≤ code ∧ code ≤ 65535 then (rules.rules.find? (·.1 == code.toNat)).map (·.2) else none

end RetryRules

namespace RequestResult

/-- A request that got no answer has the code -1. -/
def new (internalError : Bool) (code : Int) (rowIds : List Int) (oversize : Bool) : RequestResult :=
  ⟨if internalError then -1 else code, rowIds, internalError, oversize⟩

def isSuccess (result : RequestResult) : Bool :=
  !result.internalError && 200 ≤ result.code && result.code < 300

def finalCodes : List Int := [400, 401, 403, 410, 422]

def shouldRetry (result : RequestResult) (rules : RetryRules) : Bool :=
  if result.isSuccess || result.oversize then false
  else if result.internalError then true
  else
    match rules.find? result.code with
    | some retry => retry
    | none => !finalCodes.contains result.code

end RequestResult

end Telemetry.Delivery

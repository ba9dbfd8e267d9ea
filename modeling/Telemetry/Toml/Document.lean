import Telemetry.Toml.Basic

set_option autoImplicit false

namespace Telemetry.Toml

inductive Origin where
  | passed
  | header
  | dotted
  deriving DecidableEq, Repr

inductive Node where
  | value (value : Value)
  | table (origin : Origin) (members : List (String × Node))
  | tables (items : List (List (String × Node)))
  deriving Inhabited

abbrev Members := List (String × Node)

def modify? (key : String) (change : Option Node → Option Node) : Members → Option Members
  | [] => (change none).map fun node => [(key, node)]
  | member :: rest =>
    if member.1 = key then (change (some member.2)).map fun node => (key, node) :: rest
    else (modify? key change rest).map (member :: ·)

/-- Assign a value. The tables on the way must be new or come from assignments of the same table. -/
def assign? (value : Value) : List String → Members → Option Members
  | [], _ => none
  | [key], members =>
    modify? key (fun node => match node with
      | none => some (.value value)
      | some _ => none) members
  | key :: keys, members =>
    modify? key (fun node => match node with
      | none => (assign? value keys []).map (.table .dotted)
      | some (.table .dotted inner) => (assign? value keys inner).map (.table .dotted)
      | some _ => none) members

/-- Change the members of the table that a header names, which the last step makes or finds. -/
def visit? (last : Option Node → Option Node) : List String → Members → Option Members
  | [], _ => none
  | [key], members => modify? key last members
  | key :: keys, members =>
    modify? key (fun node => match node with
      | none => (visit? last keys []).map (.table .passed)
      | some (.table origin inner) => (visit? last keys inner).map (.table origin)
      | some (.tables (inner :: others)) => (visit? last keys inner).map fun inner => .tables (inner :: others)
      | some _ => none) members

def defineTable? : List String → Members → Option Members :=
  visit? fun node => match node with
    | none => some (.table .header [])
    | some (.table .passed inner) => some (.table .header inner)
    | some _ => none

def appendTable? : List String → Members → Option Members :=
  visit? fun node => match node with
    | none => some (.tables [[]])
    | some (.tables items) => some (.tables ([] :: items))
    | some _ => none

def assignIn? (header keys : List String) (value : Value) (members : Members) : Option Members :=
  if header.isEmpty then assign? value keys members
  else
    visit? (fun node => match node with
      | some (.table origin inner) => (assign? value keys inner).map (.table origin)
      | some (.tables (inner :: others)) =>
        (assign? value keys inner).map fun inner => .tables (inner :: others)
      | _ => none) header members

mutual

def Node.finish : Node → Value
  | .value value => value
  | .table _ members => .table (finishMembers members)
  | .tables items => .array (finishTables items).reverse

def finishMembers : List (String × Node) → List (String × Value)
  | [] => []
  | (key, node) :: rest => (key, node.finish) :: finishMembers rest

def finishTables : List (List (String × Node)) → List Value
  | [] => []
  | members :: rest => .table (finishMembers members) :: finishTables rest

end

end Telemetry.Toml

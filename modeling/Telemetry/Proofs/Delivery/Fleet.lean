import Mathlib.Logic.Function.Basic
import Telemetry.Proofs.Delivery.LoopSteps

set_option autoImplicit false

/-!
Loops of any number of emitters that share a database, with a ledger of events. An event is a place in the
order of arrival, so it stays the same event while row identifiers are given again.
-/

namespace Telemetry.Delivery

open Store (Database EventRow readableRows)

/-- An emitter's loop, with what is its own. The database of its surroundings is that of the fleet. -/
structure Member where
  policy : Policy
  loop : SendLoop
  signals : Signals
  surroundings : Surroundings

def Member.new (policy : Policy) : Member where
  policy := policy
  loop := SendLoop.new
  signals := ⟨true, false, 0⟩
  surroundings := .plain .empty

structure Parcel where
  events : List Nat
  isFinal : Bool
  deriving DecidableEq, Repr

structure Ledger (ι : Type) where
  arrivals : List EventRow
  /-- The event that came last to a row. -/
  latest : Int → Nat
  /-- The events in the rows of a loop's batch when it was read. -/
  held : ι → Int → Nat
  parcels : List Parcel

structure Fleet (ι : Type) where
  db : Database
  member : ι → Member
  ledger : Ledger ι

/-- Something that happens: a payload is queued, a loop takes a step while the collector answers as given,
a loop that is parked is woken or one that has ended is started anew, signals and clocks change. -/
inductive Move (ι : Type) where
  | queue (payload : Payload)
  | work (i : ι) (answer : Nat → Answer)
  | resume (i : ι)
  | direct (i : ι) (signals : Signals) (elapsed clock : Nat)

namespace Ledger

variable {ι : Type}

def ofDatabase (db : Database) : Ledger ι where
  arrivals := readableRows db.rows
  latest id := (readableRows db.rows).findIdx (·.id = id)
  held _ _ := 0
  parcels := []

def arrive (ledger : Ledger ι) (event : EventRow) : Ledger ι :=
  { ledger with
    arrivals := ledger.arrivals ++ [event]
    latest := Function.update ledger.latest event.id ledger.arrivals.length }

def parcel (ledger : Ledger ι) (i : ι) (rules : RetryRules) (exchange : Exchange) : Parcel :=
  ⟨exchange.request.rowIds.map (ledger.held i), exchange.isFinal rules⟩

def hold (ledger : Ledger ι) (i : ι) [DecidableEq ι] : Ledger ι :=
  { ledger with held := Function.update ledger.held i ledger.latest }

def send (ledger : Ledger ι) (i : ι) (rules : RetryRules) (exchanges : List Exchange) : Ledger ι :=
  { ledger with parcels := ledger.parcels ++ exchanges.map (ledger.parcel i rules) }

def settled (ledger : Ledger ι) : List Nat :=
  (ledger.parcels.filter (·.isFinal)).flatMap (·.events)

end Ledger

namespace Fleet

variable {ι : Type}

def start (db : Database) (member : ι → Member) : Fleet ι where
  db := db
  member i := { member i with loop := SendLoop.new }
  ledger := Ledger.ofDatabase db

def queue (fleet : Fleet ι) (payload : Payload) : Fleet ι :=
  match fleet.db.add payload with
  | .ok db => { fleet with
      db
      ledger := fleet.ledger.arrive ⟨(fleet.db.nextRow payload).id, payload⟩ }
  | .error _ => fleet

variable [DecidableEq ι]

def setMember (fleet : Fleet ι) (i : ι) (member : Member) : Fleet ι :=
  { fleet with member := Function.update fleet.member i member }

def surroundings (fleet : Fleet ι) (i : ι) (answer : Nat → Answer) : Surroundings :=
  { (fleet.member i).surroundings with db := fleet.db, answer }

def enter (ledger : Ledger ι) (i : ι) (rules : RetryRules) (phase : Phase)
    (exchanges : List Exchange) : Ledger ι :=
  match phase with
  | .sending _ => ledger.hold i
  | _ => ledger.send i rules exchanges

def work (fleet : Fleet ι) (i : ι) (answer : Nat → Answer) : Fleet ι :=
  let member := fleet.member i
  let before := fleet.surroundings i answer
  match member.loop.step member.policy member.signals before with
  | none => fleet
  | some (loop, signals, after) =>
    { db := after.db
      member := Function.update fleet.member i
        { member with loop, signals, surroundings := after }
      ledger := enter fleet.ledger i member.policy.rules loop.phase
        (exchangesOf (after.history.drop before.history.length)) }

def resume (fleet : Fleet ι) (i : ι) : Fleet ι :=
  let member := fleet.member i
  fleet.setMember i { member with
    loop := if member.loop.hasEnded then SendLoop.new else member.loop.woken }

def direct (fleet : Fleet ι) (i : ι) (signals : Signals) (elapsed clock : Nat) : Fleet ι :=
  let member := fleet.member i
  fleet.setMember i { member with
    signals
    surroundings := { member.surroundings with elapsed, clock } }

def move (fleet : Fleet ι) : Move ι → Fleet ι
  | .queue payload => fleet.queue payload
  | .work i answer => fleet.work i answer
  | .resume i => fleet.resume i
  | .direct i signals elapsed clock => fleet.direct i signals elapsed clock

def run (fleet : Fleet ι) (moves : List (Move ι)) : Fleet ι := moves.foldl move fleet

def Stores (fleet : Fleet ι) (n : Nat) : Prop :=
  ∃ row ∈ fleet.db.rows, fleet.ledger.latest row.id = n ∧ ∃ payload,
    row.payload? = some payload ∧ fleet.ledger.arrivals[n]? = some ⟨row.id, payload⟩

/-- Whether an event has left the store although no request with it got a final answer. -/
def Loses (fleet : Fleet ι) (n : Nat) : Prop :=
  n < fleet.ledger.arrivals.length ∧ ¬fleet.Stores n ∧ n ∉ fleet.ledger.settled

inductive Turned (fleet : Fleet ι) (i : ι) (answer : Nat → Answer) : Fleet ι → Prop where
  | idle (member : Member) (db : Database) (policy : member.policy = (fleet.member i).policy)
      (phase : member.loop.phase = (fleet.member i).loop.phase ∨
        (fleet.member i).loop.phase.isQuiet ∧ member.loop.phase.isQuiet)
      (trims : fleet.db.Trims db) :
      Turned fleet i answer { fleet.setMember i member with db }
  | read (member : Member) (db : Database) (rows : List EventRow)
      (before : (fleet.member i).loop.phase.isQuiet) (policy : member.policy = (fleet.member i).policy)
      (phase : member.loop.phase = .sending rows) (trims : fleet.db.Trims db)
      (answered : db.Answered (Database.rowLimit member.policy.settings.batchSize) rows) :
      Turned fleet i answer { fleet.setMember i member with
        db
        ledger := fleet.ledger.hold i }
  | send (member : Member) (rows : List EventRow) (clock : Nat) (exchanges : List Exchange)
      (before : (fleet.member i).loop.phase = .sending rows)
      (policy : member.policy = (fleet.member i).policy)
      (requests : exchanges.map (·.request) = requestsFor member.policy.settings clock rows)
      (answers : ∀ exchange ∈ exchanges, ∃ n, exchange.answer = answer n)
      (phase : member.loop.phase =
        .settling (Outcome.ofExchanges member.policy.rules rows (inTurns exchanges))) :
      Turned fleet i answer { fleet.setMember i member with
        ledger := fleet.ledger.send i member.policy.rules exchanges }
  | settle (member : Member) (db : Database) (outcome : Outcome)
      (before : (fleet.member i).loop.phase = .settling outcome)
      (policy : member.policy = (fleet.member i).policy) (phase : member.loop.phase.isQuiet)
      (deleted : db = fleet.db ∨ fleet.db.delete outcome.settledIds = .ok db)
      (certain : fleet.db.isOpen → outcome.settledIds.length ≤ Database.maxParameters →
        fleet.db.delete outcome.settledIds = .ok db) :
      Turned fleet i answer { fleet.setMember i member with db }

theorem enter_isQuiet (ledger : Ledger ι) (i : ι) (rules : RetryRules) {phase : Phase}
    (h : phase.isQuiet) : enter ledger i rules phase [] = ledger := by
  cases phase with
  | sending rows => cases h
  | _ => simp [enter, Ledger.send]

theorem turned_self (fleet : Fleet ι) (i : ι) (answer : Nat → Answer) :
    Turned fleet i answer fleet := by
  have idle : Turned fleet i answer { fleet.setMember i (fleet.member i) with db := fleet.db } :=
    .idle _ _ rfl (.inl rfl) (.refl _)
  rwa [setMember, Function.update_eq_self] at idle

theorem turned_work (fleet : Fleet ι) (i : ι) (answer : Nat → Answer) :
    Turned fleet i answer (fleet.work i answer) := by
  unfold work
  dsimp only
  rcases hstep : (fleet.member i).loop.step (fleet.member i).policy (fleet.member i).signals
    (fleet.surroundings i answer) with _ | ⟨loop, signals, after⟩
  · exact turned_self fleet i answer
  · dsimp only
    obtain ⟨-, quiet, quiet', rfl⟩ | ⟨before, rfl, rfl, phase⟩ | ⟨rows, before, rfl, rfl, phase⟩ |
      ⟨outcome, before, rfl, rfl, quiet'⟩ := SendLoop.step_cases hstep
    · rw [List.drop_length]
      have ledger := enter_isQuiet fleet.ledger i (fleet.member i).policy.rules quiet'
      rw [show exchangesOf [] = [] from rfl, ledger]
      exact .idle _ _ rfl (.inr ⟨quiet, quiet'⟩) (.refl _)
    · have quiet : (fleet.member i).loop.phase.isQuiet := by rw [before]; rfl
      have trims := SendLoop.read_trims (fleet.member i).policy (fleet.surroundings i answer)
      have answered := SendLoop.read_answered (fleet.member i).policy (fleet.surroundings i answer)
      have history : (SendLoop.read (fleet.member i).policy
          (fleet.surroundings i answer)).2.history = (fleet.surroundings i answer).history := by
        rw [SendLoop.read_eq]
      rw [history, List.drop_length, show exchangesOf [] = [] from rfl]
      unfold SendLoop.afterRead at phase
      split_ifs at phase with none
      · rw [enter_isQuiet _ _ _ (by rw [phase]; rfl)]
        exact .idle _ _ rfl (.inr ⟨quiet, by rw [phase]; rfl⟩) trims
      · rw [phase]
        exact .read _ _ _ quiet rfl phase trims answered
    · have made : exchangesOf ((Surroundings.exchange (fleet.surroundings i answer)
            (requestsFor (fleet.member i).policy.settings (fleet.surroundings i answer).clock
              rows)).2.history.drop (fleet.surroundings i answer).history.length) =
          SendLoop.round (fleet.member i).policy (fleet.surroundings i answer) rows := by
        simp only [Surroundings.exchange, List.drop_left]
        exact exchangesOf_exchanged _ _
      rw [made, phase]
      exact .send ⟨_, loop, _, _⟩ rows _ _ before rfl (SendLoop.round_requests _ _ _)
        (SendLoop.round_answers _ _ _) phase
    · have noticed : exchangesOf ((SendLoop.settle (fleet.member i).policy outcome
            (fleet.surroundings i answer)).history.drop
              (fleet.surroundings i answer).history.length) = [] := by
        simp only [SendLoop.settle, List.drop_left]
        exact exchangesOf_noticed _
      rw [noticed, enter_isQuiet _ _ _ quiet']
      exact .settle ⟨_, loop, _, _⟩ _ outcome before rfl quiet' (SendLoop.settle_db _ _ _)
        (SendLoop.settle_deletes _ (s := fleet.surroundings i answer))

theorem turned_resume (fleet : Fleet ι) (i : ι) (answer : Nat → Answer) :
    Turned fleet i answer (fleet.resume i) := by
  refine .idle _ fleet.db rfl ?_ (.refl _)
  dsimp only
  cases phase : (fleet.member i).loop.phase with
  | resting deadline | backingOff deadline | ended =>
    exact .inr ⟨rfl, by simp [SendLoop.hasEnded, SendLoop.woken, SendLoop.new, phase, Phase.isQuiet]⟩
  | _ => exact .inl (by simp [SendLoop.hasEnded, SendLoop.woken, phase])

theorem turned_direct (fleet : Fleet ι) (i : ι) (answer : Nat → Answer) (signals : Signals)
    (elapsed clock : Nat) : Turned fleet i answer (fleet.direct i signals elapsed clock) :=
  .idle _ fleet.db rfl (.inl rfl) (.refl _)

/-- Whatever is done to a fleet, a payload is queued or something happens to one loop. -/
theorem move_cases (fleet : Fleet ι) (m : Move ι) :
    (∃ payload, m = .queue payload) ∨ ∃ i answer, Turned fleet i answer (fleet.move m) := by
  cases m with
  | queue payload => exact .inl ⟨payload, rfl⟩
  | work i answer => exact .inr ⟨i, answer, fleet.turned_work i answer⟩
  | resume i => exact .inr ⟨i, fun _ => .lost, fleet.turned_resume i _⟩
  | direct i signals elapsed clock =>
    exact .inr ⟨i, fun _ => .lost, fleet.turned_direct i _ signals elapsed clock⟩

end Fleet

end Telemetry.Delivery

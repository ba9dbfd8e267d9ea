import Mathlib.Data.List.Induction
import Telemetry.Proofs.Delivery.Custody

set_option autoImplicit false

/-!
Loops that share a database remove rows by identifiers that they read earlier, and an identifier is given
again once the rows at the end are gone. An event can be lost exactly if it gets an identifier that some loop
may yet remove.
-/

namespace Telemetry.Delivery

open Store (Database EventRow)

namespace Fleet

variable {ι : Type} [DecidableEq ι] {fleet : Fleet ι} {i : ι}

theorem work_sending (answer : Nat → Answer) {rows : List EventRow}
    (phase : (fleet.member i).loop.phase = .sending rows) :
    ∃ outcome, ((fleet.work i answer).member i).loop.phase = .settling outcome := by
  simp [work, SendLoop.step, phase]

theorem work_settling (answer : Nat → Answer) {outcome : Outcome}
    (phase : (fleet.member i).loop.phase = .settling outcome) :
    ((fleet.work i answer).member i).loop.phase.isQuiet := by
  simp only [work, SendLoop.step, phase, Function.update_self]
  split_ifs <;> rfl

/-- A loop with rows to settle removes them, whatever they hold by now. -/
theorem work_settles (answer : Nat → Answer) {outcome : Outcome}
    (phase : (fleet.member i).loop.phase = .settling outcome) (hopen : fleet.db.isOpen)
    (small : fleet.Small) :
    (fleet.work i answer).ledger = fleet.ledger ∧
      (fleet.work i answer).db.rows =
        fleet.db.rows.filter fun row => !outcome.settledIds.contains row.id := by
  have quiet := work_settling answer phase
  have few := small.stake i
  rw [phase] at few
  have turned := fleet.turned_work i answer
  generalize fleet.work i answer = after at turned quiet
  cases turned with
  | idle member db policy kept trims =>
    simp only [setMember, Function.update_self] at quiet
    obtain same | ⟨before, -⟩ := kept
    · rw [same, phase] at quiet
      cases quiet
    · rw [phase] at before
      cases before
  | read member db rows before policy reading trims answered =>
    rw [phase] at before
    cases before
  | send member rows clock exchanges before policy requests answers sending =>
    cases phase.symm.trans before
  | settle member db other before policy settled deleted certain =>
    cases phase.symm.trans before
    exact ⟨rfl, (Database.delete_rows (certain hopen few)).2⟩

/-- A loop whose requests are all accepted settles its batch, and no other event than it knows. -/
theorem work_delivers {answer : Nat → Answer} (accepted : ∀ n, answer n = .status 200)
    {rows : List EventRow} (phase : (fleet.member i).loop.phase = .sending rows) :
    (fleet.work i answer).db = fleet.db ∧
      ∃ outcome, ((fleet.work i answer).member i).loop.phase = .settling outcome ∧
        (∀ event ∈ rows, event.id ∈ outcome.settledIds) ∧
        ∀ n ∈ (fleet.work i answer).ledger.settled,
          n ∈ fleet.ledger.settled ∨ ∃ event ∈ rows, fleet.ledger.held i event.id = n := by
  obtain ⟨outcome, settling⟩ := work_sending answer phase
  obtain ⟨same, -⟩ | ⟨rows', clock, exchanges, sending, requests, answers, rfl, ledger, db⟩ :=
    (fleet.turned_work i answer).settling_cases settling
  · cases phase.symm.trans same
  · cases phase.symm.trans sending
    refine ⟨db, _, settling, fun event hevent => ?_, fun n hn => ?_⟩
    · have listed := (exchanges_rowIds_perm requests).mem_iff.2 (List.mem_map_of_mem hevent)
      obtain ⟨exchange, hexchange, hid⟩ := List.mem_flatMap.1 listed
      obtain ⟨k, hk⟩ := answers exchange hexchange
      rw [accepted k] at hk
      have final := Exchange.isFinal_of_isSuccess (fleet.member i).policy.rules (by rw [hk]; rfl)
      exact Outcome.mem_settledIds.2 ⟨exchange, hexchange, final, hid⟩
    · rw [ledger] at hn
      obtain old | ⟨exchange, hexchange, -, id, hid, rfl⟩ := Ledger.mem_settled_send.1 hn
      · exact .inl old
      · obtain ⟨event, hevent, rfl⟩ := exists_of_mem_rowIds requests hexchange hid
        exact .inr ⟨event, hevent, rfl⟩

theorem loses_of_settling (answer : Nat → Answer) {outcome : Outcome} {n : Nat} {event : EventRow}
    (phase : (fleet.member i).loop.phase = .settling outcome) (hopen : fleet.db.isOpen)
    (small : fleet.Small) (arrived : fleet.ledger.arrivals[n]? = some event)
    (named : event.id ∈ outcome.settledIds) (unsettled : n ∉ fleet.ledger.settled) :
    (fleet.work i answer).Loses n := by
  obtain ⟨ledger, rows⟩ := work_settles answer phase hopen small
  refine ⟨?_, ?_, by rwa [ledger]⟩
  · rw [ledger]
    exact (List.getElem?_eq_some_iff.1 arrived).1
  · rintro ⟨row, hrow, -, payload, -, same⟩
    rw [ledger, arrived] at same
    cases same
    rw [rows, List.mem_filter] at hrow
    exact absurd named (by simpa using hrow.2)

theorem loses_of_sending {rows : List EventRow} {n : Nat} {event : EventRow}
    (phase : (fleet.member i).loop.phase = .sending rows) (hopen : fleet.db.isOpen)
    (small : fleet.Small) (arrived : fleet.ledger.arrivals[n]? = some event)
    (named : event.id ∈ rows.map (·.id)) (unsettled : n ∉ fleet.ledger.settled)
    (unknown : ∀ event ∈ rows, fleet.ledger.held i event.id ≠ n) :
    ((fleet.work i fun _ => .status 200).work i fun _ => .lost).Loses n := by
  have turned := fleet.turned_work i fun _ => .status 200
  obtain ⟨db, outcome, settling, named', known⟩ := work_delivers (fun _ => rfl) phase
  obtain ⟨other, hother, same⟩ := List.mem_map.1 named
  refine loses_of_settling _ settling (db ▸ hopen) (small.turned turned)
    (turned.arrivals.1 ▸ arrived) (same ▸ named' other hother) fun done => ?_
  obtain old | ⟨event, hevent, same⟩ := known n done
  · exact unsettled old
  · exact unknown event hevent same

/-- An event that has just been queued can be lost if a loop may remove a row by its identifier. -/
theorem loses_of_staked {payload : Payload} (hopen : fleet.db.isOpen) (small : fleet.Small)
    (bounded : fleet.Bounded)
    (staked : (fleet.db.nextRow payload).id ∈ (fleet.member i).loop.phase.stake) :
    ∃ later, ((fleet.queue payload).run later).Loses fleet.ledger.arrivals.length := by
  have small' : (fleet.queue payload).Small := small.move (.queue payload)
  obtain ⟨db, opened, -, after⟩ := fleet.queue_open hopen payload
  rw [after] at small' ⊢
  have arrived : (fleet.ledger.arrive ⟨(fleet.db.nextRow payload).id, payload⟩).arrivals[
      fleet.ledger.arrivals.length]? = some ⟨(fleet.db.nextRow payload).id, payload⟩ := by
    simp [Ledger.arrive]
  have unsettled : fleet.ledger.arrivals.length ∉ fleet.ledger.settled :=
    fun done => Nat.lt_irrefl _ (bounded.settled done)
  cases phase : (fleet.member i).loop.phase with
  | sending rows =>
    rw [phase] at staked
    have unknown : ∀ event ∈ rows, fleet.ledger.held i event.id ≠ fleet.ledger.arrivals.length :=
      fun event hevent => Nat.ne_of_lt (bounded.held i rows phase event hevent)
    exact ⟨[.work i fun _ => .status 200, .work i fun _ => .lost],
      loses_of_sending phase opened small' arrived staked unsettled unknown⟩
  | settling outcome =>
    rw [phase] at staked
    exact ⟨[.work i fun _ => .lost],
      loses_of_settling _ phase opened small' arrived staked unsettled⟩
  | _ =>
    rw [phase] at staked
    cases staked

/-- An event of a run that got, when it was queued, an identifier that some loop might yet remove. -/
def Exposed (fleet : Fleet ι) (moves : List (Move ι)) (n : Nat) : Prop :=
  ∃ before payload after, moves = before ++ .queue payload :: after ∧
    n = (fleet.run before).ledger.arrivals.length ∧
    ∃ i, ((fleet.run before).db.nextRow payload).id ∈
      ((fleet.run before).member i).loop.phase.stake

theorem Exposed.append {fleet : Fleet ι} {moves : List (Move ι)} {n : Nat}
    (h : fleet.Exposed moves n) (more : List (Move ι)) : fleet.Exposed (moves ++ more) n := by
  obtain ⟨before, payload, after, rfl, rest⟩ := h
  exact ⟨before, payload, after ++ more, by simp, rest⟩

structure Shared (fleet : Fleet ι) : Prop where
  opened : fleet.db.isOpen
  filed : fleet.Filed
  bounded : fleet.Bounded

theorem Shared.move {fleet : Fleet ι} (h : fleet.Shared) (m : Move ι) : (fleet.move m).Shared where
  opened := (fleet.isOpen_move m).trans h.opened
  filed := h.filed.move m
  bounded := h.bounded.move h.filed m

theorem Shared.run {fleet : Fleet ι} (h : fleet.Shared) (moves : List (Move ι)) :
    (fleet.run moves).Shared := by
  induction moves generalizing fleet with
  | nil => exact h
  | cons m rest ih => exact ih (h.move m)

theorem Small.run {fleet : Fleet ι} (h : fleet.Small) (moves : List (Move ι)) :
    (fleet.run moves).Small := by
  induction moves generalizing fleet with
  | nil => exact h
  | cons m rest ih => exact ih (h.move m)

theorem run_append (fleet : Fleet ι) (moves more : List (Move ι)) :
    fleet.run (moves ++ more) = (fleet.run moves).run more :=
  List.foldl_append ..

/-- Only what is exposed when it is queued is ever confused with something else. -/
theorem safe_or_exposed {fleet : Fleet ι} (h : fleet.Shared)
    (safe : ∀ n < fleet.ledger.arrivals.length, fleet.Safe n) (moves : List (Move ι)) :
    ∀ n < (fleet.run moves).ledger.arrivals.length,
      (fleet.run moves).Safe n ∨ fleet.Exposed moves n := by
  induction moves using List.reverseRecOn with
  | nil => exact fun n hn => .inl (safe n hn)
  | append_singleton moves m ih =>
    intro n hn
    rw [run_append] at hn ⊢
    change n < ((fleet.run moves).move m).ledger.arrivals.length at hn
    change ((fleet.run moves).move m).Safe n ∨ _
    by_cases old : n < (fleet.run moves).ledger.arrivals.length
    · exact (ih n old).imp (·.move m) (·.append [m])
    · obtain ⟨payload, rfl⟩ | ⟨i, answer, turned⟩ := (fleet.run moves).move_cases m
      · have opened := (h.run moves).opened
        obtain ⟨db, -, -, after⟩ := (fleet.run moves).queue_open opened payload
        have last : n = (fleet.run moves).ledger.arrivals.length := by
          simp only [Fleet.move, after, Ledger.arrive, List.length_append,
            List.length_singleton] at hn
          omega
        by_cases staked : ∃ i, ((fleet.run moves).db.nextRow payload).id ∈
            ((fleet.run moves).member i).loop.phase.stake
        · exact .inr ⟨moves, payload, [], rfl, last, staked⟩
        · exact .inl (last ▸ safe_queue opened (not_exists.1 staked))
      · rw [turned.arrivals.1] at hn
        exact absurd hn old

/-- Which events loops that share a database can lose: nothing is lost but what got, when it was queued, an
identifier that some loop might yet remove; and whatever gets such a one can be lost, as far as loops can
name in one statement what they remove. -/
theorem loses_only_exposed {db : Database} (member : ι → Member) (hopen : db.isOpen)
    (moves : List (Move ι)) :
    (∀ n, ((start db member).run moves).Loses n → (start db member).Exposed moves n) ∧
    ((∀ i, (member i).policy.settings.batchSize ≤ Database.maxParameters) → ∀ payload,
      (∃ later, ((((start db member).run moves).queue payload).run later).Loses
        ((start db member).run moves).ledger.arrivals.length) ↔
      ∃ i, (((start db member).run moves).db.nextRow payload).id ∈
        (((start db member).run moves).member i).loop.phase.stake) := by
  have shared : (start db member).Shared := ⟨hopen, filed_start db member, bounded_start db member⟩
  have safe : ∀ n < (start db member).ledger.arrivals.length, (start db member).Safe n :=
    fun n hn => (stores_start db member hn).safe fun _ => rfl
  have after := shared.run moves
  constructor
  · rintro n ⟨hn, gone, unsettled⟩
    obtain kept | exposed := safe_or_exposed shared safe moves n hn
    · exact absurd (kept.stores after.filed unsettled) gone
    · exact exposed
  · intro hsmall payload
    have small := (small_start db hsmall).run moves
    generalize (start db member).run moves = fleet at after small
    constructor
    · rintro ⟨later, -, gone, unsettled⟩
      by_contra unstaked
      have kept := (safe_queue after.opened (not_exists.1 unstaked)).run later
      have filed := ((after.move (.queue payload)).run later).filed
      exact gone (kept.stores filed unsettled)
    · rintro ⟨i, staked⟩
      exact loses_of_staked after.opened small after.bounded staked

def overtaking : List (Move Bool) :=
  let accept : Nat → Answer := fun _ => .status 200
  [.queue (.ofPairs [("e", "pv")]), .work false accept, .work false accept,
    .work true accept, .work true accept, .work true accept, .work true accept,
    .queue (.ofPairs [("e", "se")]), .work false accept, .work false accept]

def pair : Fleet Bool := start .empty fun _ => Member.new .plain

theorem overtaking_end : (pair.run overtaking).db.rows = [] ∧
    (pair.run overtaking).ledger.settled = [0, 0] ∧
    (pair.run overtaking).ledger.arrivals.length = 2 := by
  decide +kernel

theorem overtaking_loses : (pair.run overtaking).Loses 1 := by
  obtain ⟨rows, settled, arrivals⟩ := overtaking_end
  refine ⟨arrivals ▸ by decide, ?_, settled ▸ by decide⟩
  rintro ⟨row, hrow, -⟩
  rw [rows] at hrow
  cases hrow

theorem sharing_not_lossless : ¬∀ (db : Database) (member : Bool → Member)
    (moves : List (Move Bool)) (n : Nat), db.isOpen → ¬((start db member).run moves).Loses n :=
  fun lossless => lossless .empty (fun _ => Member.new .plain) overtaking 1 rfl overtaking_loses

theorem overtaken_exposed : pair.Exposed overtaking 1 ∧
    ((∃ later, (((pair.run overtaking).queue .empty).run later).Loses
        (pair.run overtaking).ledger.arrivals.length) ↔
      ∃ i, ((pair.run overtaking).db.nextRow .empty).id ∈
        ((pair.run overtaking).member i).loop.phase.stake) := by
  have loses := overtaking_loses
  have opened : Database.empty.isOpen := rfl
  unfold pair at loses ⊢
  obtain ⟨exposed, staked⟩ := loses_only_exposed (fun _ : Bool => Member.new .plain) opened overtaking
  exact ⟨exposed 1 loses, staked (fun _ => by decide) .empty⟩

end Fleet

end Telemetry.Delivery

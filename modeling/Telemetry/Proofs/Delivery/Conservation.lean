import Mathlib.Data.List.Nodup
import Telemetry.Proofs.Delivery.Custody

set_option autoImplicit false

/-!
A loop that alone removes rows loses nothing and settles nothing twice, whatever is queued meanwhile and
whatever the collector answers.
-/

namespace Telemetry.Delivery

open Store (Database EventRow Row)

namespace Fleet

def Parted (parcels : List Parcel) : Prop :=
  parcels.Pairwise fun earlier later => earlier.isFinal → ∀ n ∈ earlier.events, n ∉ later.events

/-- A batch that is as the loop read it: its rows are stored, and the loop knows their events. -/
structure Held (fleet : Fleet Unit) (rows : List EventRow) : Prop where
  nodup : (rows.map (·.id)).Nodup
  known : ∀ event ∈ rows, fleet.ledger.held () event.id = fleet.ledger.latest event.id
  stored : ∀ event ∈ rows, ∃ row ∈ fleet.db.rows,
    row.id = event.id ∧ row.payload? = some event.payload

/-- What holds of a loop that alone removes rows. An event that is settled is stored only until the loop
has removed its row. -/
structure Sole (fleet : Fleet Unit) : Prop where
  opened : fleet.db.isOpen
  small : fleet.Small
  filed : fleet.Filed
  bounded : fleet.Bounded
  safe : ∀ n < fleet.ledger.arrivals.length, fleet.Safe n
  sending : ∀ rows, (fleet.member ()).loop.phase = .sending rows → fleet.Held rows
  settling : ∀ outcome, (fleet.member ()).loop.phase = .settling outcome →
    ∀ id ∈ outcome.settledIds, ∃ row ∈ fleet.db.rows, row.id = id ∧ row.payload?.isSome
  unsettled : ∀ row ∈ fleet.db.rows, row.payload?.isSome →
    fleet.ledger.latest row.id ∈ fleet.ledger.settled →
      ∃ outcome, (fleet.member ()).loop.phase = .settling outcome ∧ row.id ∈ outcome.settledIds
  once : fleet.ledger.settled.Nodup
  parted : Parted fleet.ledger.parcels

theorem sole_start {db : Database} (member : Unit → Member) (hopen : db.isOpen)
    (hsmall : (member ()).policy.settings.batchSize ≤ Database.maxParameters) :
    (start db member).Sole where
  opened := hopen
  small := small_start db fun _ => hsmall
  filed := filed_start db member
  bounded := bounded_start db member
  safe n hn := (stores_start db member hn).safe fun _ => rfl
  sending := nofun
  settling := nofun
  unsettled row hrow hread settled := by
    obtain ⟨parcel, hparcel, -, -⟩ := Ledger.mem_settled.1 settled
    cases hparcel
  once := List.nodup_nil
  parted := List.Pairwise.nil

section Turn

variable {fleet after : Fleet Unit} {answer : Nat → Answer}

theorem Held.arrived {rows : List EventRow} (held : fleet.Held rows) (h : fleet.Filed) :
    ∀ event ∈ rows, fleet.ledger.arrivals[fleet.ledger.held () event.id]? = some event := by
  intro event hevent
  obtain ⟨row, hrow, hid, hpayload⟩ := held.stored event hevent
  have filed := h row hrow _ hpayload
  rw [hid] at filed
  rw [held.known event hevent, filed]

/-- The events of a batch are as many as its rows, and none of them is settled yet. -/
theorem Held.events {rows : List EventRow} (held : fleet.Held rows) (h : fleet.Sole)
    (phase : (fleet.member ()).loop.phase = .sending rows) :
    ((rows.map (·.id)).map (fleet.ledger.held ())).Nodup ∧
      ∀ event ∈ rows, fleet.ledger.held () event.id ∉ fleet.ledger.settled := by
  constructor
  · refine held.nodup.map_on ?_
    intro a ha b hb same
    obtain ⟨x, hx, rfl⟩ := List.mem_map.1 ha
    obtain ⟨y, hy, rfl⟩ := List.mem_map.1 hb
    have event := held.arrived h.filed x hx
    rw [same, held.arrived h.filed y hy] at event
    exact (congrArg EventRow.id (Option.some.inj event)).symm
  · intro event hevent settled
    obtain ⟨row, hrow, hid, hpayload⟩ := held.stored event hevent
    rw [held.known event hevent, ← hid] at settled
    obtain ⟨outcome, settling, -⟩ := h.unsettled row hrow (by rw [hpayload]; rfl) settled
    rw [phase] at settling
    cases settling

/-- What a round settles has not been settled before, and is settled once. -/
theorem Held.settled_send {rows : List EventRow} (held : fleet.Held rows) (h : fleet.Sole)
    (phase : (fleet.member ()).loop.phase = .sending rows) {settings : DeliverySettings}
    {clock : Nat} {exchanges : List Exchange}
    (requests : exchanges.map (·.request) = requestsFor settings clock rows)
    (rules : RetryRules) :
    (fleet.ledger.send () rules exchanges).settled.Nodup ∧
      Parted (fleet.ledger.send () rules exchanges).parcels := by
  obtain ⟨nodup, fresh⟩ := held.events h phase
  have perm := (exchanges_rowIds_perm requests).map (fleet.ledger.held ())
  rw [List.map_flatMap] at perm
  have each := perm.nodup_iff.2 nodup
  have new : ∀ exchange ∈ exchanges, ∀ n ∈ exchange.request.rowIds.map (fleet.ledger.held ()),
      n ∉ fleet.ledger.settled := by
    intro exchange hexchange n hn
    obtain ⟨id, hid, rfl⟩ := List.mem_map.1 hn
    obtain ⟨event, hevent, rfl⟩ := exists_of_mem_rowIds requests hexchange hid
    exact fresh event hevent
  constructor
  · rw [Ledger.settled_send]
    refine h.once.append (each.sublist (List.filter_sublist.flatMap _)) ?_
    intro n old hn
    obtain ⟨exchange, hexchange, hn⟩ := List.mem_flatMap.1 hn
    exact new exchange (List.mem_of_mem_filter hexchange) n hn old
  · refine List.pairwise_append.2 ⟨h.parted, List.pairwise_map.2 ?_, ?_⟩
    · refine (List.nodup_flatMap.1 each).2.imp ?_
      intro a b apart _ n hn hn'
      exact apart hn hn'
    · intro earlier hearlier later hlater final n hn hn'
      obtain ⟨exchange, hexchange, rfl⟩ := List.mem_map.1 hlater
      exact new exchange hexchange n hn' (Ledger.mem_settled.2 ⟨earlier, hearlier, final, hn⟩)

theorem Sole.turned (h : fleet.Sole) (turned : fleet.Turned () answer after) : after.Sole where
  opened := turned.sameElse.2.2.trans h.opened
  small := h.small.turned turned
  filed := h.filed.turned turned
  bounded := h.bounded.turned h.filed turned
  safe n hn := (h.safe n (turned.arrivals.1 ▸ hn)).turned turned
  sending rows phase := by
    obtain ⟨before, ledger, trims⟩ | ⟨ledger, trims, answered⟩ := turned.sending_cases phase
    · have held := h.sending rows before
      refine ⟨held.nodup, ledger ▸ held.known, fun event hevent => ?_⟩
      obtain ⟨row, hrow, hid, hpayload⟩ := held.stored event hevent
      exact ⟨row, trims.keeps row hrow (by rw [hpayload]; rfl), hid, hpayload⟩
    · refine ⟨answered.nodup, fun event _ => ?_, answered.stored⟩
      simp only [ledger, Ledger.hold, Function.update_self]
  settling outcome phase := by
    obtain ⟨before, -, trims⟩ | ⟨rows, clock, exchanges, before, requests, -, rfl, -, db⟩ :=
      turned.settling_cases phase
    · intro id hid
      obtain ⟨row, hrow, hid, hread⟩ := h.settling outcome before id hid
      exact ⟨row, trims.keeps row hrow hread, hid, hread⟩
    · intro id hid
      have batch := Outcome.settledIds_subperm (fleet.member ()).policy.rules requests
      obtain ⟨event, hevent, rfl⟩ := List.mem_map.1 (batch.subset hid)
      obtain ⟨row, hrow, hid, hpayload⟩ := (h.sending rows before).stored event hevent
      exact ⟨row, db ▸ hrow, hid, by rw [hpayload]; rfl⟩
  unsettled row hrow hread settled := by
    have old := turned.rows_subset hrow
    cases turned with
    | idle member db policy kept trims =>
      obtain ⟨outcome, before, hid⟩ := h.unsettled row old hread settled
      refine ⟨outcome, ?_, hid⟩
      simp only [setMember, Function.update_self]
      obtain same | ⟨quiet, -⟩ := kept
      · exact same.trans before
      · rw [before] at quiet
        cases quiet
    | read member db rows quiet policy phase trims answered =>
      obtain ⟨outcome, before, -⟩ := h.unsettled row old hread settled
      rw [before] at quiet
      cases quiet
    | send member rows clock exchanges before policy requests answers phase =>
      refine ⟨_, by simp only [setMember, Function.update_self]; exact phase, ?_⟩
      obtain settled | ⟨exchange, hexchange, final, id, hid, same⟩ := Ledger.mem_settled_send.1 settled
      · obtain ⟨outcome, settling, -⟩ := h.unsettled row old hread settled
        rw [before] at settling
        cases settling
      · have held := h.sending rows before
        obtain ⟨event, hevent, rfl⟩ := exists_of_mem_rowIds requests hexchange hid
        obtain ⟨payload, hpayload⟩ := Option.isSome_iff_exists.1 hread
        have arrived := held.arrived h.filed event hevent
        rw [same] at arrived
        cases (h.filed row old payload hpayload).symm.trans arrived
        exact Outcome.mem_settledIds.2 ⟨exchange, hexchange, final, hid⟩
    | settle member db outcome before policy phase deleted certain =>
      obtain ⟨other, same, hid⟩ := h.unsettled row old hread settled
      cases before.symm.trans same
      have few := h.small.stake ()
      rw [before] at few
      have gone := certain h.opened few
      have rows := (Database.delete_rows gone).2
      have kept := List.mem_filter.1 (rows ▸ hrow)
      exact absurd hid (by simpa using kept.2)
  once := by
    cases turned with
    | send member rows clock exchanges before policy requests answers phase =>
      exact ((h.sending rows before).settled_send h before requests _).1
    | _ => exact h.once
  parted := by
    cases turned with
    | send member rows clock exchanges before policy requests answers phase =>
      exact ((h.sending rows before).settled_send h before requests _).2
    | _ => exact h.parted

end Turn

/-- A loop that alone removes rows may remove stored rows only. -/
theorem Sole.stake_stored {fleet : Fleet Unit} (h : fleet.Sole) {id : Int}
    (hid : id ∈ (fleet.member ()).loop.phase.stake) : ∃ row ∈ fleet.db.rows, row.id = id := by
  cases phase : (fleet.member ()).loop.phase with
  | sending rows =>
    rw [phase] at hid
    obtain ⟨event, hevent, rfl⟩ := List.mem_map.1 hid
    obtain ⟨row, hrow, hid, -⟩ := (h.sending rows phase).stored event hevent
    exact ⟨row, hrow, hid⟩
  | settling outcome =>
    rw [phase] at hid
    obtain ⟨row, hrow, hid, -⟩ := h.settling outcome phase id hid
    exact ⟨row, hrow, hid⟩
  | _ =>
    rw [phase] at hid
    cases hid

theorem Sole.queue {fleet : Fleet Unit} (h : fleet.Sole) (payload : Payload) :
    (fleet.queue payload).Sole := by
  have filed := h.filed.move (.queue payload)
  have bounded := h.bounded.move h.filed (.queue payload)
  have small := h.small.move (.queue payload)
  have safe : ∀ n < fleet.ledger.arrivals.length, (fleet.queue payload).Safe n :=
    fun n hn => (h.safe n hn).move (.queue payload)
  have new : (fleet.queue payload).Safe fleet.ledger.arrivals.length := by
    refine safe_queue h.opened fun _ staked => ?_
    obtain ⟨row, hrow, hid⟩ := h.stake_stored staked
    exact Int.ne_of_lt (fleet.db.lt_nextRow payload hrow) hid
  obtain ⟨db, opened, rows, after⟩ := fleet.queue_open h.opened payload
  simp only [move, after] at filed bounded small safe new
  rw [after]
  have stays : ∀ row ∈ fleet.db.rows, row ∈ db.rows := fun row hrow =>
    rows ▸ List.mem_append_left _ hrow
  refine ⟨opened, small, filed, bounded, fun n hn => ?_, fun sent phase => ?_,
    fun outcome phase => ?_, fun row hrow hread settled => ?_, h.once, h.parted⟩
  · have length : n < fleet.ledger.arrivals.length + 1 := by simpa [Ledger.arrive] using hn
    rcases Nat.lt_succ_iff_lt_or_eq.1 length with old | rfl
    · exact safe n old
    · exact new
  · have held := h.sending sent phase
    refine ⟨held.nodup, fun event hevent => ?_, fun event hevent => ?_⟩
    · obtain ⟨row, hrow, hid, -⟩ := held.stored event hevent
      rw [← hid, latest_arrive hrow, hid]
      exact held.known event hevent
    · obtain ⟨row, hrow, found⟩ := held.stored event hevent
      exact ⟨row, stays row hrow, found⟩
  · intro id hid
    obtain ⟨row, hrow, found⟩ := h.settling outcome phase id hid
    exact ⟨row, stays row hrow, found⟩
  · rcases List.mem_append.1 (rows ▸ hrow) with hrow | hrow
    · rw [latest_arrive hrow] at settled
      exact h.unsettled row hrow hread settled
    · cases List.mem_singleton.1 hrow
      have old := h.bounded.settled settled
      simp [Ledger.arrive] at old

theorem Sole.move {fleet : Fleet Unit} (h : fleet.Sole) (m : Move Unit) : (fleet.move m).Sole := by
  obtain ⟨payload, rfl⟩ | ⟨i, answer, turned⟩ := fleet.move_cases m
  · exact h.queue payload
  · exact h.turned turned

theorem Sole.run {fleet : Fleet Unit} (h : fleet.Sole) (moves : List (Move Unit)) :
    (fleet.run moves).Sole := by
  induction moves generalizing fleet with
  | nil => exact h
  | cons m rest ih => exact ih (h.move m)

structure Conserved (fleet : Fleet Unit) : Prop where
  /-- But for the moment between the answers and the removal, an event is stored as it was queued until a
  request with it gets a final answer, and no longer. -/
  stores_iff : (∀ outcome, (fleet.member ()).loop.phase ≠ .settling outcome) →
    ∀ n < fleet.ledger.arrivals.length, fleet.Stores n ↔ n ∉ fleet.ledger.settled
  once : fleet.ledger.settled.Nodup
  parted : Parted fleet.ledger.parcels

theorem Sole.conserved {fleet : Fleet Unit} (h : fleet.Sole) : fleet.Conserved where
  stores_iff settled n hn := by
    refine ⟨?_, fun unsettled => (h.safe n hn).stores h.filed unsettled⟩
    rintro ⟨row, hrow, rfl, payload, hpayload, -⟩ done
    obtain ⟨outcome, settling, -⟩ := h.unsettled row hrow (by rw [hpayload]; rfl) done
    exact settled outcome settling
  once := h.once
  parted := h.parted

/-- A loop that alone removes rows conserves events, whatever is queued, whatever the answers are, and in
whatever order these things happen. -/
theorem sole_loop_conserves {db : Database} (member : Unit → Member) (hopen : db.isOpen)
    (hsmall : (member ()).policy.settings.batchSize ≤ Database.maxParameters)
    (moves : List (Move Unit)) : ((start db member).run moves).Conserved :=
  ((sole_start member hopen hsmall).run moves).conserved

theorem sole_loop_conserves_refused :
    ((start .empty fun _ => Member.new .plain).run
      [.queue (.ofPairs [("e", "pv")]), .work () fun _ => .lost, .work () fun _ => .lost,
        .queue (.ofPairs [("e", "se")]), .work () fun _ => .status 503,
        .work () fun _ => .lost]).Conserved :=
  sole_loop_conserves _ rfl (by decide) _

end Fleet

end Telemetry.Delivery

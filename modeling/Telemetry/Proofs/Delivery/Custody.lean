import Telemetry.Proofs.Delivery.Fleet

set_option autoImplicit false

namespace Telemetry.Delivery

open Store (Database EventRow Row readableRows mem_readableRows)

namespace Ledger

variable {ι : Type}

theorem mem_settled {ledger : Ledger ι} {n : Nat} :
    n ∈ ledger.settled ↔ ∃ parcel ∈ ledger.parcels, parcel.isFinal ∧ n ∈ parcel.events := by
  simp only [settled, List.mem_flatMap, List.mem_filter, and_assoc]

theorem settled_send (ledger : Ledger ι) (i : ι) (rules : RetryRules) (exchanges : List Exchange) :
    (ledger.send i rules exchanges).settled = ledger.settled ++
      (exchanges.filter (·.isFinal rules)).flatMap fun exchange =>
        exchange.request.rowIds.map (ledger.held i) := by
  simp only [settled, send, List.filter_append, List.flatMap_append, List.filter_map,
    List.flatMap_map]
  rfl

theorem mem_settled_send {ledger : Ledger ι} {i : ι} {rules : RetryRules}
    {exchanges : List Exchange} {n : Nat} :
    n ∈ (ledger.send i rules exchanges).settled ↔ n ∈ ledger.settled ∨
      ∃ exchange ∈ exchanges, exchange.isFinal rules ∧
        ∃ id ∈ exchange.request.rowIds, ledger.held i id = n := by
  simp only [settled_send, List.mem_append, List.mem_flatMap, List.mem_filter, List.mem_map,
    and_assoc]

end Ledger

namespace Fleet

variable {ι : Type}

theorem queue_cases (fleet : Fleet ι) (payload : Payload) :
    fleet.queue payload = fleet ∨
      ∃ db, fleet.db.SameElse db ∧ db.rows = fleet.db.rows ++ [fleet.db.nextRow payload] ∧
        fleet.queue payload = { fleet with
          db
          ledger := fleet.ledger.arrive ⟨(fleet.db.nextRow payload).id, payload⟩ } := by
  unfold queue
  cases added : fleet.db.add payload with
  | error cause => exact .inl rfl
  | ok db =>
    obtain ⟨-, same, rows⟩ := Database.add_rows added
    exact .inr ⟨db, same, rows, rfl⟩

theorem queue_open {fleet : Fleet ι} (h : fleet.db.isOpen) (payload : Payload) :
    ∃ db, db.isOpen ∧ db.rows = fleet.db.rows ++ [fleet.db.nextRow payload] ∧
      fleet.queue payload = { fleet with
        db
        ledger := fleet.ledger.arrive ⟨(fleet.db.nextRow payload).id, payload⟩ } := by
  obtain ⟨db, added, same, rows⟩ := Database.add_spec payload h
  exact ⟨db, same.2.2.trans h, rows, by rw [queue, added]⟩

def Filed (fleet : Fleet ι) : Prop :=
  ∀ row ∈ fleet.db.rows, ∀ payload, row.payload? = some payload →
    fleet.ledger.arrivals[fleet.ledger.latest row.id]? = some ⟨row.id, payload⟩

structure Bounded (fleet : Fleet ι) : Prop where
  held : ∀ i rows, (fleet.member i).loop.phase = .sending rows →
    ∀ event ∈ rows, fleet.ledger.held i event.id < fleet.ledger.arrivals.length
  parcels : ∀ parcel ∈ fleet.ledger.parcels, ∀ n ∈ parcel.events,
    n < fleet.ledger.arrivals.length

theorem Bounded.settled {fleet : Fleet ι} (h : fleet.Bounded) {n : Nat}
    (hn : n ∈ fleet.ledger.settled) : n < fleet.ledger.arrivals.length := by
  obtain ⟨parcel, hparcel, -, hn⟩ := Ledger.mem_settled.1 hn
  exact h.parcels parcel hparcel n hn

theorem Filed.lt {fleet : Fleet ι} (h : fleet.Filed) {row : Row} (hrow : row ∈ fleet.db.rows)
    (hread : row.payload?.isSome) :
    fleet.ledger.latest row.id < fleet.ledger.arrivals.length := by
  obtain ⟨payload, hpayload⟩ := Option.isSome_iff_exists.1 hread
  exact (List.getElem?_eq_some_iff.1 (h row hrow payload hpayload)).1

theorem latest_arrive {ledger : Ledger ι} {db : Database} {payload : Payload} {row : Row}
    (h : row ∈ db.rows) :
    (ledger.arrive ⟨(db.nextRow payload).id, payload⟩).latest row.id = ledger.latest row.id :=
  Function.update_of_ne (Int.ne_of_lt (db.lt_nextRow payload h)) _ _

theorem filed_start (db : Database) (member : ι → Member) : (start db member).Filed := by
  intro row hrow payload hpayload
  have listed : ⟨row.id, payload⟩ ∈ readableRows db.rows :=
    mem_readableRows.2 ⟨row, hrow, rfl, hpayload⟩
  have found : (readableRows db.rows).findIdx (·.id = row.id) < (readableRows db.rows).length :=
    List.findIdx_lt_length_of_exists ⟨_, listed, by simp⟩
  change (readableRows db.rows)[(readableRows db.rows).findIdx (·.id = row.id)]? = _
  rw [List.getElem?_eq_getElem found]
  have same := List.findIdx_getElem (w := found)
  obtain ⟨row', hrow', hid, hpayload'⟩ := mem_readableRows.1 (List.getElem_mem found)
  cases Store.eq_of_id_eq db.rows_ascending hrow' hrow (hid.trans (by simpa using same))
  exact congrArg some
    (EventRow.eq_mk hid.symm (Option.some.inj (hpayload'.symm.trans hpayload)))

theorem stores_start (db : Database) (member : ι → Member) {n : Nat}
    (hn : n < (start db member).ledger.arrivals.length) : (start db member).Stores n := by
  obtain ⟨row, hrow, hid, hpayload⟩ := mem_readableRows.1 (List.getElem_mem hn)
  have arrived : (start db member).ledger.arrivals[n]? =
      some ⟨row.id, (start db member).ledger.arrivals[n].payload⟩ := by
    rw [List.getElem?_eq_getElem hn]
    exact congrArg some (EventRow.eq_mk hid.symm rfl)
  have ids : ((readableRows db.rows).map (·.id)).Nodup :=
    (Store.readableRows_ids_sublist db.rows).nodup (Store.ids_nodup db.rows_ascending)
  have latest : n = (start db member).ledger.latest row.id :=
    (List.getElem?_inj hn (ids.of_map _)).1
      (arrived.trans (filed_start db member row hrow _ hpayload).symm)
  exact ⟨row, hrow, latest.symm, _, hpayload, arrived⟩

theorem bounded_start (db : Database) (member : ι → Member) : (start db member).Bounded :=
  ⟨nofun, nofun⟩

structure Small (fleet : Fleet ι) : Prop where
  batch : ∀ i, (fleet.member i).policy.settings.batchSize ≤ Database.maxParameters
  stake : ∀ i, (fleet.member i).loop.phase.stake.length ≤ Database.maxParameters

theorem small_start (db : Database) {member : ι → Member}
    (h : ∀ i, (member i).policy.settings.batchSize ≤ Database.maxParameters) :
    (start db member).Small :=
  ⟨h, fun _ => Nat.zero_le _⟩

def Spares (fleet : Fleet ι) (i : ι) (id : Int) (n : Nat) : Prop :=
  match (fleet.member i).loop.phase with
  | .sending rows => (∃ event ∈ rows, event.id = id) → fleet.ledger.held i id = n
  | .settling outcome => id ∉ outcome.settledIds
  | _ => True

/-- A row that holds an event, and that no loop takes for the row of another one. -/
structure Keeps (fleet : Fleet ι) (row : Row) (n : Nat) : Prop where
  stored : row ∈ fleet.db.rows
  readable : row.payload?.isSome
  latest : fleet.ledger.latest row.id = n
  spared : ∀ i, fleet.Spares i row.id n

def Safe (fleet : Fleet ι) (n : Nat) : Prop := n ∈ fleet.ledger.settled ∨ ∃ row, fleet.Keeps row n

theorem spares_of_isQuiet {fleet : Fleet ι} {i : ι} (h : (fleet.member i).loop.phase.isQuiet)
    (id : Int) (n : Nat) : fleet.Spares i id n := by
  unfold Spares
  cases phase : (fleet.member i).loop.phase with
  | sending rows | settling outcome => rw [phase] at h; cases h
  | _ => trivial

theorem Spares.of_eq {fleet after : Fleet ι} {i : ι} {id : Int} {n : Nat}
    (h : fleet.Spares i id n)
    (phase : (after.member i).loop.phase = (fleet.member i).loop.phase)
    (held : after.ledger.held i = fleet.ledger.held i) : after.Spares i id n := by
  unfold Spares at *
  rwa [phase, held]

theorem Stores.safe {fleet : Fleet ι} {n : Nat} (h : fleet.Stores n)
    (quiet : ∀ i, (fleet.member i).loop.phase.isQuiet) : fleet.Safe n := by
  obtain ⟨row, hrow, latest, payload, hpayload, -⟩ := h
  exact .inr ⟨row, hrow, by rw [hpayload]; rfl, latest, fun i => spares_of_isQuiet (quiet i) _ _⟩

theorem Safe.stores {fleet : Fleet ι} {n : Nat} (h : fleet.Safe n) (filed : fleet.Filed)
    (unsettled : n ∉ fleet.ledger.settled) : fleet.Stores n := by
  obtain settled | ⟨row, kept⟩ := h
  · exact absurd settled unsettled
  · obtain ⟨payload, hpayload⟩ := Option.isSome_iff_exists.1 kept.readable
    have filed := filed row kept.stored payload hpayload
    rw [kept.latest] at filed
    exact ⟨row, kept.stored, kept.latest, payload, hpayload, filed⟩

/-- A payload is safe from the start if no loop may yet remove a row by the identifier that it gets. -/
theorem safe_queue {fleet : Fleet ι} (hopen : fleet.db.isOpen) {payload : Payload}
    (fresh : ∀ i, (fleet.db.nextRow payload).id ∉ (fleet.member i).loop.phase.stake) :
    (fleet.queue payload).Safe fleet.ledger.arrivals.length := by
  obtain ⟨db, -, rows, after⟩ := fleet.queue_open hopen payload
  rw [after]
  refine .inr ⟨fleet.db.nextRow payload, ?_, ?_, ?_, fun i => ?_⟩
  · rw [rows]
    exact List.mem_append_right _ (List.mem_singleton.2 rfl)
  · rw [fleet.db.nextRow_payload? payload]
    rfl
  · exact Function.update_self _ _ _
  · have unstaked := fresh i
    unfold Spares
    cases phase : (fleet.member i).loop.phase with
    | sending found =>
      rw [phase] at unstaked
      rintro ⟨event, hevent, hid⟩
      exact absurd (List.mem_map.2 ⟨event, hevent, hid⟩) unstaked
    | settling outcome =>
      rw [phase] at unstaked
      exact unstaked
    | _ => trivial

variable [DecidableEq ι]

section Frame

variable {fleet after : Fleet ι} {i : ι} {answer : Nat → Answer}

theorem Turned.sameElse (h : fleet.Turned i answer after) : fleet.db.SameElse after.db := by
  cases h with
  | idle member db policy phase trims => exact trims.same
  | read member db rows before policy phase trims answered => exact trims.same
  | send member rows clock exchanges before policy requests answers phase => exact .refl _
  | settle member db outcome before policy phase deleted certain =>
    rcases deleted with rfl | deleted
    · exact .refl _
    · exact (Database.delete_rows deleted).1

theorem Turned.rows_subset (h : fleet.Turned i answer after) : after.db.rows ⊆ fleet.db.rows := by
  cases h with
  | idle member db policy phase trims => exact trims.sublist.subset
  | read member db rows before policy phase trims answered => exact trims.sublist.subset
  | send member rows clock exchanges before policy requests answers phase =>
    exact List.Subset.refl _
  | settle member db outcome before policy phase deleted certain =>
    rcases deleted with rfl | deleted
    · exact List.Subset.refl _
    · exact (Database.delete_rows deleted).2 ▸ List.filter_subset_self _

theorem Turned.arrivals (h : fleet.Turned i answer after) :
    after.ledger.arrivals = fleet.ledger.arrivals ∧ after.ledger.latest = fleet.ledger.latest := by
  cases h <;> exact ⟨rfl, rfl⟩

theorem Turned.policy (h : fleet.Turned i answer after) (j : ι) :
    (after.member j).policy = (fleet.member j).policy := by
  cases h with
  | idle member db policy | read member db rows before policy
  | send member rows clock exchanges before policy | settle member db outcome before policy =>
    by_cases hj : j = i
    · subst hj
      simpa [setMember] using policy
    · simp [setMember, hj]

theorem Turned.others (h : fleet.Turned i answer after) {j : ι} (hj : j ≠ i) :
    after.member j = fleet.member j ∧ after.ledger.held j = fleet.ledger.held j := by
  cases h <;> simp [setMember, Ledger.hold, Ledger.send, hj]

/-- A loop that is to send has been so all along, or has just read. -/
theorem Turned.sending_cases (h : fleet.Turned i answer after) {rows : List EventRow}
    (phase : (after.member i).loop.phase = .sending rows) :
    ((fleet.member i).loop.phase = .sending rows ∧ after.ledger = fleet.ledger ∧
      fleet.db.Trims after.db) ∨
    (after.ledger = fleet.ledger.hold i ∧ fleet.db.Trims after.db ∧
      after.db.Answered (Database.rowLimit (fleet.member i).policy.settings.batchSize) rows) := by
  cases h with
  | idle member db policy kept trims =>
    simp only [setMember, Function.update_self] at phase
    obtain same | ⟨-, quiet⟩ := kept
    · exact .inl ⟨same ▸ phase, rfl, trims⟩
    · rw [phase] at quiet
      cases quiet
  | read member db found before policy reading trims answered =>
    simp only [setMember, Function.update_self, reading] at phase
    cases phase
    exact .inr ⟨rfl, trims, policy ▸ answered⟩
  | send member sent clock exchanges before policy requests answers sending =>
    simp only [setMember, Function.update_self, sending] at phase
    cases phase
  | settle member db outcome before policy quiet deleted certain =>
    simp only [setMember, Function.update_self] at phase
    rw [phase] at quiet
    cases quiet

/-- A loop that is to settle has been so all along, or has just sent. -/
theorem Turned.settling_cases (h : fleet.Turned i answer after) {outcome : Outcome}
    (phase : (after.member i).loop.phase = .settling outcome) :
    ((fleet.member i).loop.phase = .settling outcome ∧ after.ledger = fleet.ledger ∧
      fleet.db.Trims after.db) ∨
    (∃ rows clock exchanges, (fleet.member i).loop.phase = .sending rows ∧
      exchanges.map (·.request) =
        requestsFor (fleet.member i).policy.settings clock rows ∧
      (∀ exchange ∈ exchanges, ∃ n, exchange.answer = answer n) ∧
      outcome = Outcome.ofExchanges (fleet.member i).policy.rules rows (inTurns exchanges) ∧
      after.ledger = fleet.ledger.send i (fleet.member i).policy.rules exchanges ∧
      after.db = fleet.db) := by
  cases h with
  | idle member db policy kept trims =>
    simp only [setMember, Function.update_self] at phase
    obtain same | ⟨-, quiet⟩ := kept
    · exact .inl ⟨same ▸ phase, rfl, trims⟩
    · rw [phase] at quiet
      cases quiet
  | read member db found before policy reading trims answered =>
    simp only [setMember, Function.update_self, reading] at phase
    cases phase
  | send member rows clock exchanges before policy requests answers sending =>
    simp only [setMember, Function.update_self, sending] at phase
    cases phase
    exact .inr ⟨rows, clock, exchanges, before, policy ▸ requests, answers, policy ▸ rfl,
      policy ▸ rfl, rfl⟩
  | settle member db settled before policy quiet deleted certain =>
    simp only [setMember, Function.update_self] at phase
    rw [phase] at quiet
    cases quiet

end Frame

theorem isOpen_move (fleet : Fleet ι) (m : Move ι) : (fleet.move m).db.isOpen = fleet.db.isOpen := by
  obtain ⟨payload, rfl⟩ | ⟨i, answer, turned⟩ := fleet.move_cases m
  · obtain same | ⟨db, same, -, after⟩ := fleet.queue_cases payload
    · rw [move, same]
    · rw [move, after]
      exact same.2.2
  · exact turned.sameElse.2.2

theorem Filed.turned {fleet after : Fleet ι} {i : ι} {answer : Nat → Answer} (h : fleet.Filed)
    (turned : fleet.Turned i answer after) : after.Filed := by
  intro row hrow found hfound
  rw [turned.arrivals.1, turned.arrivals.2]
  exact h row (turned.rows_subset hrow) found hfound

theorem Filed.move {fleet : Fleet ι} (h : fleet.Filed) (m : Move ι) : (fleet.move m).Filed := by
  obtain ⟨payload, rfl⟩ | ⟨i, answer, turned⟩ := fleet.move_cases m
  · obtain same | ⟨db, -, rows, after⟩ := fleet.queue_cases payload
    · rwa [Fleet.move, same]
    · rw [Fleet.move, after]
      intro row hrow found hfound
      rcases List.mem_append.1 (rows ▸ hrow) with hrow | hrow
      · rw [latest_arrive hrow]
        exact List.getElem?_append_left (h.lt hrow (by rw [hfound]; rfl)) ▸ h row hrow found hfound
      · cases List.mem_singleton.1 hrow
        cases (fleet.db.nextRow_payload? payload).symm.trans hfound
        simp [Ledger.arrive]
  · exact h.turned turned

theorem Bounded.turned {fleet after : Fleet ι} {i : ι} {answer : Nat → Answer}
    (h : fleet.Bounded) (filed : fleet.Filed) (turned : fleet.Turned i answer after) :
    after.Bounded where
  held j rows phase event hevent := by
    rw [turned.arrivals.1]
    by_cases hj : j = i
    · subst hj
      obtain ⟨before, ledger, -⟩ | ⟨ledger, trims, answered⟩ := turned.sending_cases phase
      · rw [ledger]
        exact h.held j rows before event hevent
      · obtain ⟨row, hrow, hid, hpayload⟩ := answered.stored event hevent
        simp only [ledger, ← hid, Ledger.hold, Function.update_self]
        exact filed.lt (trims.sublist.subset hrow) (by rw [hpayload]; rfl)
    · obtain ⟨same, held⟩ := turned.others hj
      rw [held]
      exact h.held j rows (same ▸ phase) event hevent
  parcels parcel hparcel n hn := by
    rw [turned.arrivals.1]
    cases turned with
    | send member rows clock exchanges before policy requests answers phase =>
      rcases List.mem_append.1 hparcel with hparcel | hparcel
      · exact h.parcels parcel hparcel n hn
      · obtain ⟨exchange, hexchange, rfl⟩ := List.mem_map.1 hparcel
        obtain ⟨id, hid, rfl⟩ := List.mem_map.1 hn
        obtain ⟨event, hevent, rfl⟩ := exists_of_mem_rowIds requests hexchange hid
        exact h.held i rows before event hevent
    | _ => exact h.parcels parcel hparcel n hn

theorem Bounded.move {fleet : Fleet ι} (h : fleet.Bounded) (filed : fleet.Filed) (m : Move ι) :
    (fleet.move m).Bounded := by
  obtain ⟨payload, rfl⟩ | ⟨i, answer, turned⟩ := fleet.move_cases m
  · obtain same | ⟨db, -, rows, after⟩ := fleet.queue_cases payload
    · rwa [Fleet.move, same]
    · rw [Fleet.move, after]
      have longer : fleet.ledger.arrivals.length <
          (fleet.ledger.arrive ⟨(fleet.db.nextRow payload).id, payload⟩).arrivals.length := by
        simp [Ledger.arrive]
      exact ⟨fun i rows phase event hevent => Nat.lt_trans (h.held i rows phase event hevent) longer,
        fun parcel hparcel n hn => Nat.lt_trans (h.parcels parcel hparcel n hn) longer⟩
  · exact h.turned filed turned

theorem Small.turned {fleet after : Fleet ι} {i : ι} {answer : Nat → Answer} (h : fleet.Small)
    (turned : fleet.Turned i answer after) : after.Small where
  batch j := turned.policy j ▸ h.batch j
  stake j := by
    by_cases hj : j = i
    · subst hj
      have before := h.stake j
      cases phase : (after.member j).loop.phase with
      | sending rows =>
        simp only [Phase.stake, List.length_map]
        obtain ⟨same, -, -⟩ | ⟨-, -, answered⟩ := turned.sending_cases phase
        · simpa [same, Phase.stake] using before
        · exact Nat.le_trans (answered.length_le _ (Database.rowLimit_small (h.batch j))) (h.batch j)
      | settling outcome =>
        obtain ⟨same, -, -⟩ | ⟨rows, clock, exchanges, sending, requests, -, rfl, -⟩ :=
          turned.settling_cases phase
        · rwa [same] at before
        · rw [sending] at before
          exact Nat.le_trans (Outcome.settledIds_subperm _ requests).length_le before
      | _ => exact Nat.zero_le _
    · rw [(turned.others hj).1]
      exact h.stake j

theorem Small.move {fleet : Fleet ι} (h : fleet.Small) (m : Move ι) : (fleet.move m).Small := by
  obtain ⟨payload, rfl⟩ | ⟨i, answer, turned⟩ := fleet.move_cases m
  · obtain same | ⟨db, -, -, after⟩ := fleet.queue_cases payload
    · rwa [Fleet.move, same]
    · rw [Fleet.move, after]
      exact ⟨h.batch, h.stake⟩
  · exact h.turned turned

theorem Turned.settled_subset {fleet after : Fleet ι} {i : ι} {answer : Nat → Answer}
    (turned : fleet.Turned i answer after) : fleet.ledger.settled ⊆ after.ledger.settled := by
  cases turned with
  | send member rows clock exchanges before policy requests answers phase =>
    exact fun n hn => Ledger.mem_settled_send.2 (.inl hn)
  | _ => exact List.Subset.refl _

theorem Safe.turned {fleet after : Fleet ι} {i : ι} {answer : Nat → Answer} {n : Nat}
    (h : fleet.Safe n) (turned : fleet.Turned i answer after) : after.Safe n := by
  obtain settled | ⟨row, kept⟩ := h
  · exact .inl (turned.settled_subset settled)
  have others : ∀ j, j ≠ i → after.Spares j row.id n := fun j hj =>
    (kept.spared j).of_eq (by rw [(turned.others hj).1]) (turned.others hj).2
  have latest : after.ledger.latest row.id = n := turned.arrivals.2 ▸ kept.latest
  -- what is left to see is that the row stays, and that loop `i` spares it
  suffices new : n ∈ after.ledger.settled ∨ row ∈ after.db.rows ∧ after.Spares i row.id n by
    obtain settled | ⟨stored, spared⟩ := new
    · exact .inl settled
    · refine .inr ⟨row, stored, kept.readable, latest, fun j => ?_⟩
      by_cases hj : j = i
      · exact hj ▸ spared
      · exact others j hj
  have spared := kept.spared i
  cases turned with
  | idle member db policy phase trims =>
    refine .inr ⟨trims.keeps row kept.stored kept.readable, ?_⟩
    obtain same | ⟨-, quiet⟩ := phase
    · exact spared.of_eq (by simpa [setMember] using same) rfl
    · exact spares_of_isQuiet (by simpa [setMember] using quiet) _ _
  | read member db rows before policy phase trims answered =>
    refine .inr ⟨trims.keeps row kept.stored kept.readable, ?_⟩
    simp only [Spares, setMember, Function.update_self, phase, Ledger.hold]
    exact fun _ => kept.latest
  | send member rows clock exchanges before policy requests answers phase =>
    simp only [Spares, before] at spared
    by_cases final : ∃ exchange ∈ exchanges, exchange.isFinal member.policy.rules ∧
        row.id ∈ exchange.request.rowIds
    · obtain ⟨exchange, hexchange, hfinal, hid⟩ := final
      have known := spared (exists_of_mem_rowIds requests hexchange hid)
      exact .inl (Ledger.mem_settled_send.2 (.inr ⟨exchange, hexchange, hfinal, _, hid, known⟩))
    · refine .inr ⟨kept.stored, ?_⟩
      simp only [Spares, setMember, Function.update_self, phase, Outcome.mem_settledIds]
      exact final
  | settle member db outcome before policy phase deleted certain =>
    simp only [Spares, before] at spared
    refine .inr ⟨?_, spares_of_isQuiet (by simpa [setMember] using phase) _ _⟩
    rcases deleted with rfl | deleted
    · exact kept.stored
    · have rows := (Database.delete_rows deleted).2
      rw [rows, List.mem_filter]
      exact ⟨kept.stored, by simpa using spared⟩

theorem Safe.move {fleet : Fleet ι} {n : Nat} (h : fleet.Safe n) (m : Move ι) :
    (fleet.move m).Safe n := by
  obtain ⟨payload, rfl⟩ | ⟨i, answer, turned⟩ := fleet.move_cases m
  · obtain same | ⟨db, -, rows, after⟩ := fleet.queue_cases payload
    · rwa [Fleet.move, same]
    · rw [Fleet.move, after]
      refine h.imp id fun ⟨row, kept⟩ => ⟨row, ?_, kept.readable, ?_, fun i => ?_⟩
      · rw [rows]
        exact List.mem_append_left _ kept.stored
      · exact (latest_arrive kept.stored).trans kept.latest
      · exact (kept.spared i).of_eq rfl rfl
  · exact h.turned turned

theorem Safe.run {fleet : Fleet ι} {n : Nat} (h : fleet.Safe n) (moves : List (Move ι)) :
    (fleet.run moves).Safe n := by
  induction moves generalizing fleet with
  | nil => exact h
  | cons m rest ih => exact ih (h.move m)

end Fleet

end Telemetry.Delivery

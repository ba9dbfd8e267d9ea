import Mathlib.Logic.Function.Basic
import Telemetry.Proofs.Delivery.Accounts

set_option autoImplicit false

namespace Telemetry.Delivery

open Store (Database EventRow Row)

def leftIds (settled : List Int) (db : Database) : List Int :=
  (db.rows.map (·.id)).filter (· ∉ settled)

theorem leftIds_nil (db : Database) : leftIds [] db = db.rows.map (·.id) := by
  simp [leftIds]

theorem mem_leftIds {settled : List Int} {db : Database} {id : Int} :
    id ∈ leftIds settled db ↔ id ∈ db.rows.map (·.id) ∧ id ∉ settled := by
  rw [leftIds, List.mem_filter, decide_eq_true_eq]

theorem leftIds_perm {settled : List Int} {db : Database} (once : settled.Nodup)
    (among : settled ⊆ db.rows.map (·.id)) : (settled ++ leftIds settled db).Perm (db.rows.map (·.id)) := by
  have distinct : (db.rows.map (·.id)).Nodup := Store.ids_nodup db.rows_ascending
  have apart : settled.Disjoint (leftIds settled db) := by
    intro id done left
    exact (mem_leftIds.1 left).2 done
  have left : (leftIds settled db).Nodup := distinct.filter _
  apply (List.perm_ext_iff_of_nodup (once.append left apart) distinct).2
  intro id
  have whole : id ∈ settled → id ∈ db.rows.map (·.id) := fun done => among done
  rw [List.mem_append, mem_leftIds]
  tauto

theorem leftIds_delete {settled : List Int} {db after : Database} (h : db.delete settled = .ok after) :
    leftIds settled db = after.rows.map (·.id) := by
  rw [leftIds, (Database.delete_rows h).2, List.filter_map]
  congr 2
  funext row
  simp

theorem leftIds_add {settled : List Int} {db after : Database} {payload : Payload}
    (h : db.add payload = .ok after) (fresh : (db.nextRow payload).id ∉ settled) :
    leftIds settled after = leftIds settled db ++ [(db.nextRow payload).id] := by
  rw [leftIds, leftIds, (Database.add_rows h).2.2, List.map_append, List.filter_append]
  simp [fresh]

def Phase.settledIds : Phase → List Int
  | .settling outcome => outcome.settledIds
  | _ => []

def Phase.unreported (status : DeliveryStatus) : Phase → List String
  | .settling outcome => outcome.idsWith status
  | _ => []

theorem Phase.settledIds_of_isQuiet {phase : Phase} (h : phase.isQuiet) : phase.settledIds = [] := by
  cases phase with
  | sending rows | settling outcome => cases h
  | _ => rfl

theorem Phase.unreported_of_isQuiet {phase : Phase} (h : phase.isQuiet) (status : DeliveryStatus) :
    phase.unreported status = [] := by
  cases phase with
  | sending rows | settling outcome => cases h
  | _ => rfl

theorem Phase.settledIds_subset_stake (phase : Phase) : phase.settledIds ⊆ phase.stake := by
  cases phase with
  | settling outcome => exact List.Subset.refl _
  | _ => exact List.nil_subset _

def Exchange.rename (name : Int → Int) (exchange : Exchange) : Exchange :=
  { exchange with request := { exchange.request with rowIds := exchange.request.rowIds.map name } }

section Rename

variable {rules : RetryRules} {name : Int → Int}

theorem Exchange.status?_rename (exchange : Exchange) :
    (exchange.rename name).status? rules = exchange.status? rules := by
  obtain ⟨request, answer⟩ := exchange
  cases answer <;> rfl

theorem rowsWith_rename (status : DeliveryStatus) (exchanges : List Exchange) :
    rowsWith rules status (exchanges.map (·.rename name)) = (rowsWith rules status exchanges).map name := by
  induction exchanges with
  | nil => rfl
  | cons exchange rest ih =>
    rw [List.map_cons, rowsWith_cons, rowsWith_cons, ih, List.map_append, Exchange.status?_rename]
    split_ifs <;> rfl

end Rename

/-- Events under names that outlast their rows: all that came, the names of those in the rows, and what was
exchanged about them. -/
structure Account where
  events : List Int
  name : Int → Int
  exchanges : List Exchange

namespace Account

def ofRows (events : List Int) (history : List Record) : Account := ⟨events, id, exchangesOf history⟩

def record (account : Account) (exchanges : List Exchange) : Account :=
  { account with exchanges := account.exchanges ++ exchanges.map (·.rename account.name) }

def arrive (account : Account) (id : Int) : Account :=
  { account with
    events := account.events ++ [(account.events.length : Int)]
    name := Function.update account.name id account.events.length }

theorem record_nil (account : Account) : account.record [] = account := by
  simp [record]

theorem record_ofRows (events : List Int) (history more : List Record) :
    (ofRows events history).record (exchangesOf more) = ofRows events (history ++ more) := by
  have same : Exchange.rename id = id := by
    funext exchange
    simp [Exchange.rename]
  simp only [record, ofRows, same, List.map_id, exchangesOf_append]

end Account

/-- The events that came into the queue are delivered, given up or still in it, and the answers are reported.
What the loop has in hand counts as done. -/
structure Books (account : Account) (policy : Policy) (loop : SendLoop) (s : Surroundings) : Prop where
  distinct : account.events.Nodup
  opened : s.db.isOpen
  named : ∀ row ∈ s.db.rows, row.IsNamed
  batch : ∀ rows, loop.phase = .sending rows → ∀ event ∈ rows, event.IsNamed
  sound : loop.Sound policy s.db
  balance : account.events.Perm (rowsWith policy.rules .success account.exchanges ++
    rowsWith policy.rules .wontRetry account.exchanges ++
      (leftIds loop.phase.settledIds s.db).map account.name)
  reported : ∀ status, (reportedIds status s.history).length + (loop.phase.unreported status).length =
    (rowsWith policy.rules status account.exchanges).length
  closed : Closed policy.rules account.exchanges
  sent : ∀ exchange ∈ account.exchanges,
    exchange.request.rowIds.Nodup ∧ exchange.request.rowIds ⊆ account.events

namespace Books

variable {account : Account} {policy : Policy} {loop loop' : SendLoop} {s : Surroundings}

theorem quiet (h : Books account policy loop s) (before : loop.phase.isQuiet) (after : loop'.phase.isQuiet) :
    Books account policy loop' s where
  distinct := h.distinct
  opened := h.opened
  named := h.named
  batch rows sending := by
    rw [sending] at after
    cases after
  sound := SendLoop.sound_of_isQuiet after
  balance := by
    rw [Phase.settledIds_of_isQuiet after, ← Phase.settledIds_of_isQuiet before]
    exact h.balance
  reported status := by
    rw [Phase.unreported_of_isQuiet after, ← Phase.unreported_of_isQuiet before status]
    exact h.reported status
  closed := h.closed
  sent := h.sent

theorem readable (h : Books account policy loop s) : ∀ row ∈ s.db.rows, row.payload?.isSome := by
  intro row hrow
  obtain ⟨payload, found, -⟩ := h.named row hrow
  rw [found]
  rfl

theorem read_same (h : Books account policy loop s) : (SendLoop.read policy s).2 = s :=
  (SendLoop.read_initial policy h.opened h.readable).2

theorem read_named (h : Books account policy loop s) :
    ∀ event ∈ (SendLoop.read policy s).1, event.IsNamed := by
  intro event hevent
  have found := (SendLoop.read_initial policy h.opened h.readable).1.subset hevent
  obtain ⟨row, hrow, -, stored⟩ := Store.mem_readableRows.1 found
  obtain ⟨payload, same, named⟩ := h.named row hrow
  cases stored.symm.trans same
  exact named

theorem read (h : Books account policy loop s) (before : loop.phase = .reading)
    (after : loop'.phase = SendLoop.afterRead (SendLoop.read policy s).1)
    (sound : loop'.Sound policy s.db) : Books account policy loop' s := by
  have settled : loop'.phase.settledIds = loop.phase.settledIds := by
    rw [before, after, SendLoop.afterRead]
    split_ifs <;> rfl
  have unreported : ∀ status, loop'.phase.unreported status = loop.phase.unreported status := by
    intro status
    rw [before, after, SendLoop.afterRead]
    split_ifs <;> rfl
  refine ⟨h.distinct, h.opened, h.named, ?_, sound, ?_, ?_, h.closed, h.sent⟩
  · intro rows sending
    rw [after, SendLoop.afterRead] at sending
    split_ifs at sending
    cases sending
    exact h.read_named
  · rw [settled]
    exact h.balance
  · intro status
    rw [unreported]
    exact h.reported status

theorem balance_of_nil (h : Books account policy loop s) (nothing : loop.phase.settledIds = []) :
    account.events.Perm (rowsWith policy.rules .success account.exchanges ++
      rowsWith policy.rules .wontRetry account.exchanges ++
        (s.db.rows.map (·.id)).map account.name) := by
  have balance := h.balance
  rwa [nothing, leftIds_nil] at balance

/-- Rows that are in the queue together have different names. -/
theorem names_nodup (h : Books account policy loop s) (nothing : loop.phase.settledIds = []) :
    ((s.db.rows.map (·.id)).map account.name).Nodup :=
  ((h.balance_of_nil nothing).nodup_iff.1 h.distinct).of_append_right

/-- An event that is still in the queue has no final answer yet. -/
theorem unanswered (h : Books account policy loop s) (nothing : loop.phase.settledIds = []) {event : Int}
    (kept : event ∈ (s.db.rows.map (·.id)).map account.name) {exchange : Exchange}
    (made : exchange ∈ account.exchanges) (final : exchange.isFinal policy.rules) :
    event ∉ exchange.request.rowIds := by
  intro sent
  have apart := List.disjoint_of_nodup_append ((h.balance_of_nil nothing).nodup_iff.1 h.distinct)
  refine apart ?_ kept
  rw [List.mem_append, mem_rowsWith, mem_rowsWith]
  rcases Exchange.isFinal_iff.1 final with success | refused
  · exact .inl ⟨exchange, made, success, sent⟩
  · exact .inr ⟨exchange, made, refused, sent⟩

section Send

variable {rows : List EventRow}

theorem settledIds_of_sending (before : loop.phase = .sending rows) : loop.phase.settledIds = [] := by
  rw [before]
  rfl

theorem kept_of_sending (h : Books account policy loop s) (before : loop.phase = .sending rows) :
    ∀ event ∈ rows, event.id ∈ s.db.rows.map (·.id) := by
  intro event hevent
  have stake : event.id ∈ loop.phase.stake := by
    rw [before]
    exact List.mem_map_of_mem hevent
  obtain ⟨row, hrow, same⟩ := h.sound.kept _ stake
  rw [Database.keptRows_of_isOpen h.opened] at hrow
  exact same ▸ List.mem_map_of_mem hrow

theorem nodup_of_sending (h : Books account policy loop s) (before : loop.phase = .sending rows) :
    ((rows.map (·.id)).map account.name).Nodup := by
  have stake := h.sound.nodup
  rw [before] at stake
  have distinct := h.names_nodup (settledIds_of_sending before)
  have kept : ∀ id ∈ rows.map (·.id), id ∈ s.db.rows.map (·.id) := by
    intro id hid
    obtain ⟨event, hevent, rfl⟩ := List.mem_map.1 hid
    exact h.kept_of_sending before event hevent
  apply List.Nodup.map_on _ stake
  intro a ha b hb same
  exact List.inj_on_of_nodup_map distinct (kept a ha) (kept b hb) same

/-- The names in the requests of a round, each in one request. -/
theorem round_names (h : Books account policy loop s) (before : loop.phase = .sending rows) :
    (((SendLoop.round policy s rows).map (·.rename account.name)).flatMap (·.request.rowIds)).Nodup := by
  have requests := exchanges_rowIds_perm (SendLoop.round_requests policy s rows)
  have names := (requests.map account.name).nodup_iff.2 (h.nodup_of_sending before)
  rw [List.map_flatMap] at names
  rw [List.flatMap_map]
  exact names

/-- The final answers of a round move events from those that are left to those that are done with. -/
theorem send_balance (h : Books account policy loop s) (before : loop.phase = .sending rows)
    {outcome : Outcome} (once : outcome.settledIds.Nodup)
    (made : outcome = Outcome.ofExchanges policy.rules rows (inTurns (SendLoop.round policy s rows))) :
    account.events.Perm
      (rowsWith policy.rules .success (account.record (SendLoop.round policy s rows)).exchanges ++
        rowsWith policy.rules .wontRetry (account.record (SendLoop.round policy s rows)).exchanges ++
          (leftIds outcome.settledIds s.db).map account.name) := by
  have answered := SendLoop.round_settled_perm policy s rows
  have within := Outcome.settledIds_subperm policy.rules (SendLoop.round_requests policy s rows)
  rw [← made] at answered within
  have among : outcome.settledIds ⊆ s.db.rows.map (·.id) := by
    intro id hid
    obtain ⟨event, hevent, rfl⟩ := List.mem_map.1 (within.subset hid)
    exact h.kept_of_sending before event hevent
  simp only [Account.record, rowsWith_append, rowsWith_rename]
  -- Both sides are sums over the same lists, so it is enough to count each event.
  apply List.perm_iff_count.2
  intro event
  have whole := (h.balance_of_nil (settledIds_of_sending before)).count_eq event
  have part := ((leftIds_perm once among).map account.name).count_eq event
  have done := (answered.map account.name).count_eq event
  simp only [List.map_append, List.count_append] at whole part done ⊢
  omega

theorem send_reported (h : Books account policy loop s) (before : loop.phase = .sending rows)
    (status : DeliveryStatus) : (reportedIds status s.history).length +
      ((Outcome.ofExchanges policy.rules rows (inTurns (SendLoop.round policy s rows))).idsWith status).length =
      (rowsWith policy.rules status (account.record (SendLoop.round policy s rows)).exchanges).length := by
  have told := h.reported status
  rw [before] at told
  rw [Account.record, rowsWith_append, rowsWith_rename, List.length_append, List.length_map, ← told]
  exact congrArg _ (SendLoop.round_idsWith_length (h.batch rows before) status)

/-- What is sent has been in the queue, so it had no final answer before. -/
theorem send_closed (h : Books account policy loop s) (before : loop.phase = .sending rows) :
    Closed policy.rules (account.record (SendLoop.round policy s rows)).exchanges := by
  apply List.pairwise_append.2
  refine ⟨h.closed, ?_, ?_⟩
  · apply (List.nodup_flatMap.1 (h.round_names before)).2.imp
    intro earlier later apart _ event here there
    exact apart here there
  · intro earlier hearlier later hlater final event sent again
    obtain ⟨exchange, hexchange, rfl⟩ := List.mem_map.1 hlater
    obtain ⟨id, hid, rfl⟩ := List.mem_map.1 again
    obtain ⟨row, hrow, rfl⟩ := exists_of_mem_rowIds (SendLoop.round_requests policy s rows) hexchange hid
    have kept := List.mem_map_of_mem (f := account.name) (h.kept_of_sending before row hrow)
    exact h.unanswered (settledIds_of_sending before) kept hearlier final sent

theorem send_sent (h : Books account policy loop s) (before : loop.phase = .sending rows) :
    ∀ exchange ∈ (account.record (SendLoop.round policy s rows)).exchanges,
      exchange.request.rowIds.Nodup ∧ exchange.request.rowIds ⊆ account.events := by
  intro exchange hexchange
  rcases List.mem_append.1 hexchange with old | new
  · exact h.sent exchange old
  · refine ⟨(List.nodup_flatMap.1 (h.round_names before)).1 exchange new, ?_⟩
    obtain ⟨made, hmade, rfl⟩ := List.mem_map.1 new
    intro event hevent
    obtain ⟨id, hid, rfl⟩ := List.mem_map.1 hevent
    obtain ⟨row, hrow, rfl⟩ := exists_of_mem_rowIds (SendLoop.round_requests policy s rows) hmade hid
    apply (h.balance_of_nil (settledIds_of_sending before)).mem_iff.2
    exact List.mem_append_right _ (List.mem_map_of_mem (h.kept_of_sending before row hrow))

theorem send (h : Books account policy loop s) (before : loop.phase = .sending rows)
    (after : loop'.phase = .settling
      (Outcome.ofExchanges policy.rules rows (inTurns (SendLoop.round policy s rows))))
    (sound : loop'.Sound policy s.db) : Books (account.record (SendLoop.round policy s rows)) policy loop'
      (s.exchange (requestsFor policy.settings s.clock rows)).2 := by
  have history : (s.exchange (requestsFor policy.settings s.clock rows)).2.history =
      s.history ++ (SendLoop.round policy s rows).map (.exchanged s.elapsed ·) := rfl
  have once := sound.nodup
  rw [after] at once
  refine ⟨h.distinct, h.opened, h.named, ?_, sound, ?_, ?_, h.send_closed before, h.send_sent before⟩
  · intro rows sending
    rw [after] at sending
    cases sending
  · rw [after]
    exact h.send_balance before once rfl
  · intro status
    rw [history, reportedIds_append, reportedIds_exchanged, List.append_nil, after]
    exact h.send_reported before status

end Send

theorem settle (h : Books account policy loop s) (small : policy.settings.batchSize ≤ Database.maxParameters)
    (subscribed : policy.subscribed = DeliveryStatus.all) {outcome : Outcome}
    (before : loop.phase = .settling outcome) (after : loop'.phase.isQuiet) :
    Books account policy loop' (SendLoop.settle policy outcome s) := by
  have few := h.sound.few small
  rw [before] at few
  have deleted := SendLoop.settle_deletes policy h.opened few
  have same := SendLoop.settle_sameElse policy outcome s
  refine ⟨h.distinct, same.2.2.trans h.opened, ?_, ?_, SendLoop.sound_of_isQuiet after, ?_, ?_, h.closed,
    h.sent⟩
  · intro row hrow
    exact h.named row ((SendLoop.settle_rows_sublist policy outcome s).subset hrow)
  · intro rows sending
    rw [sending] at after
    cases after
  · have balance := h.balance
    rw [before] at balance
    rw [Phase.settledIds_of_isQuiet after, leftIds_nil, ← leftIds_delete deleted]
    exact balance
  · intro status
    have told := h.reported status
    rw [before] at told
    rw [← told, Phase.unreported_of_isQuiet after, SendLoop.settle, reportedIds_append, subscribed,
      reportedIds_notices, List.length_append]
    rfl

/-- Every step of a loop keeps its books, with what the step exchanges entered. -/
theorem step (h : Books account policy loop s) (small : policy.settings.batchSize ≤ Database.maxParameters)
    (subscribed : policy.subscribed = DeliveryStatus.all) {signals signals' : Signals} {s' : Surroundings}
    (step : loop.step policy signals s = some (loop', signals', s')) :
    ∃ more, s'.history = s.history ++ more ∧ Books (account.record (exchangesOf more)) policy loop' s' := by
  have sound := SendLoop.step_sound step h.sound
  obtain ⟨-, before, after, rfl⟩ | ⟨before, -, rfl, after⟩ | ⟨rows, before, -, rfl, after⟩ |
    ⟨outcome, before, -, rfl, after⟩ := SendLoop.step_cases step
  · refine ⟨[], (List.append_nil _).symm, ?_⟩
    rw [exchangesOf, List.filterMap_nil, Account.record_nil]
    exact h.quiet before after
  · rw [h.read_same] at sound ⊢
    refine ⟨[], (List.append_nil _).symm, ?_⟩
    rw [exchangesOf, List.filterMap_nil, Account.record_nil]
    exact h.read before after sound
  · refine ⟨_, rfl, ?_⟩
    rw [exchangesOf_exchanged]
    exact h.send before after sound
  · refine ⟨_, rfl, ?_⟩
    rw [exchangesOf_noticed, Account.record_nil]
    exact h.settle small subscribed before after

theorem add (h : Books account policy loop s) {payload : Payload} {db : Database}
    (added : s.db.add payload = .ok db) (named : (payload.get? Protocol.eventIdKey).isSome)
    (fresh : (account.events.length : Int) ∉ account.events) :
    Books (account.arrive (s.db.nextRow payload).id) policy loop { s with db } := by
  obtain ⟨opened, same, rows⟩ := Database.add_rows added
  have later : ∀ id ∈ s.db.rows.map (·.id), id ≠ (s.db.nextRow payload).id := by
    intro id hid
    obtain ⟨row, hrow, rfl⟩ := List.mem_map.1 hid
    exact Int.ne_of_lt (s.db.lt_nextRow payload hrow)
  have unsettled : (s.db.nextRow payload).id ∉ loop.phase.settledIds := by
    intro settled
    obtain ⟨row, hrow, same⟩ := h.sound.kept _ (loop.phase.settledIds_subset_stake settled)
    rw [Database.keptRows_of_isOpen opened] at hrow
    exact later _ (List.mem_map_of_mem hrow) same
  refine ⟨?_, same.2.2.trans opened, ?_, h.batch, ?_, ?_, h.reported, h.closed, ?_⟩
  · exact List.nodup_append.2 ⟨h.distinct, List.nodup_singleton _, by
      rintro event old _ new rfl
      exact fresh (List.mem_singleton.1 new ▸ old)⟩
  · intro row hrow
    rw [rows] at hrow
    rcases List.mem_append.1 hrow with old | new
    · exact h.named row old
    · rw [List.mem_singleton.1 new]
      exact ⟨payload, s.db.nextRow_payload? payload, named⟩
  · apply h.sound.mono
    intro row hrow
    rw [Database.keptRows_add added]
    exact List.mem_append_left _ hrow
  · have old : (leftIds loop.phase.settledIds s.db).map
        (Function.update account.name (s.db.nextRow payload).id account.events.length) =
          (leftIds loop.phase.settledIds s.db).map account.name := by
      apply List.map_congr_left
      intro id hid
      exact Function.update_of_ne (later id (mem_leftIds.1 hid).1) _ _
    have names : (leftIds loop.phase.settledIds db).map (account.arrive (s.db.nextRow payload).id).name =
        (leftIds loop.phase.settledIds s.db).map account.name ++ [(account.events.length : Int)] := by
      rw [leftIds_add added unsettled, List.map_append, ← old]
      simp [Account.arrive]
    rw [names, ← List.append_assoc]
    exact h.balance.append_right _
  · intro exchange hexchange
    obtain ⟨once, among⟩ := h.sent exchange hexchange
    exact ⟨once, List.Subset.trans among (List.subset_append_left _ _)⟩

theorem start (opened : s.db.isOpen) (named : ∀ row ∈ s.db.rows, row.IsNamed) (quiet : loop.phase.isQuiet)
    (fresh : s.history = []) {name : Int → Int} {events : List Int}
    (names : (s.db.rows.map (·.id)).map name = events) (distinct : events.Nodup) :
    Books ⟨events, name, []⟩ policy loop s where
  distinct := distinct
  opened := opened
  named := named
  batch rows sending := by
    rw [sending] at quiet
    cases quiet
  sound := SendLoop.sound_of_isQuiet quiet
  balance := by
    rw [Phase.settledIds_of_isQuiet quiet, leftIds_nil, names]
    exact .refl _
  reported status := by
    rw [Phase.unreported_of_isQuiet quiet, fresh]
    rfl
  closed := List.Pairwise.nil
  sent := nofun

theorem congr (h : Books account policy loop s) {s' : Surroundings} (same : s'.db.events = s.db.events)
    (history : s'.history = s.history) : Books account policy loop s' := by
  have rows : s'.db.rows = s.db.rows := Store.Database.rows_of_events same
  have opened : s'.db.isOpen := by
    rw [Database.isOpen, same]
    exact h.opened
  refine ⟨h.distinct, opened, rows ▸ h.named, h.batch, ?_, ?_, ?_, h.closed, h.sent⟩
  · apply h.sound.mono
    intro row hrow
    rwa [Database.keptRows_of_isOpen opened, rows, ← Database.keptRows_of_isOpen h.opened]
  · rw [leftIds, rows]
    exact h.balance
  · rw [history]
    exact h.reported

theorem rowsWith_subset (h : Books account policy loop s) {status : DeliveryStatus} :
    rowsWith policy.rules status account.exchanges ⊆ account.events := by
  intro event hevent
  obtain ⟨exchange, made, -, listed⟩ := mem_rowsWith.1 hevent
  exact (h.sent exchange made).2 listed

section Totals

variable (h : Books account policy loop s) (quiet : loop.phase.isQuiet)

include h quiet

theorem reportedIds_length (status : DeliveryStatus) : (reportedIds status s.history).length =
    (rowsWith policy.rules status account.exchanges).length := by
  rw [← h.reported status, Phase.unreported_of_isQuiet quiet]
  rfl

theorem total : (reportedIds .success s.history).length + (reportedIds .wontRetry s.history).length +
    s.db.rows.length = account.events.length := by
  have balance := (h.balance_of_nil (Phase.settledIds_of_isQuiet quiet)).length_eq
  rw [h.reportedIds_length quiet, h.reportedIds_length quiet, balance, List.length_append,
    List.length_append, List.length_map, List.length_map]

/-- The events that are done with are those whose last answer says so. -/
theorem reported_final {status : DeliveryStatus} (final : status ≠ .willRetry) :
    (reportedIds status s.history).length = account.events.countP fun event =>
      (lastExchange? account.exchanges event).bind (·.status? policy.rules) = some status := by
  have balance := h.balance_of_nil (Phase.settledIds_of_isQuiet quiet)
  have done := List.Nodup.of_append_left (balance.nodup_iff.1 h.distinct)
  have once : (rowsWith policy.rules status account.exchanges).Nodup := by
    cases status with
    | success => exact done.of_append_left
    | wontRetry => exact done.of_append_right
    | willRetry => exact absurd rfl final
  rw [h.reportedIds_length quiet, ← countP_mem once h.distinct h.rowsWith_subset]
  simp only [h.closed.lastExchange?_iff final]

theorem reported_success : (reportedIds .success s.history).length = account.events.countP fun event =>
    (lastExchange? account.exchanges event).any (·.answer.isSuccess) := by
  have final : DeliveryStatus.success ≠ .willRetry := nofun
  rw [h.reported_final quiet final]
  congr 1
  funext event
  rw [← Bool.coe_iff_coe, decide_eq_true_eq, Option.bind_eq_some_iff, Option.any_eq_true]
  simp only [Exchange.status?_eq_success_iff]

theorem reported_wontRetry : (reportedIds .wontRetry s.history).length = account.events.countP fun event =>
    (lastExchange? account.exchanges event).any fun exchange =>
      exchange.isFinal policy.rules && !exchange.answer.isSuccess := by
  have final : DeliveryStatus.wontRetry ≠ .willRetry := nofun
  rw [h.reported_final quiet final]
  congr 1
  funext event
  rw [← Bool.coe_iff_coe, decide_eq_true_eq, Option.bind_eq_some_iff, Option.any_eq_true]
  simp only [Exchange.status?_eq_wontRetry_iff, Bool.and_eq_true, Bool.not_eq_true']

theorem reported_willRetry : (reportedIds .willRetry s.history).length =
    (account.events.map (timesRefused policy.rules account.exchanges)).sum := by
  have once : ∀ exchange ∈ account.exchanges, exchange.request.rowIds.Nodup := by
    intro exchange made
    exact (h.sent exchange made).1
  have counts := funext (timesRefused_eq_count policy.rules once)
  rw [h.reportedIds_length quiet, ← sum_count h.distinct h.rowsWith_subset, counts]

end Totals

end Books

end Telemetry.Delivery

import Telemetry.Delivery.SendLoop
import Telemetry.Proofs.Delivery.Requests
import Telemetry.Proofs.Store.Queue

set_option autoImplicit false

namespace Telemetry.Delivery

open Store (Database EventRow)

def Phase.isQuiet : Phase → Bool
  | .sending _ => false
  | .settling _ => false
  | _ => true

/-- The rows that a loop may remove before it reads again. -/
def Phase.stake : Phase → List Int
  | .sending rows => rows.map (·.id)
  | .settling outcome => outcome.settledIds
  | _ => []

theorem Phase.stake_of_isQuiet {phase : Phase} (h : phase.isQuiet) : phase.stake = [] := by
  cases phase with
  | sending rows | settling outcome => cases h
  | _ => rfl

def exchangesOf (history : List Record) : List Exchange :=
  history.filterMap fun
    | .exchanged _ exchange => some exchange
    | .noticed _ => none

theorem exchangesOf_append (a b : List Record) :
    exchangesOf (a ++ b) = exchangesOf a ++ exchangesOf b :=
  List.filterMap_append ..

theorem exchangesOf_noticed (notices : List Notice) :
    exchangesOf (notices.map .noticed) = [] := by
  simp [exchangesOf, List.filterMap_map]

theorem exchangesOf_exchanged (time : Nat) (exchanges : List Exchange) :
    exchangesOf (exchanges.map (.exchanged time ·)) = exchanges := by
  simp [exchangesOf, List.filterMap_map]

/-- How many requests so far were refused for another attempt, or lost. -/
def Surroundings.retries (rules : RetryRules) (s : Surroundings) : Nat :=
  (exchangesOf s.history).countP fun exchange => !exchange.isFinal rules

def Policy.plain : Policy where
  settings :=
    { url := "http://collector.test/", method := .post, batchSize := 50, byteLimitGet := 52000
      byteLimitPost := 52000 }
  rules := RetryRules.empty
  subscribed := []

/-- Whether one statement can name all rows of any batch. -/
def Policy.Fits (policy : Policy) (db : Database) : Prop :=
  policy.settings.batchSize ≤ Database.maxParameters ∨ db.rows.length ≤ Database.maxParameters

/-- A collector that accepts everything, and delays as the emitter has them. -/
def Surroundings.plain (db : Database) : Surroundings where
  db := db
  answer _ := .status 200
  answered := 0
  delay := backOffMs
  elapsed := 0
  clock := 0
  history := []

namespace SendLoop

def afterRead (rows : List EventRow) : Phase := if rows = [] then .draining else .sending rows

def round (policy : Policy) (s : Surroundings) (rows : List EventRow) : List Exchange :=
  (s.exchange (requestsFor policy.settings s.clock rows)).1

theorem read_eq (policy : Policy) (s : Surroundings) :
    (read policy s).2 = { s with db := (s.db.batch policy.settings.batchSize).2 } := by
  unfold read
  split <;> simp_all

theorem read_trims (policy : Policy) (s : Surroundings) : s.db.Trims (read policy s).2.db := by
  rw [read_eq]
  exact s.db.batch_trims _

theorem read_answered (policy : Policy) (s : Surroundings) :
    Database.Answered (Database.rowLimit policy.settings.batchSize) (read policy s).2.db
      (read policy s).1 := by
  unfold read
  split
  · rename_i rows db h
    exact Database.batch_answered h
  · exact ⟨by simp, by simp, by simp⟩

theorem read_length_le {policy : Policy} (h : policy.settings.batchSize ≤ Database.maxParameters)
    (s : Surroundings) : (read policy s).1.length ≤ policy.settings.batchSize :=
  (read_answered policy s).length_le _ (Database.rowLimit_small h)

/-- A read that succeeds finds nothing only if nothing is left. -/
theorem read_empty {policy : Policy} {s : Surroundings} (hpos : 0 < policy.settings.batchSize)
    (hmax : policy.settings.batchSize ≤ maxWord) {rows : List EventRow}
    (well : (s.db.batch policy.settings.batchSize).1 = .ok rows) (none : (read policy s).1 = []) :
    (read policy s).2.db.keptRows = [] := by
  rcases found : s.db.batch policy.settings.batchSize with ⟨answer, db⟩
  rw [found] at well
  cases well
  have answered : read policy s = (rows, { s with db }) := by rw [read, found]
  rw [answered] at none ⊢
  cases none
  exact Database.keptRows_of_batch_empty hpos hmax found

theorem settle_db (policy : Policy) (outcome : Outcome) (s : Surroundings) :
    (settle policy outcome s).db = s.db ∨
      s.db.delete outcome.settledIds = .ok (settle policy outcome s).db := by
  cases deleted : s.db.delete outcome.settledIds with
  | error cause => exact .inl (by simp [settle, deleted])
  | ok db => exact .inr (by simp [settle, deleted])

theorem settle_deletes (policy : Policy) {outcome : Outcome} {s : Surroundings}
    (hopen : s.db.isOpen) (hlen : outcome.settledIds.length ≤ Database.maxParameters) :
    s.db.delete outcome.settledIds = .ok (settle policy outcome s).db := by
  obtain ⟨db, deleted⟩ := Database.delete_spec hopen hlen
  rw [deleted]
  simp [settle, deleted]

theorem round_requests (policy : Policy) (s : Surroundings) (rows : List EventRow) :
    (round policy s rows).map (·.request) = requestsFor policy.settings s.clock rows := by
  rw [round, Surroundings.exchange, List.map_map]
  exact List.zipIdx_map_fst 0 _

theorem round_answers (policy : Policy) (s : Surroundings) (rows : List EventRow) :
    ∀ exchange ∈ round policy s rows, ∃ n, exchange.answer = s.answer n := by
  intro exchange hexchange
  obtain ⟨⟨request, n⟩, -, rfl⟩ := List.mem_map.1 hexchange
  exact ⟨_, rfl⟩

theorem retries_exchange (policy : Policy) (s : Surroundings) (rows : List EventRow) :
    (s.exchange (requestsFor policy.settings s.clock rows)).2.retries policy.rules =
      s.retries policy.rules +
        (round policy s rows).countP fun exchange => !exchange.isFinal policy.rules := by
  simp only [Surroundings.retries, Surroundings.exchange, exchangesOf_append,
    exchangesOf_exchanged, List.countP_append]
  rfl

theorem retries_settle (policy : Policy) (outcome : Outcome) (s : Surroundings)
    (rules : RetryRules) : (settle policy outcome s).retries rules = s.retries rules := by
  simp [Surroundings.retries, settle, exchangesOf_append, exchangesOf_noticed]

/-- A round settles some row, or leaves some request for another attempt. -/
theorem round_progress (policy : Policy) (s : Surroundings) {rows : List EventRow}
    (filled : rows ≠ []) :
    0 < (Outcome.ofExchanges policy.rules rows (inTurns (round policy s rows))).settledIds.length ∨
      0 < (round policy s rows).countP fun exchange => !exchange.isFinal policy.rules := by
  have requests := round_requests policy s rows
  obtain ⟨exchange, hexchange⟩ : ∃ exchange, exchange ∈ round policy s rows := by
    refine List.exists_mem_of_ne_nil _ fun none => requestsFor_ne_nil policy.settings s.clock filled ?_
    rw [← requests, none]
    rfl
  by_cases final : exchange.isFinal policy.rules
  · have request : exchange.request ∈ requestsFor policy.settings s.clock rows :=
      requests ▸ List.mem_map_of_mem hexchange
    obtain ⟨id, hid⟩ := List.exists_mem_of_ne_nil _
      (requestsFor_rowIds_ne_nil policy.settings s.clock rows _ request)
    exact .inl (List.length_pos_of_mem
      (Outcome.mem_settledIds.2 ⟨exchange, hexchange, final, hid⟩))
  · exact .inr (List.countP_pos_iff.2 ⟨exchange, hexchange, by simpa using final⟩)

/-- All steps of a loop: what it is about to do, on what condition, and what it has done. -/
inductive Steps (policy : Policy) (loop : SendLoop) (signals : Signals) (s : Surroundings) :
    SendLoop → Signals → Surroundings → Prop where
  | proceed (phase : loop.phase = .checking) (running : signals.running = true) :
      Steps policy loop signals s { loop with phase := .reading } signals s
  | finish (phase : loop.phase = .checking) (running : signals.running = false) :
      Steps policy loop signals s { loop with phase := .ended } signals s
  | findNothing (phase : loop.phase = .reading) (none : (read policy s).1 = []) :
      Steps policy loop signals s { loop with phase := .draining } signals (read policy s).2
  | fetch (phase : loop.phase = .reading) (some : (read policy s).1 ≠ []) :
      Steps policy loop signals s { loop with phase := .sending (read policy s).1 } signals
        (read policy s).2
  | report (phase : loop.phase = .draining) :
      Steps policy loop signals s { loop with phase := .pausing }
        { signals with drains := signals.drains + 1 } s
  | stayUp (phase : loop.phase = .pausing) (wake : signals.pendingWake = true) :
      Steps policy loop signals s { loop with phase := .checking }
        { signals with pendingWake := false } s
  | rest (phase : loop.phase = .pausing) (wake : signals.pendingWake = false) :
      Steps policy loop signals s { loop with phase := .resting (s.elapsed + restMs) } signals s
  | rise (deadline : Nat) (phase : loop.phase = .resting deadline) (due : deadline ≤ s.elapsed) :
      Steps policy loop signals s { loop with phase := .checking } signals s
  | send (rows : List EventRow) (phase : loop.phase = .sending rows) :
      Steps policy loop signals s
        ⟨.settling (Outcome.ofExchanges policy.rules rows (inTurns (round policy s rows))),
          loop.failures⟩
        signals (s.exchange (requestsFor policy.settings s.clock rows)).2
  | settle (outcome : Outcome) (failures : Nat) (next : Phase)
      (phase : loop.phase = .settling outcome)
      (going : next = .checking ∨ ∃ deadline, next = .delaying deadline) :
      Steps policy loop signals s ⟨next, failures⟩ signals (settle policy outcome s)
  | delayOver (deadline : Nat) (phase : loop.phase = .delaying deadline)
      (due : deadline ≤ s.elapsed) :
      Steps policy loop signals s { loop with phase := .checking } signals s
  | delayWoken (deadline : Nat) (phase : loop.phase = .delaying deadline)
      (due : s.elapsed < deadline) (wake : signals.pendingWake = true) :
      Steps policy loop signals s { loop with phase := .interrupted deadline }
        { signals with pendingWake := false } s
  | backOff (deadline : Nat) (phase : loop.phase = .delaying deadline) (due : s.elapsed < deadline)
      (wake : signals.pendingWake = false) :
      Steps policy loop signals s { loop with phase := .backingOff deadline } signals s
  | backOffOver (deadline : Nat) (phase : loop.phase = .backingOff deadline)
      (due : deadline ≤ s.elapsed) :
      Steps policy loop signals s { loop with phase := .checking } signals s
  | delayAgain (deadline : Nat) (phase : loop.phase = .interrupted deadline)
      (running : signals.running = true) :
      Steps policy loop signals s { loop with phase := .delaying deadline } signals s
  | delayCut (deadline : Nat) (phase : loop.phase = .interrupted deadline)
      (running : signals.running = false) :
      Steps policy loop signals s { loop with phase := .checking } signals s

section Cases

variable {policy : Policy} {loop loop' : SendLoop} {signals signals' : Signals}
  {s s' : Surroundings}

theorem steps_of_step (h : loop.step policy signals s = some (loop', signals', s')) :
    Steps policy loop signals s loop' signals' s' := by
  unfold step at h
  cases phase : loop.phase with
  | checking =>
    simp only [phase] at h
    cases h
    cases running : signals.running with
    | true => exact .proceed phase running
    | false => exact .finish phase running
  | reading =>
    simp only [phase] at h
    rcases found : read policy s with ⟨rows, after⟩
    rw [found] at h
    cases rows with
    | nil =>
      cases h
      have drained : Steps policy loop signals s _ _ _ :=
        .findNothing phase (congrArg Prod.fst found)
      rwa [found] at drained
    | cons row rest =>
      cases h
      have some : (read policy s).1 ≠ [] := by
        rw [found]
        exact List.cons_ne_nil row rest
      have fetched : Steps policy loop signals s _ _ _ := .fetch phase some
      rwa [found] at fetched
  | draining =>
    simp only [phase] at h
    cases h
    exact .report phase
  | pausing =>
    simp only [phase] at h
    split_ifs at h with wake <;> cases h
    · exact .stayUp phase wake
    · exact .rest phase (Bool.eq_false_iff.2 wake)
  | resting deadline =>
    simp only [phase] at h
    split_ifs at h with due
    cases h
    exact .rise deadline phase due
  | sending rows =>
    simp only [phase] at h
    cases h
    exact .send rows phase
  | settling outcome =>
    simp only [phase] at h
    cases h
    refine .settle outcome _ _ phase ?_
    by_cases none : s.delay (if outcome.retries then loop.failures + 1 else 0) = 0
    · exact .inl (if_pos none)
    · exact .inr ⟨_, if_neg none⟩
  | delaying deadline =>
    simp only [phase] at h
    split_ifs at h with due wake <;> cases h
    · exact .delayOver deadline phase due
    · exact .delayWoken deadline phase (Nat.lt_of_not_le due) wake
    · exact .backOff deadline phase (Nat.lt_of_not_le due) (Bool.eq_false_iff.2 wake)
  | backingOff deadline =>
    simp only [phase] at h
    split_ifs at h with due
    cases h
    exact .backOffOver deadline phase due
  | interrupted deadline =>
    simp only [phase] at h
    cases h
    cases running : signals.running with
    | true => exact .delayAgain deadline phase running
    | false => exact .delayCut deadline phase running
  | ended =>
    simp only [phase] at h
    cases h

/-- What a step comes to for the rows: it leaves them alone, reads, sends or settles. -/
theorem step_cases (h : loop.step policy signals s = some (loop', signals', s')) :
    (loop.phase ≠ .reading ∧ loop.phase.isQuiet ∧ loop'.phase.isQuiet ∧ s' = s) ∨
    (loop.phase = .reading ∧ signals' = signals ∧ s' = (read policy s).2 ∧
      loop'.phase = afterRead (read policy s).1) ∨
    (∃ rows, loop.phase = .sending rows ∧ signals' = signals ∧
      s' = (s.exchange (requestsFor policy.settings s.clock rows)).2 ∧
      loop'.phase =
        .settling (Outcome.ofExchanges policy.rules rows (inTurns (round policy s rows)))) ∨
    (∃ outcome, loop.phase = .settling outcome ∧ signals' = signals ∧
      s' = settle policy outcome s ∧ loop'.phase.isQuiet) := by
  cases steps_of_step h with
  | findNothing phase none => exact .inr (.inl ⟨phase, rfl, rfl, (if_pos none).symm⟩)
  | fetch phase some => exact .inr (.inl ⟨phase, rfl, rfl, (if_neg some).symm⟩)
  | send rows phase => exact .inr (.inr (.inl ⟨rows, phase, rfl, rfl, rfl⟩))
  | settle outcome failures next phase going =>
    refine .inr (.inr (.inr ⟨outcome, phase, rfl, rfl, ?_⟩))
    obtain rfl | ⟨deadline, rfl⟩ := going <;> rfl
  | proceed phase | finish phase | report phase | stayUp phase | rest phase | rise _ phase
  | delayOver _ phase | delayWoken _ phase | backOff _ phase | backOffOver _ phase
  | delayAgain _ phase | delayCut _ phase => exact .inl ⟨by simp [phase], by rw [phase]; rfl, rfl, rfl⟩

theorem step_running (h : loop.step policy signals s = some (loop', signals', s')) :
    signals'.running = signals.running := by
  cases steps_of_step h <;> rfl

theorem step_ended (h : loop.step policy signals s = some (loop', signals', s'))
    (ended : loop'.phase = .ended) : signals.running = false := by
  cases steps_of_step h with
  | finish phase running => exact running
  | settle outcome failures next phase going =>
    obtain rfl | ⟨deadline, rfl⟩ := going <;> cases ended
  | _ => cases ended

theorem step_not_ended (h : loop.step policy signals s = some (loop', signals', s')) :
    loop.phase ≠ .ended := by
  intro ended
  simp only [step, ended] at h
  cases h

theorem step_drains (h : loop.step policy signals s = some (loop', signals', s'))
    (calm : loop.phase ≠ .draining) : signals'.drains = signals.drains := by
  cases steps_of_step h with
  | report phase => exact absurd phase calm
  | _ => rfl

theorem step_report (h : loop.step policy signals s = some (loop', signals', s'))
    (draining : loop.phase = .draining) : signals'.drains = signals.drains + 1 := by
  simp only [step, draining, Option.some.injEq, Prod.mk.injEq] at h
  obtain ⟨-, rfl, -⟩ := h
  rfl

theorem step_draining (h : loop.step policy signals s = some (loop', signals', s'))
    (draining : loop'.phase = .draining) :
    loop.phase = .reading ∧ (read policy s).1 = [] ∧ s' = (read policy s).2 := by
  cases steps_of_step h with
  | findNothing phase none => exact ⟨phase, none, rfl⟩
  | settle outcome failures next phase going =>
    obtain rfl | ⟨deadline, rfl⟩ := going <;> cases draining
  | _ => cases draining

theorem settle_sameElse (policy : Policy) (outcome : Outcome) (s : Surroundings) :
    s.db.SameElse (settle policy outcome s).db := by
  rcases settle_db policy outcome s with same | deleted
  · rw [same]
    exact .refl _
  · exact (Database.delete_rows deleted).1

theorem step_sameElse (h : loop.step policy signals s = some (loop', signals', s')) :
    s.db.SameElse s'.db := by
  obtain ⟨-, -, -, rfl⟩ | ⟨-, -, rfl, -⟩ | ⟨rows, -, -, rfl, -⟩ | ⟨outcome, -, -, rfl, -⟩ :=
    step_cases h
  · exact .refl _
  · exact (read_trims policy s).same
  · exact .refl _
  · exact settle_sameElse policy outcome s

theorem settle_rows_sublist (policy : Policy) (outcome : Outcome) (s : Surroundings) :
    (settle policy outcome s).db.rows.Sublist s.db.rows := by
  rcases settle_db policy outcome s with same | deleted
  · rw [same]
  · exact (Database.delete_rows deleted).2 ▸ List.filter_sublist

theorem step_rows_sublist (h : loop.step policy signals s = some (loop', signals', s')) :
    s'.db.rows.Sublist s.db.rows := by
  obtain ⟨-, -, -, rfl⟩ | ⟨-, -, rfl, -⟩ | ⟨rows, -, -, rfl, -⟩ | ⟨outcome, -, -, rfl, -⟩ :=
    step_cases h
  · exact .refl _
  · exact (read_trims policy s).sublist
  · exact .refl _
  · exact settle_rows_sublist policy outcome s

/-- What a loop may remove is there to be removed, each row once and all in one statement. -/
structure Sound (policy : Policy) (db : Database) (loop : SendLoop) : Prop where
  nodup : loop.phase.stake.Nodup
  kept : ∀ id ∈ loop.phase.stake, ∃ row ∈ db.keptRows, row.id = id
  filled : ∀ rows, loop.phase = .sending rows → rows ≠ []
  few : policy.settings.batchSize ≤ Database.maxParameters →
    loop.phase.stake.length ≤ Database.maxParameters

theorem sound_of_isQuiet {db : Database} (h : loop.phase.isQuiet) : loop.Sound policy db where
  nodup := by
    rw [Phase.stake_of_isQuiet h]
    exact List.nodup_nil
  kept := by
    rw [Phase.stake_of_isQuiet h]
    exact nofun
  filled rows phase := by
    rw [phase] at h
    cases h
  few _ := by
    rw [Phase.stake_of_isQuiet h]
    exact Nat.zero_le _

theorem Sound.mono {a b : Database} (h : loop.Sound policy a)
    (more : ∀ row ∈ a.keptRows, row ∈ b.keptRows) : loop.Sound policy b where
  nodup := h.nodup
  kept id hid := by
    obtain ⟨row, hrow, same⟩ := h.kept id hid
    exact ⟨row, more row hrow, same⟩
  filled := h.filled
  few := h.few

theorem step_sound (h : loop.step policy signals s = some (loop', signals', s'))
    (sound : loop.Sound policy s.db) : loop'.Sound policy s'.db := by
  obtain ⟨-, -, quiet, -⟩ | ⟨-, -, rfl, phase⟩ | ⟨rows, before, -, rfl, phase⟩ |
    ⟨outcome, -, -, -, quiet⟩ := step_cases h
  · exact sound_of_isQuiet quiet
  · have answered := read_answered policy s
    unfold afterRead at phase
    split_ifs at phase with none
    · exact sound_of_isQuiet (by rw [phase]; rfl)
    · have stake : loop'.phase.stake = (read policy s).1.map (·.id) := by rw [phase]; rfl
      refine ⟨stake ▸ answered.nodup, fun id hid => ?_, fun rows sending => ?_, fun small => ?_⟩
      · obtain ⟨event, hevent, rfl⟩ := List.mem_map.1 (stake ▸ hid)
        obtain ⟨row, hrow, hid, -⟩ := answered.stored event hevent
        exact ⟨row, Database.keptRows_of_isOpen (Database.isOpen_of_mem_rows hrow) ▸ hrow, hid⟩
      · cases phase.symm.trans sending
        exact none
      · rw [stake, List.length_map]
        exact Nat.le_trans (read_length_le small s) small
  · have stake : loop.phase.stake = rows.map (·.id) := by rw [before]; rfl
    have settled := Outcome.settledIds_subperm policy.rules (round_requests policy s rows)
    have stake' : loop'.phase.stake =
        (Outcome.ofExchanges policy.rules rows (inTurns (round policy s rows))).settledIds := by
      rw [phase]
      rfl
    rw [← stake, ← stake'] at settled
    refine ⟨?_, fun id hid => sound.kept id (settled.subset hid), fun rows sending => ?_,
      fun small => Nat.le_trans settled.length_le (sound.few small)⟩
    · obtain ⟨ids, perm, sub⟩ := settled
      exact perm.nodup_iff.1 (sub.nodup sound.nodup)
    · rw [phase] at sending
      cases sending
  · exact sound_of_isQuiet quiet

end Cases

end SendLoop

end Telemetry.Delivery

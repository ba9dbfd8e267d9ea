import Telemetry.Proofs.Delivery.LoopSteps

set_option autoImplicit false

/-!
What a loop uses up. Rows that are not settled yet and attempts that may still fail make up a potential that
every round lowers, and between two rounds a loop goes through few steps.
-/

namespace Telemetry.Delivery

open Store (Database EventRow)

namespace Phase

def isSending : Phase → Bool
  | .sending _ => true
  | _ => false

def pending : Phase → Nat
  | .settling outcome => outcome.settledIds.length
  | _ => 0

def rank (wake : Bool) : Phase → Nat
  | .checking => 2
  | .reading => 1
  | .pausing => 4
  | .resting _ => 3
  | .settling _ => 8
  | .delaying _ => if wake then 6 else 4
  | .backingOff _ => 3
  | .interrupted _ => if wake then 7 else 5
  | .draining => 0
  | .sending _ => 0
  | .ended => 0

def endRank : Phase → Nat
  | .reading => 6
  | .sending _ => 5
  | .settling _ => 4
  | .draining => 4
  | .pausing => 3
  | .delaying _ => 3
  | .resting _ => 2
  | .backingOff _ => 2
  | .interrupted _ => 2
  | .checking => 1
  | .ended => 0

theorem pending_of_isQuiet {phase : Phase} (h : phase.isQuiet) : phase.pending = 0 := by
  cases phase with
  | settling outcome => cases h
  | _ => rfl

theorem isSending_of_isQuiet {phase : Phase} (h : phase.isQuiet) : phase.isSending = false := by
  cases phase with
  | sending rows => cases h
  | _ => rfl

end Phase

def Surroundings.failures (s : Surroundings) : Nat :=
  (List.range s.answered).countP fun n => !(s.answer n).isSuccess

namespace SendLoop

def potential (rules : RetryRules) (budget : Nat) (phase : Phase) (s : Surroundings) : Nat :=
  s.db.rows.length - phase.pending + (budget - s.retries rules)

variable {policy : Policy} {loop loop' : SendLoop} {signals signals' : Signals}
  {s s' : Surroundings} {budget : Nat}

theorem Sound.length_le (sound : loop.Sound policy s.db) (opened : s.db.isOpen) :
    loop.phase.stake.length ≤ s.db.rows.length := by
  have inside : loop.phase.stake ⊆ s.db.rows.map (·.id) := by
    intro id hid
    obtain ⟨row, hrow, same⟩ := sound.kept id hid
    exact List.mem_map.2 ⟨row, Database.keptRows_of_isOpen opened ▸ hrow, same⟩
  simpa using (sound.nodup.subperm inside).length_le

theorem Sound.stake_le (sound : loop.Sound policy s.db) (opened : s.db.isOpen)
    (fits : policy.Fits s.db) : loop.phase.stake.length ≤ Database.maxParameters :=
  fits.elim sound.few fun short => Nat.le_trans (sound.length_le opened) short

/-- A step never raises the potential, and a round lowers it. -/
theorem step_potential (h : loop.step policy signals s = some (loop', signals', s'))
    (sound : loop.Sound policy s.db) (opened : s.db.isOpen)
    (fits : policy.Fits s.db)
    (within : s'.retries policy.rules ≤ budget) :
    potential policy.rules budget loop'.phase s' + loop.phase.isSending.toNat ≤
      potential policy.rules budget loop.phase s := by
  unfold potential
  obtain ⟨-, quiet, quiet', rfl⟩ | ⟨reading, -, rfl, phase⟩ | ⟨rows, sending, -, rfl, phase⟩ |
    ⟨outcome, settling, -, rfl, quiet'⟩ := step_cases h
  · rw [Phase.pending_of_isQuiet quiet, Phase.pending_of_isQuiet quiet',
      Phase.isSending_of_isQuiet quiet]
    exact Nat.le_refl _
  · have fewer := (read_trims policy s).sublist.length_le
    have same : (read policy s).2.retries policy.rules = s.retries policy.rules := by
      rw [read_eq]
      rfl
    have none : loop'.phase.pending = 0 := by
      rw [phase, afterRead]
      split_ifs <;> rfl
    rw [same, none, reading]
    simp only [Phase.pending, Phase.isSending, Bool.toNat_false]
    omega
  · have progress := round_progress policy s (sound.filled rows sending)
    have length := (step_sound h sound).length_le opened
    rw [phase] at length
    rw [retries_exchange] at within ⊢
    rw [phase, sending]
    simp only [Phase.pending, Phase.isSending, Phase.stake, Bool.toNat_true] at length ⊢
    change _ ≤ s.db.rows.length at length
    change s.db.rows.length - _ + _ + 1 ≤ _
    omega
  · have few := sound.stake_le opened fits
    have nodup := sound.nodup
    have kept := sound.kept
    rw [settling] at few nodup kept
    have removed := Database.length_delete (settle_deletes policy opened few) nodup
      (Database.keptRows_of_isOpen opened ▸ kept)
    rw [Phase.pending_of_isQuiet quiet', settling, retries_settle]
    simp only [Phase.pending, Phase.isSending, Bool.toNat_false] at removed ⊢
    omega

/-- Until a loop reports an empty queue, it comes closer to the next round with every step. -/
theorem step_rank_lt (h : loop.step policy signals s = some (loop', signals', s'))
    (calm : loop.phase ≠ .draining) :
    loop'.phase.rank signals'.pendingWake <
      loop.phase.rank signals.pendingWake + loop.phase.isSending.toNat * 9 := by
  cases steps_of_step h with
  | report phase => exact absurd phase calm
  | settle outcome failures next phase going =>
    simp only [phase, Phase.rank, Phase.isSending, Bool.toNat_false]
    obtain rfl | ⟨deadline, rfl⟩ := going
    · dsimp only
      omega
    · dsimp only
      split_ifs <;> omega
  | stayUp phase wake | rest phase wake | delayWoken _ phase _ wake | backOff _ phase _ wake =>
    simp only [phase, wake, Phase.rank, Phase.isSending, Bool.toNat_false, if_true,
      Bool.false_eq_true, if_false]
    omega
  | send _ phase | proceed phase | finish phase | findNothing phase | fetch phase | rise _ phase
  | backOffOver _ phase =>
    simp only [phase, Phase.rank, Phase.isSending, Bool.toNat_false, Bool.toNat_true]
    omega
  | delayOver _ phase | delayAgain _ phase | delayCut _ phase =>
    simp only [phase, Phase.rank, Phase.isSending, Bool.toNat_false]
    split_ifs <;> omega

/-- With a round that lowers the potential it uses something up with every step. -/
theorem step_rank (h : loop.step policy signals s = some (loop', signals', s'))
    (calm : loop.phase ≠ .draining)
    (potential_le : potential policy.rules budget loop'.phase s' + loop.phase.isSending.toNat ≤
      potential policy.rules budget loop.phase s) :
    potential policy.rules budget loop'.phase s' * 9 + loop'.phase.rank signals'.pendingWake <
      potential policy.rules budget loop.phase s * 9 + loop.phase.rank signals.pendingWake := by
  have closer := step_rank_lt h calm
  omega

/-- Once a loop is asked to end, it comes closer to its end with every step. -/
theorem step_endRank (h : loop.step policy signals s = some (loop', signals', s'))
    (stopped : signals.running = false) : loop'.phase.endRank < loop.phase.endRank := by
  cases steps_of_step h with
  | proceed _ running | delayAgain _ _ running =>
    rw [stopped] at running
    cases running
  | settle outcome failures next phase going =>
    obtain rfl | ⟨deadline, rfl⟩ := going <;> simp only [phase, Phase.endRank] <;> omega
  | finish phase | findNothing phase | fetch phase | report phase | stayUp phase | rest phase
  | rise _ phase | send _ phase | delayOver _ phase | delayWoken _ phase | backOff _ phase
  | backOffOver _ phase | delayCut _ phase =>
    simp only [phase, Phase.endRank]
    omega

theorem round_answer_eq (policy : Policy) (s : Surroundings) (rows : List EventRow) :
    (round policy s rows).map (·.answer) =
      (List.range (requestsFor policy.settings s.clock rows).length).map fun i =>
        s.answer (s.answered + i) := by
  rw [List.range_eq_range', ← List.zipIdx_map_snd 0, List.map_map, round, Surroundings.exchange,
    List.map_map]
  rfl

/-- Whatever a round leaves to try again was answered without success. -/
theorem round_failures (policy : Policy) (s : Surroundings) (rows : List EventRow) :
    s.failures + (round policy s rows).countP (fun exchange => !exchange.isFinal policy.rules) ≤
      (s.exchange (requestsFor policy.settings s.clock rows)).2.failures := by
  have refused : (round policy s rows).countP (fun exchange => !exchange.isFinal policy.rules) ≤
      (round policy s rows).countP fun exchange => !exchange.answer.isSuccess := by
    refine List.countP_mono_left fun exchange _ retried => ?_
    cases success : exchange.answer.isSuccess with
    | true => simp [Exchange.isFinal_of_isSuccess policy.rules success] at retried
    | false => rfl
  have answers := congrArg (List.countP fun answer : Answer => !answer.isSuccess)
    (round_answer_eq policy s rows)
  rw [List.countP_map, List.countP_map] at answers
  rw [Surroundings.failures, Surroundings.failures, Surroundings.exchange, List.range_add,
    List.countP_append, List.countP_map]
  exact Nat.add_le_add_left (Nat.le_trans refused (Nat.le_of_eq answers)) _

/-- Only answers that are no success leave something to try again. -/
theorem step_retries_le (h : loop.step policy signals s = some (loop', signals', s')) :
    s'.retries policy.rules + s.failures ≤ s.retries policy.rules + s'.failures := by
  obtain ⟨-, -, -, rfl⟩ | ⟨-, -, rfl, -⟩ | ⟨rows, -, -, rfl, -⟩ | ⟨outcome, -, -, rfl, -⟩ :=
    step_cases h
  · exact Nat.le_refl _
  · rw [read_eq]
    exact Nat.le_refl _
  · have refused := round_failures policy s rows
    rw [retries_exchange]
    omega
  · rw [retries_settle]
    exact Nat.le_refl _

theorem step_answer (h : loop.step policy signals s = some (loop', signals', s')) :
    s'.answer = s.answer := by
  obtain ⟨-, -, -, rfl⟩ | ⟨-, -, rfl, -⟩ | ⟨rows, -, -, rfl, -⟩ | ⟨outcome, -, -, rfl, -⟩ :=
    step_cases h
  · rfl
  · rw [read_eq]
  · rfl
  · rfl

/-- Only a parked loop has to wait, and only until its time. -/
theorem step_isSome (living : loop.phase ≠ .ended)
    (due : ∀ deadline, loop.deadline? = some deadline → deadline ≤ s.elapsed) :
    (loop.step policy signals s).isSome := by
  unfold step
  unfold deadline? at due
  cases phase : loop.phase with
  | reading =>
    dsimp only
    split <;> rfl
  | resting deadline | backingOff deadline =>
    rw [phase] at due
    simp [due deadline rfl]
  | pausing | delaying deadline =>
    dsimp only
    split_ifs <;> rfl
  | ended => exact absurd phase living
  | _ => rfl

end SendLoop

end Telemetry.Delivery

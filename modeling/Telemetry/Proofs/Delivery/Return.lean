import Mathlib.Order.OrderIsoNat
import Telemetry.Proofs.Delivery.Drain
import Telemetry.Proofs.Delivery.Flush

set_option autoImplicit false

/-!
A flush returns. Under a fair schedule its caller moves on until it waits, and then the loop that it waits for
uses something up with every step until it reports or ends.
-/

namespace Telemetry.Delivery

open Store (Database)

def Stage.rank : Stage → Nat
  | .starting => 9
  | .registering => 8
  | .waking _ => 7
  | .awaiting _ => 6
  | .clearing => 5
  | .signalling => 4
  | .taking => 3
  | .joining _ => 2
  | .reporting => 1
  | .done => 0

namespace Stage

inductive Waits (stage : Stage) (emitter : Emitter) : Prop
  | done (stands : stage = .done)
  | report (ticket : Nat) (stands : stage = .awaiting ticket)
    (unheard : emitter.signals.drains ≤ ticket)
  | ending (place : Nat) (stands : stage = .joining (some place))
    (living : emitter.hasEnded place = false)

variable {stage caller : Stage} {emitter after : Emitter}

theorem step_rank {hasRuntime : Bool}
    (h : stage.step hasRuntime emitter = some (.ok (caller, after))) : caller.rank < stage.rank := by
  cases steps_of_step h with
  | start _ stands | register stands | wake _ stands | hear _ stands | clear stands | signal stands
  | take stands | join _ stands | report stands =>
    rw [stands]
    exact Nat.lt_succ_self _

/-- With a runtime nothing but a report or the end of a loop is waited for. -/
theorem waits_of_step
    (h : ∀ caller after, stage.step true emitter ≠ some (.ok (caller, after))) :
    stage.Waits emitter := by
  cases stage with
  | starting =>
    cases started : emitter.start true with
    | ok after => exact absurd (by rw [step, started]; rfl) (h .registering after)
    | error cause =>
      unfold Emitter.start at started
      split_ifs at started with running runtime
      exact absurd rfl runtime
  | awaiting ticket =>
    refine .report ticket rfl (Nat.le_of_not_lt fun reported => h .clearing emitter ?_)
    rw [step, if_pos reported]
  | joining worker =>
    cases worker with
    | none => exact absurd rfl (h .reporting emitter)
    | some place =>
      refine .ending place rfl (Bool.eq_false_iff.2 fun ended => h .reporting emitter ?_)
      rw [step, if_pos ended]
  | done => exact .done rfl
  | _ => exact absurd rfl (h _ _)

end Stage

namespace Scene

def along (scene : Scene) (turns : Nat → Turn) : Nat → Scene
  | 0 => scene
  | k + 1 => (scene.along turns k).take (turns k)

def phaseAt (place : Nat) (scene : Scene) : Phase :=
  (scene.emitter.loops[place]?).elim .ended (·.phase)

def sends (scene : Scene) : Turn → Bool
  | .loop place => (scene.phaseAt place).isSending
  | _ => false

/-- How many rounds are made in a number of turns. -/
def rounds (scene : Scene) (turns : Nat → Turn) : Nat → Nat
  | 0 => 0
  | k + 1 => scene.rounds turns k + ((scene.along turns k).sends (turns k)).toNat

/-- How many requests were refused for another attempt, or lost. -/
def retries (scene : Scene) : Nat := scene.surroundings.retries scene.emitter.policy.rules

def potential (place budget : Nat) (scene : Scene) : Nat :=
  SendLoop.potential scene.emitter.policy.rules budget (scene.phaseAt place) scene.surroundings

/-- Everyone gets a turn again and again, and time goes on. -/
structure Fair (turns : Nat → Turn) : Prop where
  caller : ∀ k, ∃ m, k ≤ m ∧ turns m = .caller true
  loop : ∀ place k, ∃ m, k ≤ m ∧ turns m = .loop place
  time : ∀ k, ∃ m ms, k ≤ m ∧ turns m = .pass (ms + 1)

variable {scene : Scene} {place budget : Nat} {turns : Nat → Turn}

theorem phaseAt_of_some {loop : SendLoop} (h : scene.emitter.loops[place]? = some loop) :
    scene.phaseAt place = loop.phase := by
  rw [phaseAt, h]
  rfl

theorem phaseAt_set {loop : SendLoop} (h : scene.emitter.loops[place]? = some loop)
    (loop' : SendLoop) (signals : Signals) (s : Surroundings) :
    phaseAt place { scene with
      emitter := { scene.emitter with signals, loops := scene.emitter.loops.set place loop' }
      surroundings := s } = loop'.phase :=
  phaseAt_of_some (List.getElem?_set_self (List.getElem?_eq_some_iff.1 h).1)

/-- A step of a caller leaves a loop alone, wakes it or starts it. -/
theorem phaseAt_caller (place : Nat) {stage : Stage} {hasRuntime : Bool} {caller : Stage}
    {emitter : Emitter}
    (step : stage.step hasRuntime scene.emitter = some (.ok (caller, emitter))) :
    phaseAt place { scene with caller, emitter } = scene.phaseAt place ∨
      (scene.phaseAt place).isQuiet ∧ (phaseAt place { scene with caller, emitter }).isQuiet := by
  obtain same | ⟨loop, hloop, parked, woken⟩ | ⟨-, -, rfl, new⟩ := Stage.step_getElem? step place
  · exact .inl (by rw [phaseAt, phaseAt, same])
  · rw [phaseAt_of_some hloop, phaseAt_of_some (by exact woken)]
    exact .inr ⟨SendLoop.isQuiet_of_isParked parked, (SendLoop.woken_phase parked).2.1⟩
  · rw [phaseAt_of_some (by exact new), phaseAt, List.getElem?_eq_none (Nat.le_refl _)]
    exact .inr ⟨rfl, rfl⟩

theorem Flushing.along (h : scene.Flushing place) (own : ∀ k, (turns k).isOwn) (k : Nat) :
    (scene.along turns k).Flushing place := by
  induction k with
  | zero => exact h
  | succ k ih => exact ih.take (own k)

theorem Truthful.along (h : scene.Truthful) (flushing : scene.Flushing place)
    (own : ∀ k, (turns k).isOwn) (k : Nat) : (scene.along turns k).Truthful := by
  induction k with
  | zero => exact h
  | succ k ih => exact ih.take (flushing.along own k) (own k)

theorem pending_phaseAt_caller {stage : Stage} {hasRuntime : Bool} {caller : Stage} {emitter : Emitter}
    (step : stage.step hasRuntime scene.emitter = some (.ok (caller, emitter))) :
    (phaseAt place { scene with caller, emitter }).pending = (scene.phaseAt place).pending := by
  obtain same | ⟨quiet, quiet'⟩ := phaseAt_caller place step
  · rw [same]
  · rw [Phase.pending_of_isQuiet quiet, Phase.pending_of_isQuiet quiet']

theorem sends_of_stepLoop_none (h : scene.emitter.stepLoop place scene.surroundings = none) :
    scene.sends (.loop place) = false := by
  rw [sends]
  cases hloop : scene.emitter.loops[place]? with
  | none =>
    rw [phaseAt, hloop]
    rfl
  | some loop =>
    rw [phaseAt_of_some hloop]
    cases phase : loop.phase with
    | sending rows => simp [Emitter.stepLoop, hloop, SendLoop.step, phase] at h
    | _ => rfl

theorem Flushing.take_potential (h : scene.Flushing place) {turn : Turn} (own : turn.isOwn)
    (within : (scene.take turn).retries ≤ budget) :
    (scene.take turn).potential place budget + (scene.sends turn).toNat ≤
      scene.potential place budget := by
  cases turn with
  | caller hasRuntime =>
    obtain rfl : hasRuntime = true := own
    rw [Scene.take]
    split
    · rename_i caller emitter step
      have pending : (phaseAt place { scene with caller, emitter }).pending =
          (scene.phaseAt place).pending := pending_phaseAt_caller step
      simp only [potential, SendLoop.potential, pending, Stage.step_policy step]
      exact Nat.le_refl _
    · exact Nat.le_refl _
  | loop q =>
    rcases stepped : scene.emitter.stepLoop q scene.surroundings with _ | ⟨emitter, s⟩
    · rw [Scene.take, stepped, sends_of_stepLoop_none stepped]
      exact Nat.le_refl _
    · rw [Scene.take, stepped] at within ⊢
      obtain ⟨rfl, loop, loop', signals, hloop, step, rfl⟩ := h.take_loop stepped
      rw [potential, potential, sends, phaseAt_of_some hloop, phaseAt_set hloop]
      exact SendLoop.step_potential step (h.orderly.sound loop (List.mem_of_getElem? hloop)) h.opened
        h.fits within
  | pass ms => exact Nat.le_refl _
  | _ => cases own

theorem Flushing.rounds_le (h : scene.Flushing place) (own : ∀ k, (turns k).isOwn)
    (within : ∀ k, (scene.along turns k).retries ≤ budget) (k : Nat) :
    scene.rounds turns k + (scene.along turns k).potential place budget ≤
      scene.potential place budget := by
  induction k with
  | zero => exact Nat.le_of_eq (Nat.zero_add _)
  | succ k ih =>
    have step := (h.along own k).take_potential (own k) (within (k + 1))
    calc scene.rounds turns (k + 1) + (scene.along turns (k + 1)).potential place budget
      _ = scene.rounds turns k + (((scene.along turns k).take (turns k)).potential place budget +
            ((scene.along turns k).sends (turns k)).toNat) := by
          rw [rounds, Scene.along]
          omega
      _ ≤ scene.rounds turns k + (scene.along turns k).potential place budget :=
          Nat.add_le_add_left step _
      _ ≤ scene.potential place budget := ih

theorem exists_constant {f : Nat → Nat} {m : Nat} (falls : ∀ k, m ≤ k → f (k + 1) ≤ f k) :
    ∃ n, m ≤ n ∧ ∀ k, n ≤ k → f k = f n := by
  have antitone : Antitone fun i => f (m + i) :=
    antitone_nat_of_succ_le fun i => falls (m + i) (Nat.le_add_right m i)
  obtain ⟨i, constant⟩ := WellFoundedLT.antitone_chain_condition antitone
  refine ⟨m + i, Nat.le_add_right m i, fun k hk => ?_⟩
  obtain ⟨j, rfl⟩ := Nat.exists_eq_add_of_le (Nat.le_of_add_right_le hk)
  exact (constant j (Nat.le_of_add_le_add_left hk)).symm

/-- A turn of the caller brings it closer to its end, unless it has to wait. -/
theorem take_caller (scene : Scene) :
    (scene.take (.caller true)).caller.rank < scene.caller.rank ∨
      scene.take (.caller true) = scene ∧ scene.caller.Waits scene.emitter := by
  rw [take]
  split
  · rename_i caller emitter step
    exact .inl (Stage.step_rank step)
  · rename_i none
    exact .inr ⟨rfl, Stage.waits_of_step fun caller emitter => none caller emitter⟩

theorem take_caller_eq {turn : Turn} (own : turn.isOwn) (other : turn ≠ .caller true) :
    (scene.take turn).caller = scene.caller := by
  cases turn with
  | caller hasRuntime =>
    obtain rfl : hasRuntime = true := own
    exact absurd rfl other
  | loop place =>
    rw [take]
    split <;> rfl
  | pass ms => rfl
  | _ => cases own

structure Waiting (scene : Scene) (turns : Nat → Turn) (n : Nat) : Prop where
  same : ∀ k, n ≤ k → (scene.along turns k).caller = (scene.along turns n).caller
  turn : ∀ k, n ≤ k → turns k = .caller true →
    scene.along turns (k + 1) = scene.along turns k ∧
      (scene.along turns k).caller.Waits (scene.along turns k).emitter

theorem exists_waiting (scene : Scene) (own : ∀ k, (turns k).isOwn) : ∃ n, scene.Waiting turns n := by
  have falls : ∀ k, 0 ≤ k →
      (scene.along turns (k + 1)).caller.rank ≤ (scene.along turns k).caller.rank := by
    intro k _
    rw [along]
    by_cases turn : turns k = .caller true
    · rw [turn]
      obtain lower | ⟨same, -⟩ := (scene.along turns k).take_caller
      · exact Nat.le_of_lt lower
      · rw [same]
    · rw [take_caller_eq (own k) turn]
  obtain ⟨n, -, constant⟩ := exists_constant (f := fun k => (scene.along turns k).caller.rank) falls
  have waits : ∀ k, n ≤ k → turns k = .caller true → scene.along turns (k + 1) =
      scene.along turns k ∧ (scene.along turns k).caller.Waits (scene.along turns k).emitter := by
    intro k hk turn
    have same := (constant (k + 1) (Nat.le_succ_of_le hk)).trans (constant k hk).symm
    rw [along, turn] at same ⊢
    exact (scene.along turns k).take_caller.resolve_left (Nat.lt_irrefl _ <| same ▸ ·)
  refine ⟨n, fun k hk => ?_, waits⟩
  induction k, hk using Nat.le_induction with
  | base => rfl
  | succ k hk ih =>
    by_cases turn : turns k = .caller true
    · rw [(waits k hk turn).1, ih]
    · rw [along, take_caller_eq (own k) turn, ih]

structure Still (scene : Scene) (turns : Nat → Turn) (n : Nat) : Prop where
  caller : ∀ k, n ≤ k → turns k = .caller true → scene.along turns (k + 1) = scene.along turns k
  loop : ∀ k, n ≤ k → ∀ place, turns k = .loop place →
    (scene.along turns k).emitter.stepLoop place (scene.along turns k).surroundings = none

theorem Still.next {n : Nat} (h : scene.Still turns n) (own : ∀ k, (turns k).isOwn) {k : Nat}
    (hk : n ≤ k) : scene.along turns (k + 1) = scene.along turns k ∨
      ∃ ms, turns k = .pass ms ∧
        scene.along turns (k + 1) = (scene.along turns k).take (.pass ms) := by
  have ours := own k
  cases turn : turns k with
  | caller hasRuntime =>
    obtain rfl : hasRuntime = true := by rwa [turn] at ours
    exact .inl (h.caller k hk turn)
  | loop place =>
    left
    rw [along, turn, take, h.loop k hk place turn]
  | pass ms => exact .inr ⟨ms, rfl, by rw [along, turn]⟩
  | _ =>
    rw [turn] at ours
    cases ours

theorem Still.emitter_eq {n : Nat} (h : scene.Still turns n) (own : ∀ k, (turns k).isOwn) {k : Nat}
    (hk : n ≤ k) : (scene.along turns k).emitter = (scene.along turns n).emitter := by
  induction k, hk using Nat.le_induction with
  | base => rfl
  | succ k hk ih =>
    obtain same | ⟨ms, -, passed⟩ := h.next own hk
    · rw [same, ih]
    · rw [passed, ← ih]
      rfl

theorem Still.elapsed_mono {n : Nat} (h : scene.Still turns n) (own : ∀ k, (turns k).isOwn)
    {k m : Nat} (hk : n ≤ k) (hm : k ≤ m) : (scene.along turns k).surroundings.elapsed ≤
      (scene.along turns m).surroundings.elapsed := by
  induction m, hm using Nat.le_induction with
  | base => exact Nat.le_refl _
  | succ m hm ih =>
    obtain same | ⟨ms, -, passed⟩ := h.next own (hk.trans hm)
    · rwa [same]
    · rw [passed]
      exact Nat.le_add_right_of_le ih

theorem Still.exists_elapsed {n : Nat} (h : scene.Still turns n) (own : ∀ k, (turns k).isOwn)
    (fair : Fair turns) (time : Nat) :
    ∃ k, n ≤ k ∧ time ≤ (scene.along turns k).surroundings.elapsed := by
  induction time with
  | zero => exact ⟨n, Nat.le_refl n, Nat.zero_le _⟩
  | succ time ih =>
    obtain ⟨k, hk, late⟩ := ih
    obtain ⟨m, ms, hm, turn⟩ := fair.time k
    have later := late.trans (h.elapsed_mono own hk hm)
    refine ⟨m + 1, by omega, ?_⟩
    rw [along, turn]
    change time + 1 ≤ (scene.along turns m).surroundings.elapsed + (ms + 1)
    omega

/-- Loops that do not move have ended, since whatever else a loop waits for comes by itself. -/
theorem Still.ended {n : Nat} (h : scene.Still turns n) (own : ∀ k, (turns k).isOwn)
    (fair : Fair turns) {place : Nat} {loop : SendLoop}
    (hloop : (scene.along turns n).emitter.loops[place]? = some loop) : loop.phase = .ended := by
  by_contra living
  obtain ⟨k, hk, due⟩ := h.exists_elapsed own fair (loop.deadline?.getD 0)
  obtain ⟨m, hm, turn⟩ := fair.loop place k
  have parked := h.loop m (hk.trans hm) place turn
  rw [Emitter.stepLoop, h.emitter_eq own (hk.trans hm), hloop] at parked
  have steps : (loop.step (scene.along turns n).emitter.policy
      (scene.along turns n).emitter.signals (scene.along turns m).surroundings).isSome := by
    refine SendLoop.step_isSome living fun deadline set => ?_
    rw [set] at due
    exact due.trans (h.elapsed_mono own hk hm)
  rw [Option.isSome_iff_exists] at steps
  obtain ⟨next, step⟩ := steps
  simp [step] at parked

/-- Loops stop moving, once the caller has, when every step of theirs uses something up. -/
theorem exists_still_of_falls {n : Nat} (own : ∀ k, (turns k).isOwn)
    (caller : ∀ k, n ≤ k → turns k = .caller true → scene.along turns (k + 1) = scene.along turns k)
    (f : Scene → Nat) (clock : ∀ (scene : Scene) (ms : Nat), f (scene.take (.pass ms)) = f scene)
    (falls : ∀ k, n ≤ k → ∀ place emitter s, turns k = .loop place →
      (scene.along turns k).emitter.stepLoop place (scene.along turns k).surroundings =
        some (emitter, s) → f { scene.along turns k with emitter, surroundings := s } <
          f (scene.along turns k)) :
    ∃ m, n ≤ m ∧ scene.Still turns m := by
  have never_rises : ∀ k, n ≤ k → f (scene.along turns (k + 1)) ≤ f (scene.along turns k) := by
    intro k hk
    have ours := own k
    cases turn : turns k with
    | caller hasRuntime =>
      obtain rfl : hasRuntime = true := by rwa [turn] at ours
      rw [caller k hk turn]
    | loop place =>
      rw [along, turn, take]
      rcases stepped : (scene.along turns k).emitter.stepLoop place
        (scene.along turns k).surroundings with _ | ⟨emitter, s⟩
      · exact Nat.le_refl _
      · exact Nat.le_of_lt (falls k hk place emitter s turn stepped)
    | pass ms => rw [along, turn, clock]
    | _ =>
      rw [turn] at ours
      cases ours
  obtain ⟨m, hm, constant⟩ := exists_constant (f := fun k => f (scene.along turns k)) never_rises
  refine ⟨m, hm, fun k hk => caller k (hm.trans hk), fun k hk place turn => ?_⟩
  rcases stepped : (scene.along turns k).emitter.stepLoop place
    (scene.along turns k).surroundings with _ | ⟨emitter, s⟩
  · rfl
  · have lower := falls k (hm.trans hk) place emitter s turn stepped
    have same := (constant (k + 1) (Nat.le_succ_of_le hk)).trans (constant k hk).symm
    rw [along, turn, take, stepped] at same
    exact absurd same (Nat.ne_of_lt lower)

theorem drains_le_take {turn : Turn} (own : turn.isOwn) :
    scene.emitter.signals.drains ≤ (scene.take turn).emitter.signals.drains := by
  refine take_own own (Nat.le_refl _) (fun caller emitter step => ?_)
    (fun place emitter s stepped => ?_) fun ms => Nat.le_refl _
  · cases Stage.steps_of_step step with
    | start _ _ started =>
      obtain ⟨-, rfl⟩ | ⟨-, rfl⟩ := Stage.start_cases started <;> exact Nat.le_refl _
    | wake | signal => exact scene.emitter.wake_frame.2.2.2.ge
    | report => exact Nat.le_succ _
    | _ => exact Nat.le_refl _
  · obtain ⟨loop, loop', signals, -, step, rfl⟩ := Scene.take_loop stepped
    by_cases draining : loop.phase = .draining
    · exact Nat.le.intro (SendLoop.step_report step draining).symm
    · exact (SendLoop.step_drains step draining).ge

theorem drains_le_along (own : ∀ k, (turns k).isOwn) {k m : Nat} (h : k ≤ m) :
    (scene.along turns k).emitter.signals.drains ≤
      (scene.along turns m).emitter.signals.drains := by
  induction m, h using Nat.le_induction with
  | base => exact Nat.le_refl _
  | succ m h ih => exact ih.trans (drains_le_take (own m))

theorem Waiting.not_awaiting {n ticket : Nat} (h : scene.Waiting turns n)
    (flushing : scene.Flushing place) (own : ∀ k, (turns k).isOwn) (fair : Fair turns)
    (within : ∀ k, (scene.along turns k).retries ≤ budget) :
    (scene.along turns n).caller ≠ .awaiting ticket := by
  intro stands
  have unheard : ∀ k, n ≤ k → (scene.along turns k).emitter.signals.drains ≤ ticket := by
    intro k hk
    obtain ⟨m, hm, turn⟩ := fair.caller k
    have here := (h.same m (hk.trans hm)).trans stands
    cases (h.turn m (hk.trans hm) turn).2 with
    | done there => cases here.symm.trans there
    | report _ there unheard =>
      cases here.symm.trans there
      exact (drains_le_along own hm).trans unheard
    | ending _ there => cases here.symm.trans there
  -- there are only finitely many reports before the next one is heard
  obtain ⟨m, hm, constant⟩ :=
    exists_constant (f := fun k => ticket - (scene.along turns k).emitter.signals.drains) (m := n)
      fun k _ => Nat.sub_le_sub_left (drains_le_take (own k)) ticket
  have silent : ∀ k, m ≤ k → (scene.along turns (k + 1)).emitter.signals.drains =
      (scene.along turns k).emitter.signals.drains := by
    intro k hk
    have now := constant k hk
    have next := constant (k + 1) (Nat.le_succ_of_le hk)
    have unheard_now := unheard k (hm.trans hk)
    have unheard_next := unheard (k + 1) (Nat.le_succ_of_le (hm.trans hk))
    omega
  have rest : ∃ j, m ≤ j ∧ scene.Still turns j := by
    refine exists_still_of_falls own (fun k hk turn => (h.turn k (hm.trans hk) turn).1)
      (fun scene => scene.potential place budget * 9 +
        (scene.phaseAt place).rank scene.emitter.signals.pendingWake) (fun _ _ => rfl)
      fun k hk q emitter s turn stepped => ?_
    have flushing := flushing.along own k
    have quiet := silent k hk
    have failures := within (k + 1)
    rw [Scene.along, turn, Scene.take, stepped] at quiet failures
    obtain ⟨rfl, loop, loop', signals, hloop, step, rfl⟩ := flushing.take_loop stepped
    have calm : loop.phase ≠ .draining := fun draining =>
      Nat.succ_ne_self _ ((SendLoop.step_report step draining).symm.trans quiet)
    rw [potential, potential, phaseAt_of_some hloop, phaseAt_set hloop]
    exact SendLoop.step_rank step calm (SendLoop.step_potential step
      (flushing.orderly.sound loop (List.mem_of_getElem? hloop)) flushing.opened flushing.fits
      failures)
  obtain ⟨j, hj, still⟩ := rest
  have flushing := flushing.along own j
  have up := flushing.up (by rw [h.same j (hm.trans hj), stands]; rfl)
  obtain ⟨p, loop, -, hloop, living⟩ := flushing.orderly.alive up
  exact living (still.ended own fair hloop)

theorem Waiting.not_joining {n p : Nat} (h : scene.Waiting turns n)
    (flushing : scene.Flushing place) (own : ∀ k, (turns k).isOwn) (fair : Fair turns) :
    (scene.along turns n).caller ≠ .joining (some p) := by
  intro stands
  have rest : ∃ j, n ≤ j ∧ scene.Still turns j := by
    refine exists_still_of_falls own (fun k hk turn => (h.turn k hk turn).1)
      (fun scene => (scene.phaseAt place).endRank) (fun _ _ => rfl)
      fun k hk q emitter s turn stepped => ?_
    have flushing := flushing.along own k
    have stopped := flushing.orderly.ending (by rw [h.same k hk, stands]; rfl)
    obtain ⟨rfl, loop, loop', signals, hloop, step, rfl⟩ := flushing.take_loop stepped
    rw [phaseAt_of_some hloop, phaseAt_set hloop]
    exact SendLoop.step_endRank step stopped
  obtain ⟨j, hj, still⟩ := rest
  obtain ⟨m, hm, turn⟩ := fair.caller j
  have here := (h.same m (hj.trans hm)).trans stands
  cases (h.turn m (hj.trans hm) turn).2 with
  | done there => cases here.symm.trans there
  | report _ there => cases here.symm.trans there
  | ending p' there living =>
    cases here.symm.trans there
    rw [still.emitter_eq own hm, Emitter.hasEnded] at living
    split at living
    · rename_i loop hloop
      rw [SendLoop.hasEnded, still.ended own fair hloop] at living
      cases living
    · cases living

theorem Flushing.returns (h : scene.Flushing place) (own : ∀ k, (turns k).isOwn) (fair : Fair turns)
    (within : ∀ k, (scene.along turns k).retries ≤ budget) :
    ∃ k, (scene.along turns k).caller = .done := by
  obtain ⟨n, waiting⟩ := scene.exists_waiting own
  obtain ⟨k, hk, turn⟩ := fair.caller n
  have same := waiting.same k hk
  cases (waiting.turn k hk turn).2 with
  | done stands => exact ⟨k, stands⟩
  | report ticket stands =>
    exact absurd (same.symm.trans stands) (waiting.not_awaiting h own fair within)
  | ending p stands => exact absurd (same.symm.trans stands) (waiting.not_joining h own fair)

/-- A flush empties the queue. It makes no more rounds than there are rows and attempts that fail, and what a
loop reads as an empty queue in the meantime is one. When it returns, nothing is running, and nothing is left
unless a loop was about to report a queue that had been empty before. Under a fair schedule it does return. -/
theorem flush_drains {r : Nat} (reachable : scene.Reachable) (idle : scene.caller = .done)
    (opened : scene.db.isOpen) (text : ∀ row ∈ scene.db.rows, row.isBlob = false)
    (small : scene.emitter.policy.settings.batchSize ≤ Database.maxParameters)
    (own : ∀ k, (turns k).isOwn)
    (refused : ∀ k, ((scene.take .flush).along turns k).retries ≤ scene.retries + r) :
    (∀ k, (scene.take .flush).rounds turns k ≤ scene.db.rows.length + r) ∧
    (∀ k place, ((scene.take .flush).along turns k).ReadsNothing place →
      (((scene.take .flush).along turns k).take (.loop place)).db.rows = []) ∧
    (∀ k, ((scene.take .flush).along turns k).caller = .done →
      ((scene.take .flush).along turns k).emitter.isRunning = false ∧
      ((scene.IsDraining → scene.db.rows = []) →
        ((scene.take .flush).along turns k).db.rows = [])) ∧
    (Fair turns → ∃ k, ((scene.take .flush).along turns k).caller = .done) := by
  obtain ⟨place, flushing⟩ := reachable.orderly.flushing idle opened text (.inl small)
  have begun := take_flush idle
  refine ⟨fun k => ?_, fun k q => (flushing.along own k).rows_of_readsNothing, fun k done => ?_,
    fun fair => flushing.returns own fair refused⟩
  · have bound := flushing.rounds_le own refused k
    have start : (scene.take .flush).potential place (scene.retries + r) ≤
        scene.db.rows.length + r := by
      rw [begun]
      simp only [potential, SendLoop.potential, retries, db]
      omega
    omega
  · refine ⟨(flushing.along own k).down done, fun calm => ?_⟩
    have truthful : (scene.take .flush).Truthful := by
      rw [begun]
      exact ⟨fun loop hloop draining => calm ⟨loop, hloop, draining⟩, by simp,
        fun past => by cases past⟩
    exact (truthful.along flushing own k).past (by rw [done]; rfl)

theorem retries_take_le (scene : Scene) {turn : Turn} (own : turn.isOwn) :
    (scene.take turn).surroundings.answer = scene.surroundings.answer ∧
    (scene.take turn).retries + scene.surroundings.failures ≤
      scene.retries + (scene.take turn).surroundings.failures := by
  refine take_own own ⟨rfl, Nat.le_refl _⟩ (fun caller emitter step => ?_)
    (fun place emitter s stepped => ?_) fun ms => ⟨rfl, Nat.le_refl _⟩
  · rw [retries, retries, Stage.step_policy step]
    exact ⟨rfl, Nat.le_refl _⟩
  · obtain ⟨loop, loop', signals, -, step, rfl⟩ := Scene.take_loop stepped
    exact ⟨SendLoop.step_answer step, SendLoop.step_retries_le step⟩

/-- No more requests are tried again than answers of the collector are no success. -/
theorem retries_along_le (scene : Scene) (own : ∀ k, (turns k).isOwn) (k : Nat) :
    (scene.along turns k).surroundings.answer = scene.surroundings.answer ∧
    (scene.along turns k).retries + scene.surroundings.failures ≤
      scene.retries + (scene.along turns k).surroundings.failures := by
  induction k with
  | zero => exact ⟨rfl, Nat.le_refl _⟩
  | succ k ih =>
    obtain ⟨answer, bound⟩ := ih
    obtain ⟨answer', bound'⟩ := (scene.along turns k).retries_take_le (own k)
    rw [along]
    exact ⟨answer'.trans answer, by omega⟩

def everyone (k : Nat) : Turn :=
  match (Nat.unpair k).2 with
  | 0 => .caller true
  | 1 => .pass 1
  | place + 2 => .loop place

theorem everyone_isOwn (k : Nat) : (everyone k).isOwn := by
  unfold everyone
  split <;> rfl

theorem everyone_fair : Fair everyone where
  caller k := ⟨Nat.pair k 0, Nat.left_le_pair k 0, by simp [everyone]⟩
  loop place k := ⟨Nat.pair k (place + 2), Nat.left_le_pair k _, by simp [everyone]⟩
  time k := ⟨Nat.pair k 1, 0, Nat.left_le_pair k 1, by simp [everyone]⟩

/-- A new emitter with an event, of which the collector refuses the first request. -/
def refusing : Scene :=
  { plain with surroundings := { Surroundings.plain stocked.db with
    answer n := if n = 0 then .status 500 else .status 200 } }

theorem refusing_facts : refusing.Reachable ∧ refusing.caller = .done ∧ refusing.db.isOpen ∧
    refusing.db.rows.length = 1 ∧ (∀ row ∈ refusing.db.rows, row.isBlob = false) ∧
    refusing.emitter.policy.settings.batchSize ≤ Database.maxParameters ∧
    refusing.emitter.loops = [] := by
  have opened : refusing.db.isOpen := by decide +kernel
  have single : refusing.db.events.aside = none := by decide +kernel
  refine ⟨⟨refusing, [], ⟨plain_isNew.made, rfl, opened, single⟩, rfl⟩, rfl, opened, ?_, ?_, ?_, rfl⟩
    <;> decide +kernel

theorem retries_refusing (k : Nat) :
    ((refusing.take .flush).along everyone k).retries ≤ refusing.retries + 1 := by
  have begun : refusing.take .flush = { refusing with caller := .starting } := take_flush rfl
  obtain ⟨answer, bound⟩ := (refusing.take .flush).retries_along_le everyone_isOwn k
  have once : ((refusing.take .flush).along everyone k).surroundings.failures ≤ 1 := by
    rw [Surroundings.failures, answer, begun]
    refine Nat.le_trans (List.countP_mono_left fun n _ failed => ?_)
      (List.nodup_iff_count_le_one.1 List.nodup_range 0)
    by_contra later
    have later : n ≠ 0 := by simpa using later
    simp [refusing, later, Answer.isSuccess] at failed
  have same : (refusing.take .flush).retries = refusing.retries := by rw [begun, retries, retries]
  omega

theorem flush_drains_refusing :
    (∀ k, (refusing.take .flush).rounds everyone k ≤ 1 + 1) ∧
    ∃ k, ((refusing.take .flush).along everyone k).caller = .done ∧
      ((refusing.take .flush).along everyone k).emitter.isRunning = false ∧
      ((refusing.take .flush).along everyone k).db.rows = [] := by
  obtain ⟨reachable, idle, opened, length, text, small, none⟩ := refusing_facts
  have calm : refusing.IsDraining → refusing.db.rows = [] := by
    rintro ⟨loop, hloop, -⟩
    rw [none] at hloop
    cases hloop
  obtain ⟨rounds, -, returned, returns⟩ :=
    flush_drains reachable idle opened text small everyone_isOwn retries_refusing
  obtain ⟨k, done⟩ := returns everyone_fair
  obtain ⟨stopped, empty⟩ := returned k done
  exact ⟨length ▸ rounds, k, done, stopped, empty calm⟩

end Scene

end Telemetry.Delivery

import Telemetry.Delivery.Schedule
import Telemetry.Proofs.Delivery.LoopSteps

set_option autoImplicit false

/-!
An emitter whose loops, caller and store take turns in any order. At most one loop lives at a time, and it is
the one that a stop would wait for.
-/

namespace Telemetry.Delivery

open Store (Database EventRow Row)

/-- A turn of someone who uses the emitter, of a loop, of the clock or of the store. -/
inductive Turn where
  | caller (hasRuntime : Bool)
  | loop (place : Nat)
  | pass (ms : Nat)
  | add (payload : Payload)
  | start (hasRuntime : Bool)
  | flush
  | stop
  | hide
  | restore
  deriving DecidableEq

namespace Scene

def call? (scene : Scene) (stage : Stage) : Scene :=
  if scene.caller = .done then scene.begin stage else scene

/-- Take a turn; nothing happens when there is nothing to do or it fails. -/
def take (scene : Scene) : Turn → Scene
  | .caller hasRuntime =>
    match scene.caller.step hasRuntime scene.emitter with
    | some (.ok (caller, emitter)) => { scene with caller, emitter }
    | _ => scene
  | .loop place =>
    match scene.emitter.stepLoop place scene.surroundings with
    | some (emitter, surroundings) => { scene with emitter, surroundings }
    | none => scene
  | .pass ms => { scene with surroundings := { scene.surroundings with
      elapsed := scene.surroundings.elapsed + ms
      clock := scene.surroundings.clock + ms } }
  | .add payload =>
    match scene.emitter.add scene.db payload with
    | .ok (emitter, db) => { scene with emitter }.setDb db
    | .error _ => scene
  | .start hasRuntime =>
    if scene.caller = .done then
      match scene.emitter.start hasRuntime with
      | .ok emitter => { scene with emitter }
      | .error _ => scene
    else scene
  | .flush => scene.call? .flush
  | .stop => scene.call? .stop
  | .hide => (scene.db.hide? .events).elim scene scene.setDb
  | .restore => (scene.db.restore? .events).elim scene scene.setDb

def run (scene : Scene) (turns : List Turn) : Scene := turns.foldl take scene

/-- A new emitter on a store that is in reach. -/
structure IsNew (scene : Scene) : Prop where
  made : ∃ url method settings, Emitter.new url method settings = .ok scene.emitter ∧
    settings.batchSize ≤ maxWord
  idle : scene.caller = .done
  opened : scene.db.isOpen
  single : scene.db.events.aside = none

/-- Whatever can become of a new emitter. -/
def Reachable (scene : Scene) : Prop := ∃ first turns, IsNew first ∧ scene = first.run turns

end Scene

theorem SendLoop.isQuiet_of_isParked {loop : SendLoop} (h : loop.isParked) : loop.phase.isQuiet := by
  unfold isParked at h
  cases phase : loop.phase with
  | resting deadline | backingOff deadline => rfl
  | _ => simp [phase] at h

theorem SendLoop.woken_phase {loop : SendLoop} (h : loop.isParked) :
    loop.phase ≠ .ended ∧ loop.woken.phase.isQuiet ∧ loop.woken.phase ≠ .ended ∧
      loop.woken.phase ≠ .draining := by
  unfold isParked at h
  unfold woken
  cases phase : loop.phase with
  | resting deadline | backingOff deadline => exact ⟨nofun, rfl, nofun, nofun⟩
  | _ => simp [phase] at h

namespace Emitter

theorem wakeFirst?_getElem? {loops woken : List SendLoop} (h : wakeFirst? loops = some woken)
    (place : Nat) : woken[place]? = loops[place]? ∨
      ∃ loop, loops[place]? = some loop ∧ loop.isParked ∧ woken[place]? = some loop.woken := by
  induction loops generalizing woken place with
  | nil => cases h
  | cons loop rest ih =>
    unfold wakeFirst? at h
    split_ifs at h with parked
    · cases h
      cases place with
      | zero => exact .inr ⟨loop, rfl, parked, rfl⟩
      | succ place => exact .inl rfl
    · obtain ⟨others, hothers, rfl⟩ := Option.map_eq_some_iff.1 h
      cases place with
      | zero => exact .inl rfl
      | succ place => exact ih hothers place

theorem wakeFirst?_eq_none {loops : List SendLoop}
    (h : ∀ loop ∈ loops, loop.isParked = false) : wakeFirst? loops = none := by
  induction loops with
  | nil => rfl
  | cons loop rest ih =>
    have first := h loop List.mem_cons_self
    simp only [wakeFirst?, first, Bool.false_eq_true, if_false]
    rw [ih fun other hother => h other (List.mem_cons_of_mem _ hother), Option.map_none]

theorem wake_getElem? (emitter : Emitter) (place : Nat) :
    emitter.wake.loops[place]? = emitter.loops[place]? ∨
      ∃ loop, emitter.loops[place]? = some loop ∧ loop.isParked ∧
        emitter.wake.loops[place]? = some loop.woken := by
  unfold wake
  split
  · rename_i woken h
    exact wakeFirst?_getElem? h place
  · exact .inl rfl

theorem of_wake_getElem? {emitter : Emitter} {place : Nat} {loop : SendLoop}
    (h : emitter.wake.loops[place]? = some loop) :
    ∃ before, emitter.loops[place]? = some before ∧
      (loop = before ∨ before.isParked ∧ loop = before.woken) := by
  obtain same | ⟨before, hbefore, parked, woken⟩ := emitter.wake_getElem? place
  · exact ⟨loop, same ▸ h, .inl rfl⟩
  · exact ⟨before, hbefore, .inr ⟨parked, Option.some.inj (h.symm.trans woken)⟩⟩

theorem wake_frame (emitter : Emitter) : emitter.wake.policy = emitter.policy ∧
    emitter.wake.worker = emitter.worker ∧
    emitter.wake.signals.running = emitter.signals.running ∧
    emitter.wake.signals.drains = emitter.signals.drains := by
  unfold wake
  split <;> exact ⟨rfl, rfl, rfl, rfl⟩

theorem wakeFirst?_length {loops woken : List SendLoop} (h : wakeFirst? loops = some woken) :
    woken.length = loops.length := by
  induction loops generalizing woken with
  | nil => cases h
  | cons loop rest ih =>
    unfold wakeFirst? at h
    split_ifs at h with parked
    · cases h
      rfl
    · obtain ⟨others, hothers, rfl⟩ := Option.map_eq_some_iff.1 h
      rw [List.length_cons, List.length_cons, ih hothers]

theorem wake_length (emitter : Emitter) : emitter.wake.loops.length = emitter.loops.length := by
  unfold wake
  split
  · rename_i woken h
    exact wakeFirst?_length h
  · rfl

theorem stepLoop_eq_some {emitter after : Emitter} {place : Nat} {s s' : Surroundings}
    (h : emitter.stepLoop place s = some (after, s')) :
    ∃ loop loop' signals, emitter.loops[place]? = some loop ∧
      loop.step emitter.policy emitter.signals s = some (loop', signals, s') ∧
      after = { emitter with signals, loops := emitter.loops.set place loop' } := by
  unfold stepLoop at h
  obtain ⟨loop, hloop, stepped⟩ := Option.bind_eq_some_iff.1 h
  obtain ⟨⟨loop', signals, after⟩, step, same⟩ := Option.map_eq_some_iff.1 stepped
  cases same
  exact ⟨loop, loop', signals, hloop, step, rfl⟩

theorem wake_of_none_parked {emitter : Emitter}
    (h : ∀ loop ∈ emitter.loops, loop.isParked = false) :
    emitter.wake =
      { emitter with signals := { emitter.signals with pendingWake := true } } := by
  rw [wake, wakeFirst?_eq_none h]

end Emitter

inductive Stage.Steps (hasRuntime : Bool) (stage : Stage) (emitter : Emitter) :
    Stage → Emitter → Prop where
  | start (after : Emitter) (stands : stage = .starting) (started : emitter.start hasRuntime = .ok after) :
    Steps hasRuntime stage emitter .registering after
  | register (stands : stage = .registering) :
    Steps hasRuntime stage emitter (.waking emitter.signals.drains) emitter
  | wake (ticket : Nat) (stands : stage = .waking ticket) :
    Steps hasRuntime stage emitter (.awaiting ticket) emitter.wake
  | hear (ticket : Nat) (stands : stage = .awaiting ticket)
    (reported : ticket < emitter.signals.drains) : Steps hasRuntime stage emitter .clearing emitter
  | clear (stands : stage = .clearing) :
    Steps hasRuntime stage emitter .signalling emitter.clearRunning
  | signal (stands : stage = .signalling) : Steps hasRuntime stage emitter .taking emitter.wake
  | take (stands : stage = .taking) : Steps hasRuntime stage emitter (.joining emitter.worker)
    { emitter with worker := none }
  | join (worker : Option Nat) (stands : stage = .joining worker)
    (ended : ∀ place, worker = some place → emitter.hasEnded place) :
    Steps hasRuntime stage emitter .reporting emitter
  | report (stands : stage = .reporting) : Steps hasRuntime stage emitter .done emitter.reportDrained

namespace Stage

variable {stage caller : Stage} {emitter after : Emitter} {hasRuntime : Bool}

theorem steps_of_step (h : stage.step hasRuntime emitter = some (.ok (caller, after))) :
    stage.Steps hasRuntime emitter caller after := by
  unfold step at h
  cases stage with
  | starting =>
    dsimp only at h
    cases started : emitter.start hasRuntime with
    | error cause =>
      rw [started] at h
      cases h
    | ok after =>
      rw [started] at h
      cases h
      exact .start after rfl started
  | registering =>
    cases h
    exact .register rfl
  | waking ticket =>
    cases h
    exact .wake ticket rfl
  | awaiting ticket =>
    dsimp only at h
    split_ifs at h with reported
    cases h
    exact .hear ticket rfl reported
  | clearing =>
    cases h
    exact .clear rfl
  | signalling =>
    cases h
    exact .signal rfl
  | taking =>
    cases h
    exact .take rfl
  | joining worker =>
    cases worker with
    | none =>
      cases h
      exact .join none rfl nofun
    | some place =>
      dsimp only at h
      split_ifs at h with ended
      cases h
      refine .join (some place) rfl fun other same => ?_
      cases same
      exact ended
  | reporting =>
    cases h
    exact .report rfl
  | done => cases h

theorem start_cases (h : emitter.start hasRuntime = .ok after) :
    emitter.isRunning ∧ after = emitter ∨
    emitter.isRunning = false ∧ after = { emitter with
      signals := { emitter.signals with running := true }
      loops := emitter.loops ++ [SendLoop.new]
      worker := some emitter.loops.length } := by
  unfold Emitter.start at h
  split_ifs at h with running <;> cases h
  · exact .inl ⟨running, rfl⟩
  · exact .inr ⟨Bool.eq_false_iff.2 running, rfl⟩

/-- A step of a caller leaves the loop at a place alone, wakes it, or puts a new one there. -/
theorem step_getElem? (h : stage.step hasRuntime emitter = some (.ok (caller, after))) (place : Nat) :
    after.loops[place]? = emitter.loops[place]? ∨
    (∃ loop, emitter.loops[place]? = some loop ∧ loop.isParked ∧
      after.loops[place]? = some loop.woken) ∨
    stage = .starting ∧ emitter.isRunning = false ∧ place = emitter.loops.length ∧
      after.loops[place]? = some SendLoop.new := by
  cases steps_of_step h with
  | start _ stands started =>
    obtain ⟨-, rfl⟩ | ⟨stopped, rfl⟩ := start_cases started
    · exact .inl rfl
    · have last : (emitter.loops ++ [SendLoop.new])[emitter.loops.length]? = some SendLoop.new :=
        List.getElem?_concat_length
      rcases Nat.lt_trichotomy place emitter.loops.length with old | rfl | beyond
      · exact .inl (List.getElem?_append_left old)
      · exact .inr (.inr ⟨stands, stopped, rfl, last⟩)
      · refine .inl ?_
        rw [List.getElem?_eq_none (Nat.le_of_lt beyond), List.getElem?_eq_none]
        rw [List.length_append, List.length_singleton]
        exact beyond
  | wake | signal => exact (emitter.wake_getElem? place).imp_right .inl
  | _ => exact .inl rfl

theorem of_step_getElem? (h : stage.step hasRuntime emitter = some (.ok (caller, after))) {place : Nat}
    {loop : SendLoop} (hloop : after.loops[place]? = some loop) :
    (∃ before, emitter.loops[place]? = some before ∧
      (loop = before ∨ before.isParked ∧ loop = before.woken)) ∨
    stage = .starting ∧ emitter.isRunning = false ∧ place = emitter.loops.length ∧
      loop = SendLoop.new := by
  obtain same | ⟨before, hbefore, parked, woken⟩ | ⟨starting, stopped, last, new⟩ :=
    step_getElem? h place
  · exact .inl ⟨loop, same ▸ hloop, .inl rfl⟩
  · exact .inl ⟨before, hbefore, .inr ⟨parked, Option.some.inj (hloop.symm.trans woken)⟩⟩
  · exact .inr ⟨starting, stopped, last, Option.some.inj (hloop.symm.trans new)⟩

theorem step_policy (h : stage.step hasRuntime emitter = some (.ok (caller, after))) :
    after.policy = emitter.policy := by
  cases steps_of_step h with
  | start _ _ started => obtain ⟨-, rfl⟩ | ⟨-, rfl⟩ := start_cases started <;> rfl
  | wake | signal => exact emitter.wake_frame.1
  | _ => rfl

end Stage

/-- Whether a stop is past the point where it has asked loops to end. -/
def Stage.isEnding : Stage → Bool
  | .signalling => true
  | .taking => true
  | .joining _ => true
  | .reporting => true
  | _ => false

namespace Scene

def custody (scene : Scene) : Option Nat :=
  match scene.caller with
  | .joining worker => worker
  | .reporting => none
  | _ => scene.emitter.worker

/-- What holds of an emitter, whatever its users, its loops and its store do: no loop but the one in custody
is alive, that one is alive while the emitter is running, and none when it is at rest. -/
structure Orderly (scene : Scene) : Prop where
  batch : 0 < scene.emitter.policy.settings.batchSize ∧
    scene.emitter.policy.settings.batchSize ≤ maxWord
  single : scene.db.isOpen → scene.db.events.aside = none
  others : ∀ (place : Nat) (loop : SendLoop), scene.emitter.loops[place]? = some loop →
    scene.custody ≠ some place → loop.phase = .ended
  ending : scene.caller.isEnding → scene.emitter.isRunning = false
  stopped : scene.caller.isEnding = false → scene.emitter.isRunning = false →
    ∀ loop ∈ scene.emitter.loops, loop.phase = .ended
  alive : scene.emitter.isRunning → ∃ (place : Nat) (loop : SendLoop),
    scene.emitter.worker = some place ∧ scene.emitter.loops[place]? = some loop ∧
      loop.phase ≠ .ended
  sound : ∀ loop ∈ scene.emitter.loops, loop.Sound scene.emitter.policy scene.db

variable {scene : Scene}

theorem setRule_frame {emitter after : Emitter} {code : Nat} {retry : Bool}
    (h : emitter.setRule code retry = .ok after) :
    after.policy.settings = emitter.policy.settings ∧ after.signals = emitter.signals ∧
      after.loops = emitter.loops := by
  unfold Emitter.setRule at h
  split_ifs at h
  cases h
  exact ⟨rfl, rfl, rfl⟩

theorem setRules_frame {rules : List (Nat × Bool)} {emitter after : Emitter}
    (h : rules.foldlM (fun emitter rule => emitter.setRule rule.1 rule.2) emitter = .ok after) :
    after.policy.settings = emitter.policy.settings ∧ after.signals = emitter.signals ∧
      after.loops = emitter.loops := by
  induction rules generalizing emitter with
  | nil =>
    cases h
    exact ⟨rfl, rfl, rfl⟩
  | cons rule rest ih =>
    rw [List.foldlM_cons] at h
    cases next : emitter.setRule rule.1 rule.2 with
    | error cause =>
      rw [next] at h
      cases h
    | ok between =>
      rw [next] at h
      obtain ⟨settings, signals, loops⟩ := setRule_frame next
      obtain ⟨settings', signals', loops'⟩ := ih h
      exact ⟨settings'.trans settings, signals'.trans signals, loops'.trans loops⟩

theorem IsNew.orderly (h : IsNew scene) : scene.Orderly := by
  obtain ⟨⟨url, method, settings, made, large⟩, idle, opened, single⟩ := h
  unfold Emitter.new at made
  obtain ⟨same, signals, loops⟩ := setRules_frame made
  dsimp only at same signals loops
  have stopped : scene.emitter.isRunning = false := by
    rw [Emitter.isRunning, signals]
  have noLoop : ∀ (place : Nat) (loop : SendLoop), scene.emitter.loops[place]? ≠ some loop := by
    rw [loops]
    simp
  refine ⟨?_, fun _ => single, fun place loop h => absurd h (noLoop place loop), fun ending => ?_,
    fun _ _ => ?_, fun running => ?_, ?_⟩
  · rw [same]
    refine ⟨Nat.lt_of_lt_of_le Nat.zero_lt_one (Nat.le_max_right _ 1), Nat.max_le.2 ⟨large, ?_⟩⟩
    decide
  · rw [idle] at ending
    cases ending
  · rw [loops]
    exact nofun
  · rw [stopped] at running
    cases running
  · rw [loops]
    exact nofun

def plain : Scene where
  emitter := { policy := .plain, signals := ⟨false, false, 0⟩, loops := [], worker := none }
  surroundings := .plain .empty

theorem plain_isNew : IsNew plain where
  made := ⟨⟨.http, [], [], .domain "collector.test".toList, none, [[]], none, none⟩, .post, {}, rfl,
    by decide⟩
  idle := rfl
  opened := rfl
  single := rfl

theorem custody_congr {after : Scene} (caller : after.caller = scene.caller)
    (worker : after.emitter.worker = scene.emitter.worker) : after.custody = scene.custody := by
  unfold custody
  rw [caller, worker]

/-- A change that neither starts nor ends a loop, and takes nothing from under one. -/
theorem Orderly.of_loops {after : Scene} (h : scene.Orderly) (caller : after.caller = scene.caller)
    (policy : after.emitter.policy = scene.emitter.policy)
    (worker : after.emitter.worker = scene.emitter.worker)
    (running : after.emitter.isRunning = scene.emitter.isRunning)
    (single : after.db.isOpen → after.db.events.aside = none)
    (old : ∀ (place : Nat) (loop : SendLoop), after.emitter.loops[place]? = some loop →
      ∃ before, scene.emitter.loops[place]? = some before ∧
        (before.phase = .ended → loop.phase = .ended) ∧
        loop.Sound scene.emitter.policy after.db)
    (new : ∀ (place : Nat) (before : SendLoop), scene.emitter.loops[place]? = some before →
      before.phase ≠ .ended → ∃ loop, after.emitter.loops[place]? = some loop ∧ loop.phase ≠ .ended) :
    after.Orderly where
  batch := policy ▸ h.batch
  single := single
  others place loop hloop apart := by
    obtain ⟨before, hbefore, ended, -⟩ := old place loop hloop
    exact ended (h.others place before hbefore (custody_congr caller worker ▸ apart))
  ending ending := running ▸ h.ending (caller ▸ ending)
  stopped ending stopped loop hloop := by
    obtain ⟨place, hplace⟩ := List.mem_iff_getElem?.1 hloop
    obtain ⟨before, hbefore, ended, -⟩ := old place loop hplace
    exact ended (h.stopped (caller ▸ ending) (running ▸ stopped) before
      (List.mem_of_getElem? hbefore))
  alive up := by
    obtain ⟨place, before, hworker, hbefore, living⟩ := h.alive (running ▸ up)
    obtain ⟨loop, hloop, living⟩ := new place before hbefore living
    exact ⟨place, loop, worker ▸ hworker, hloop, living⟩
  sound loop hloop := by
    obtain ⟨place, hplace⟩ := List.mem_iff_getElem?.1 hloop
    obtain ⟨-, -, -, sound⟩ := old place loop hplace
    exact policy ▸ sound

theorem Orderly.wake (h : scene.Orderly) :
    Orderly { scene with emitter := scene.emitter.wake } := by
  obtain ⟨policy, worker, running, -⟩ := scene.emitter.wake_frame
  refine h.of_loops rfl policy worker running h.single ?_ ?_
  · intro place loop hloop
    obtain ⟨before, hbefore, rfl | ⟨parked, rfl⟩⟩ := Emitter.of_wake_getElem? hloop
    · exact ⟨loop, hbefore, id, h.sound loop (List.mem_of_getElem? hbefore)⟩
    · obtain ⟨living, quiet, -⟩ := SendLoop.woken_phase parked
      exact ⟨before, hbefore, fun ended => absurd ended living, SendLoop.sound_of_isQuiet quiet⟩
  · intro place before hbefore living
    obtain same | ⟨loop, hloop, parked, woken⟩ := scene.emitter.wake_getElem? place
    · exact ⟨before, same.trans hbefore, living⟩
    · exact ⟨_, woken, (SendLoop.woken_phase parked).2.2.1⟩

theorem Orderly.setDb {db : Database} (h : scene.Orderly) (single : db.isOpen → db.events.aside = none)
    (more : ∀ row ∈ scene.db.keptRows, row ∈ db.keptRows) : (scene.setDb db).Orderly :=
  h.of_loops rfl rfl rfl rfl single
    (fun _ loop hloop => ⟨loop, hloop, id, (h.sound loop (List.mem_of_getElem? hloop)).mono more⟩)
    fun _ before hbefore living => ⟨before, hbefore, living⟩

theorem take_flush (idle : scene.caller = .done) :
    scene.take .flush = { scene with caller := .starting } := if_pos idle

theorem take_loop {place : Nat} {emitter : Emitter} {s : Surroundings}
    (h : scene.emitter.stepLoop place scene.surroundings = some (emitter, s)) :
    ∃ loop loop' signals, scene.emitter.loops[place]? = some loop ∧
      loop.step scene.emitter.policy scene.emitter.signals scene.surroundings =
        some (loop', signals, s) ∧
      emitter = { scene.emitter with signals, loops := scene.emitter.loops.set place loop' } :=
  Emitter.stepLoop_eq_some h

theorem Orderly.ended_of_ne (h : scene.Orderly) {p q : Nat} {loop other : SendLoop}
    (hloop : scene.emitter.loops[p]? = some loop) (living : loop.phase ≠ .ended)
    (hother : scene.emitter.loops[q]? = some other) (apart : q ≠ p) : other.phase = .ended := by
  have own : scene.custody = some p := by
    by_contra elsewhere
    exact living (h.others p loop hloop elsewhere)
  apply h.others q other hother
  intro same
  exact apart (Option.some.inj (same.symm.trans own))

/-- When the one loop that is alive is replaced, only its successor can be alive. -/
theorem Orderly.eq_of_mem_set (h : scene.Orderly) {place : Nat} {loop loop' other : SendLoop}
    (hloop : scene.emitter.loops[place]? = some loop) (living : loop.phase ≠ .ended)
    (hother : other ∈ scene.emitter.loops.set place loop') (alive : other.phase ≠ .ended) :
    other = loop' := by
  obtain ⟨q, hq⟩ := List.mem_iff_getElem?.1 hother
  by_cases here : q = place
  · subst here
    rw [List.getElem?_set_self (List.getElem?_eq_some_iff.1 hloop).1] at hq
    exact (Option.some.inj hq).symm
  · rw [List.getElem?_set_ne (Ne.symm here)] at hq
    exact absurd (h.ended_of_ne hloop living hq here) alive

theorem Orderly.loop (h : scene.Orderly) {place : Nat} {emitter : Emitter} {s : Surroundings}
    (stepped : scene.emitter.stepLoop place scene.surroundings = some (emitter, s)) :
    Orderly { scene with emitter, surroundings := s } := by
  obtain ⟨loop, loop', signals, hloop, step, rfl⟩ := take_loop stepped
  have living := SendLoop.step_not_ended step
  have running := SendLoop.step_running step
  have same := SendLoop.step_sameElse step
  have inside := (List.getElem?_eq_some_iff.1 hloop).1
  have own : scene.custody = some place := by
    by_contra apart
    exact living (h.others place loop hloop apart)
  have here : (scene.emitter.loops.set place loop')[place]? = some loop' :=
    List.getElem?_set_self inside
  have there : ∀ q, q ≠ place →
      (scene.emitter.loops.set place loop')[q]? = scene.emitter.loops[q]? :=
    fun q hq => List.getElem?_set_ne (Ne.symm hq)
  refine ⟨h.batch, fun opened => ?_, fun q other hother apart => ?_,
    fun ending => running.trans (h.ending ending), fun still stopped => ?_, fun up => ?_, ?_⟩
  · exact same.2.1.trans (h.single (same.2.2.symm.trans opened))
  · have hq : q ≠ place := fun hq => apart (own.trans (congrArg some hq.symm))
    exact h.others q other ((there q hq).symm.trans hother) apart
  · have none := h.stopped still (running.symm.trans stopped)
    exact absurd (none loop (List.mem_of_getElem? hloop)) living
  · obtain ⟨p, before, worker, hbefore, living'⟩ := h.alive (running.symm.trans up)
    by_cases hp : p = place
    · subst hp
      refine ⟨p, loop', worker, here, fun ended => ?_⟩
      have stopped := SendLoop.step_ended step ended
      rw [← running] at stopped
      exact absurd up (by simp [Emitter.isRunning, stopped])
    · exact ⟨p, before, worker, (there p hp).trans hbefore, living'⟩
  · intro other hother
    obtain ⟨q, hq⟩ := List.mem_iff_getElem?.1 hother
    by_cases hplace : q = place
    · subst hplace
      cases here.symm.trans hq
      exact SendLoop.step_sound step (h.sound loop (List.mem_of_getElem? hloop))
    · have ended := h.others q other ((there q hplace).symm.trans hq)
        fun here => hplace (Option.some.inj (here.symm.trans own))
      exact SendLoop.sound_of_isQuiet (by rw [ended]; rfl)

/-- A caller who moves on without touching the emitter, and without having waited for a loop. -/
theorem Orderly.toCaller {caller : Stage} (h : scene.Orderly)
    (custody : ({ scene with caller } : Scene).custody = scene.custody)
    (ending : caller.isEnding = scene.caller.isEnding) : Orderly { scene with caller } where
  batch := h.batch
  single := h.single
  others := custody ▸ h.others
  ending late := h.ending (ending ▸ late)
  stopped early := h.stopped (ending ▸ early)
  alive := h.alive
  sound := h.sound

theorem Orderly.start (h : scene.Orderly) (stage : scene.caller = .starting ∨ scene.caller = .done)
    {hasRuntime : Bool} {emitter : Emitter} (started : scene.emitter.start hasRuntime = .ok emitter) :
    Orderly { scene with emitter } := by
  obtain ⟨-, rfl⟩ | ⟨stopped, rfl⟩ := Stage.start_cases started
  · exact h
  · have none := h.stopped (by obtain stage | stage := stage <;> rw [stage] <;> rfl) stopped
    have last : (scene.emitter.loops ++ [SendLoop.new])[scene.emitter.loops.length]? =
        some SendLoop.new := List.getElem?_concat_length
    refine ⟨h.batch, h.single, fun place loop hloop apart => ?_, fun ending => ?_, fun _ => nofun,
      fun _ => ⟨_, _, rfl, last, nofun⟩, fun loop hloop => ?_⟩
    · have other : place ≠ scene.emitter.loops.length := by
        rintro rfl
        obtain stage | stage := stage <;> simp [custody, stage] at apart
      have inside := (List.getElem?_eq_some_iff.1 hloop).1
      rw [List.length_append, List.length_singleton] at inside
      rw [List.getElem?_append_left (by omega)] at hloop
      exact none loop (List.mem_of_getElem? hloop)
    · obtain stage | stage := stage <;> simp [stage, Stage.isEnding] at ending
    · rcases List.mem_append.1 hloop with old | new
      · exact h.sound loop old
      · cases List.mem_singleton.1 new
        exact SendLoop.sound_of_isQuiet rfl

theorem Orderly.caller (h : scene.Orderly) {hasRuntime : Bool} {caller : Stage} {emitter : Emitter}
    (step : scene.caller.step hasRuntime scene.emitter = some (.ok (caller, emitter))) :
    Orderly { scene with caller, emitter } := by
  cases Stage.steps_of_step step with
  | start _ stage started =>
    exact (h.start (.inl stage) started).toCaller (by simp [custody, stage])
      (by simp [stage, Stage.isEnding])
  | register stage | hear _ stage =>
    exact h.toCaller (by simp [custody, stage]) (by rw [stage]; rfl)
  | wake _ stage | signal stage =>
    exact h.wake.toCaller (by simp [custody, stage]) (by simp [stage, Stage.isEnding])
  | clear stage =>
    exact ⟨h.batch, h.single, fun place loop hloop apart =>
      h.others place loop hloop (by simpa [custody, stage, Emitter.clearRunning] using apart),
      fun _ => rfl, nofun, nofun, h.sound⟩
  | take stage =>
    have stopped := h.ending (by rw [stage]; rfl)
    exact ⟨h.batch, h.single, fun place loop hloop apart =>
      h.others place loop hloop (by simpa [custody, stage] using apart),
      fun _ => stopped, nofun, fun up => absurd up (Bool.eq_false_iff.1 stopped), h.sound⟩
  | join worker stage ended =>
    have stopped := h.ending (by rw [stage]; rfl)
    -- whatever was waited for has ended, and nothing else was alive
    refine ⟨h.batch, h.single, fun place loop hloop _ => ?_, fun _ => stopped, nofun, h.alive,
      h.sound⟩
    by_cases here : worker = some place
    · simpa [Emitter.hasEnded, hloop, SendLoop.hasEnded] using ended place here
    · exact h.others place loop hloop (by simpa [custody, stage] using here)
  | report stage =>
    have stopped := h.ending (by rw [stage]; rfl)
    have none : ∀ (place : Nat) (loop : SendLoop), scene.emitter.loops[place]? = some loop →
        loop.phase = .ended := fun place loop hloop =>
      h.others place loop hloop (by simp [custody, stage])
    refine ⟨h.batch, h.single, fun place loop hloop _ => none place loop hloop, nofun,
      fun _ _ loop hloop => ?_, h.alive, h.sound⟩
    obtain ⟨place, hplace⟩ := List.mem_iff_getElem?.1 hloop
    exact none place loop hplace

theorem Orderly.call? (h : scene.Orderly) {stage : Stage} (early : stage.isEnding = false)
    (custody : ({ scene with caller := stage } : Scene).custody = scene.emitter.worker) :
    (scene.call? stage).Orderly := by
  unfold Scene.call?
  split_ifs with idle
  · exact h.toCaller (custody.trans (by simp [Scene.custody, idle])) (by rw [early, idle]; rfl)
  · exact h

theorem Orderly.take (h : scene.Orderly) (turn : Turn) : (scene.take turn).Orderly := by
  cases turn with
  | caller hasRuntime =>
    rw [Scene.take]
    split
    · rename_i caller emitter step
      exact h.caller step
    · exact h
  | loop place =>
    rw [Scene.take]
    split
    · rename_i emitter s stepped
      exact h.loop stepped
    · exact h
  | pass ms => exact ⟨h.batch, h.single, h.others, h.ending, h.stopped, h.alive, h.sound⟩
  | add payload =>
    rw [Scene.take, Emitter.add]
    cases added : scene.db.add payload with
    | error cause => exact h
    | ok db =>
      obtain ⟨opened, same, -⟩ := Database.add_rows added
      refine h.wake.setDb (fun _ => same.2.1.trans (h.single opened)) fun row hrow => ?_
      rw [Database.keptRows_add added]
      exact List.mem_append_left _ hrow
  | start hasRuntime =>
    rw [Scene.take]
    split_ifs with idle
    · cases started : scene.emitter.start hasRuntime with
      | error cause => exact h
      | ok emitter => exact h.start (.inr idle) started
    · exact h
  | flush => exact h.call? rfl rfl
  | stop => exact h.call? rfl rfl
  | hide =>
    rw [Scene.take]
    cases hidden : scene.db.hide? .events with
    | none => exact h
    | some db =>
      obtain ⟨kept, closed⟩ := Database.hide_spec hidden
      exact h.setDb (fun opened => absurd opened (Bool.eq_false_iff.1 closed))
        fun row hrow => kept ▸ hrow
  | restore =>
    rw [Scene.take]
    cases restored : scene.db.restore? .events with
    | none => exact h
    | some db =>
      obtain ⟨kept, single⟩ := Database.restore_spec restored
      exact h.setDb (fun _ => single) fun row hrow => kept ▸ hrow

theorem Orderly.run (h : scene.Orderly) (turns : List Turn) : (scene.run turns).Orderly := by
  induction turns generalizing scene with
  | nil => exact h
  | cons turn rest ih => exact ih (h.take turn)

theorem Reachable.orderly (h : scene.Reachable) : scene.Orderly := by
  obtain ⟨first, turns, new, rfl⟩ := h
  exact new.orderly.run turns

end Scene

end Telemetry.Delivery

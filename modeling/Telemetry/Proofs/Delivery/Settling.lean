import Telemetry.Proofs.Delivery.Books

set_option autoImplicit false

namespace Telemetry.Delivery

open Store (Database)

section Single

variable {emitter after : Emitter} {loop : SendLoop}

theorem Emitter.wake_single (single : emitter.loops = [loop]) :
    emitter.wake.loops = [loop] ∨ loop.isParked ∧ emitter.wake.loops = [loop.woken] := by
  unfold wake
  rw [single, wakeFirst?]
  by_cases parked : loop.isParked
  · rw [if_pos parked]
    exact .inr ⟨parked, rfl⟩
  · rw [if_neg parked]
    exact .inl rfl

theorem Emitter.stepLoop_single (single : emitter.loops = [loop]) {place : Nat} {s s' : Surroundings}
    (h : emitter.stepLoop place s = some (after, s')) : ∃ loop' signals,
      loop.step emitter.policy emitter.signals s = some (loop', signals, s') ∧
        after = { emitter with signals, loops := [loop'] } := by
  obtain ⟨other, loop', signals, found, step, rfl⟩ := stepLoop_eq_some h
  rw [single] at found ⊢
  obtain ⟨inside, rfl⟩ := List.getElem?_eq_some_iff.1 found
  obtain rfl : place = 0 := Nat.lt_one_iff.1 inside
  exact ⟨loop', signals, step, rfl⟩

/-- A caller leaves the loop of a running emitter alone or wakes it. -/
theorem Stage.step_single {stage caller : Stage} {hasRuntime : Bool} (single : emitter.loops = [loop])
    (up : stage = .starting → emitter.isRunning)
    (h : stage.step hasRuntime emitter = some (.ok (caller, after))) :
    after.loops = [loop] ∨ loop.isParked ∧ after.loops = [loop.woken] := by
  cases steps_of_step h with
  | start _ stands started =>
    obtain ⟨-, rfl⟩ | ⟨stopped, -⟩ := start_cases started
    · exact .inl single
    · exact absurd (up stands) (Bool.eq_false_iff.1 stopped)
  | wake | signal => exact Emitter.wake_single single
  | _ => exact .inl single

end Single

namespace Scene

structure Lasts (P : Scene → Prop) : Prop where
  caller : ∀ scene caller emitter, P scene →
    scene.caller.step true scene.emitter = some (.ok (caller, emitter)) → P { scene with caller, emitter }
  loop : ∀ scene place emitter s, P scene → scene.caller.step true scene.emitter = none →
    scene.emitter.stepLoop place scene.surroundings = some (emitter, s) →
      P { scene with emitter, surroundings := s }
  elapse : ∀ scene elapsed, P scene → P (scene.setElapsed elapsed)

variable {scene after : Scene} {P : Scene → Prop}

theorem stepLoops_eq_some (h : scene.stepLoops = some after) : ∃ place emitter s,
    scene.emitter.stepLoop place scene.surroundings = some (emitter, s) ∧
      after = { scene with emitter, surroundings := s } := by
  obtain ⟨place, -, stepped⟩ := List.exists_of_findSome?_eq_some h
  obtain ⟨⟨emitter, s⟩, moved, rfl⟩ := Option.map_eq_some_iff.1 stepped
  exact ⟨place, emitter, s, moved, rfl⟩

theorem step_cases (h : scene.step true = some (.ok after)) :
    (∃ caller emitter, scene.caller.step true scene.emitter = some (.ok (caller, emitter)) ∧
      after = { scene with caller, emitter }) ∨
    scene.caller.step true scene.emitter = none ∧ ∃ place emitter s,
      scene.emitter.stepLoop place scene.surroundings = some (emitter, s) ∧
        after = { scene with emitter, surroundings := s } := by
  unfold step at h
  split at h
  · rename_i caller emitter moved
    cases h
    exact .inl ⟨caller, emitter, moved, rfl⟩
  · cases h
  · rename_i waits
    obtain ⟨next, stepped, same⟩ := Option.map_eq_some_iff.1 h
    cases same
    exact .inr ⟨waits, stepLoops_eq_some stepped⟩

theorem call_eq (hasRuntime : Bool) (stage : Stage) (ms : Nat) (scene : Scene) :
    scene.call hasRuntime stage ms =
      ((scene.begin stage).advance hasRuntime callerSteps).bind fun begun =>
        (if ms = 0 then .ok begun else begun.pass hasRuntime ms).map fun after =>
          (after.caller == .done, { after with caller := .done }) := by
  unfold call
  cases (scene.begin stage).advance hasRuntime callerSteps with
  | error cause => rfl
  | ok begun =>
    by_cases now : ms = 0
    · simp only [now]
      rfl
    · simp only [now]
      rfl

namespace Lasts

theorem step (lasts : Lasts P) (h : P scene) (stepped : scene.step true = some (.ok after)) : P after := by
  obtain ⟨caller, emitter, moved, rfl⟩ | ⟨waits, place, emitter, s, moved, rfl⟩ := step_cases stepped
  · exact lasts.caller scene caller emitter h moved
  · exact lasts.loop scene place emitter s h waits moved

theorem settleFor (lasts : Lasts P) {fuel : Nat} (h : P scene) (ran : settleFor true fuel scene = .ok after) :
    P after := by
  induction fuel generalizing scene with
  | zero =>
    cases ran
    exact h
  | succ fuel ih =>
    unfold Scene.settleFor at ran
    split at ran
    · cases ran
      exact h
    · cases ran
    · rename_i next stepped
      exact ih (lasts.step h stepped) ran

theorem settle (lasts : Lasts P) (h : P scene) (ran : scene.settle true = .ok after) : P after :=
  lasts.settleFor h ran

theorem passFor (lasts : Lasts P) {limit fuel : Nat} (h : P scene)
    (ran : passFor true limit fuel scene = .ok after) : P after := by
  induction fuel generalizing scene with
  | zero =>
    cases ran
    exact h
  | succ fuel ih =>
    unfold Scene.passFor at ran
    split at ran
    · cases ran
    -- One round of the induction is what happens until the next deadline.
    · rename_i settled ran'
      have kept := lasts.settle h ran'
      split_ifs at ran with finished
      · cases ran
        exact kept
      · split at ran
        · cases ran
          exact lasts.elapse settled limit kept
        · rename_i deadline due
          split_ifs at ran with soon
          · exact ih (lasts.elapse settled deadline kept) ran
          · cases ran
            exact lasts.elapse settled limit kept

theorem pass (lasts : Lasts P) {ms : Nat} (h : P scene) (ran : scene.pass true ms = .ok after) :
    P after := by
  unfold Scene.pass at ran
  dsimp only at ran
  cases passed : Scene.passFor true (scene.surroundings.elapsed + ms) (ms + 1) scene with
  | error cause =>
    rw [passed] at ran
    cases ran
  | ok between =>
    rw [passed] at ran
    exact lasts.settle (lasts.passFor h passed) ran

theorem advance (lasts : Lasts P) {fuel : Nat} (h : P scene) (ran : advance true fuel scene = .ok after) :
    P after := by
  induction fuel generalizing scene with
  | zero =>
    cases ran
    exact h
  | succ fuel ih =>
    unfold Scene.advance at ran
    split at ran
    · rename_i caller emitter moved
      exact ih (lasts.caller scene caller emitter h moved) ran
    · cases ran
    · cases ran
      exact h

/-- A call ends in a state that its steps lead to, and its caller is done then or is given up. -/
theorem call (lasts : Lasts P) {stage : Stage} {ms : Nat} {finished : Bool} (h : P (scene.begin stage))
    (ran : scene.call true stage ms = .ok (finished, after)) :
    ∃ last, P last ∧ finished = (last.caller == .done) ∧ after = { last with caller := .done } := by
  rw [call_eq] at ran
  cases began : Scene.advance true callerSteps (scene.begin stage) with
  | error cause =>
    rw [began] at ran
    cases ran
  | ok begun =>
    have kept := lasts.advance h began
    rw [began, Except.bind] at ran
    split_ifs at ran with now
    · cases ran
      exact ⟨begun, kept, rfl, rfl⟩
    · cases passed : begun.pass true ms with
      | error cause =>
        rw [passed] at ran
        cases ran
      | ok last =>
        rw [passed] at ran
        cases ran
        exact ⟨last, lasts.pass kept passed, rfl, rfl⟩

end Lasts

structure Balanced (events : List Int) (policy : Policy) (scene : Scene) : Prop where
  same : scene.emitter.policy = policy
  up : scene.caller = .starting → scene.emitter.isRunning
  loop : ∃ loop, scene.emitter.loops = [loop] ∧
    Books (.ofRows events scene.surroundings.history) policy loop scene.surroundings

structure Watched (scene : Scene) : Prop where
  custody : scene.caller ≠ .reporting → scene.caller ≠ .done → scene.custody = some 0
  ended : scene.caller = .reporting ∨ scene.caller = .done →
    ∀ loop ∈ scene.emitter.loops, loop.phase = .ended

structure Stopping (scene : Scene) : Prop where
  late : scene.caller.rank ≤ Stage.stop.rank
  asked : scene.caller = .clearing ∨ scene.emitter.isRunning = false

variable {events : List Int} {policy : Policy}

theorem Balanced.caller (h : Balanced events policy scene) {caller : Stage} {emitter : Emitter}
    (step : scene.caller.step true scene.emitter = some (.ok (caller, emitter))) :
    Balanced events policy { scene with caller, emitter } := by
  refine ⟨(Stage.step_policy step).trans h.same, ?_, ?_⟩
  · intro stands
    cases Stage.steps_of_step step <;> cases stands
  · obtain ⟨loop, single, books⟩ := h.loop
    obtain same | ⟨parked, woken⟩ := Stage.step_single single h.up step
    · exact ⟨loop, same, books⟩
    · -- A loop that is woken was parked, and then it has nothing in hand.
      have quiet := SendLoop.isQuiet_of_isParked parked
      exact ⟨loop.woken, woken, books.quiet quiet (SendLoop.woken_phase parked).2.1⟩

theorem Balanced.stepLoop (h : Balanced events policy scene)
    (small : policy.settings.batchSize ≤ Database.maxParameters)
    (subscribed : policy.subscribed = DeliveryStatus.all) {place : Nat} {emitter : Emitter} {s : Surroundings}
    (stepped : scene.emitter.stepLoop place scene.surroundings = some (emitter, s)) :
    Balanced events policy { scene with emitter, surroundings := s } := by
  obtain ⟨loop, single, books⟩ := h.loop
  obtain ⟨loop', signals, step, rfl⟩ := Emitter.stepLoop_single single stepped
  rw [h.same] at step
  obtain ⟨more, history, books⟩ := books.step small subscribed step
  rw [Account.record_ofRows, ← history] at books
  refine ⟨h.same, ?_, loop', rfl, books⟩
  intro stands
  exact (SendLoop.step_running step).trans (h.up stands)

theorem Balanced.lasts (small : policy.settings.batchSize ≤ Database.maxParameters)
    (subscribed : policy.subscribed = DeliveryStatus.all) : Lasts (Balanced events policy) where
  caller _ _ _ h step := h.caller step
  loop _ _ _ _ h _ stepped := h.stepLoop small subscribed stepped
  elapse _ _ h := by
    obtain ⟨loop, single, books⟩ := h.loop
    exact ⟨h.same, h.up, loop, single, books.congr rfl rfl⟩

theorem Watched.caller (h : scene.Watched) (balanced : Balanced events policy scene) {caller : Stage}
    {emitter : Emitter} (step : scene.caller.step true scene.emitter = some (.ok (caller, emitter))) :
    Watched { scene with caller, emitter } := by
  obtain ⟨loop, single, -⟩ := balanced.loop
  have custody := h.custody
  unfold Scene.custody at custody
  cases Stage.steps_of_step step with
  | start _ stands started =>
    rw [stands] at custody
    obtain ⟨-, rfl⟩ | ⟨stopped, -⟩ := Stage.start_cases started
    · exact ⟨fun _ _ => custody nofun nofun, nofun⟩
    · exact absurd (balanced.up stands) (Bool.eq_false_iff.1 stopped)
  | register stands | hear _ stands | clear stands | take stands =>
    rw [stands] at custody
    exact ⟨fun _ _ => custody nofun nofun, nofun⟩
  | wake _ stands | signal stands =>
    rw [stands] at custody
    exact ⟨fun _ _ => scene.emitter.wake_frame.2.1.trans (custody nofun nofun), nofun⟩
  | join worker stands ended =>
    rw [stands] at custody
    -- The loop that the caller waited for is the only one.
    have gone := ended 0 (custody nofun nofun)
    refine ⟨fun none => absurd rfl none, fun _ other hother => ?_⟩
    rw [single] at hother
    obtain rfl := List.mem_singleton.1 hother
    simpa [Emitter.hasEnded, single, SendLoop.hasEnded] using gone
  | report stands => exact ⟨fun _ none => absurd rfl none, fun _ => h.ended (.inl stands)⟩

theorem Watched.stepLoop (h : scene.Watched) (balanced : Balanced events policy scene) {place : Nat}
    {emitter : Emitter} {s : Surroundings}
    (stepped : scene.emitter.stepLoop place scene.surroundings = some (emitter, s)) :
    Watched { scene with emitter, surroundings := s } := by
  obtain ⟨loop, single, -⟩ := balanced.loop
  obtain ⟨loop', signals, step, rfl⟩ := Emitter.stepLoop_single single stepped
  refine ⟨h.custody, fun finished => ?_⟩
  have ended := h.ended finished loop (single ▸ List.mem_singleton_self loop)
  exact absurd ended (SendLoop.step_not_ended step)

theorem Watched.lasts (small : policy.settings.batchSize ≤ Database.maxParameters)
    (subscribed : policy.subscribed = DeliveryStatus.all) :
    Lasts fun scene => Balanced events policy scene ∧ scene.Watched where
  caller _ _ _ h step := ⟨h.1.caller step, h.2.caller h.1 step⟩
  loop _ _ _ _ h _ stepped := ⟨h.1.stepLoop small subscribed stepped, h.2.stepLoop h.1 stepped⟩
  elapse scene elapsed h :=
    ⟨(Balanced.lasts small subscribed).elapse scene elapsed h.1, h.2.custody, h.2.ended⟩

theorem Stopping.caller (h : scene.Stopping) {caller : Stage} {emitter : Emitter}
    (step : scene.caller.step true scene.emitter = some (.ok (caller, emitter))) :
    Stopping { scene with caller, emitter } := by
  have late := Nat.le_of_lt (Nat.lt_of_lt_of_le (Stage.step_rank step) h.late)
  refine ⟨late, .inr ?_⟩
  have asked := h.asked
  have before := h.late
  cases Stage.steps_of_step step with
  | start _ stands | register stands | wake _ stands | hear _ stands =>
    -- A stop begins behind these stages.
    rw [stands] at before
    simp [Stage.rank, Stage.stop] at before
  | clear => rfl
  | signal stands =>
    rw [stands] at asked
    exact scene.emitter.wake_frame.2.2.1.trans (asked.resolve_left nofun)
  | take stands | join _ stands | report stands =>
    rw [stands] at asked
    exact asked.resolve_left nofun

/-- A loop has its turn only when the caller has asked it to end. -/
theorem Stopping.stopped (h : scene.Stopping) (waits : scene.caller.step true scene.emitter = none) :
    scene.emitter.isRunning = false := by
  apply h.asked.resolve_left
  intro stands
  rw [stands] at waits
  cases waits

theorem Stopping.lasts (small : policy.settings.batchSize ≤ Database.maxParameters)
    (subscribed : policy.subscribed = DeliveryStatus.all) :
    Lasts fun scene => Balanced events policy scene ∧ scene.Stopping where
  caller _ _ _ h step := ⟨h.1.caller step, h.2.caller step⟩
  loop scene _ _ _ h waits stepped := by
    obtain ⟨loop, single, -⟩ := h.1.loop
    have balanced := h.1.stepLoop small subscribed stepped
    obtain ⟨loop', signals, step, rfl⟩ := Emitter.stepLoop_single single stepped
    exact ⟨balanced, h.2.late, .inr ((SendLoop.step_running step).trans (h.2.stopped waits))⟩
  elapse scene elapsed h :=
    ⟨(Balanced.lasts small subscribed).elapse scene elapsed h.1, h.2.late, h.2.asked⟩

def endRank (scene : Scene) : Nat := scene.caller.rank + (scene.phaseAt 0).endRank

def Idle (events : List Int) (policy : Policy) (scene : Scene) : Prop :=
  ∃ loop, loop.phase.isQuiet ∧
    Books (.ofRows events scene.surroundings.history) policy loop scene.surroundings

theorem Idle.congr (h : Idle events policy scene) (db : after.db = scene.db)
    (history : after.surroundings.history = scene.surroundings.history) : Idle events policy after := by
  obtain ⟨loop, quiet, books⟩ := h
  refine ⟨loop, quiet, ?_⟩
  rw [history]
  exact books.congr (congrArg Database.events db) history

end Scene

end Telemetry.Delivery

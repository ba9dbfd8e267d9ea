import Telemetry.Proofs.Delivery.Progress
import Telemetry.Proofs.Delivery.Turns

set_option autoImplicit false

namespace Telemetry.Delivery

namespace Phase

def due : Phase → Nat
  | .resting deadline => deadline
  | .delaying deadline => deadline
  | .backingOff deadline => deadline
  | _ => 0

/-- The most steps until the next check of a running loop for which no time is too early. -/
def distance : Phase → Nat
  | .checking => 0
  | .reading => 5
  | .sending _ => 4
  | .settling _ => 3
  | .draining => 3
  | .pausing => 2
  | .interrupted _ => 2
  | .resting _ => 1
  | .delaying _ => 1
  | .backingOff _ => 1
  | .ended => 0

end Phase

theorem SendLoop.Steps.distance_lt {policy : Policy} {loop loop' : SendLoop}
    {signals signals' : Signals} {s s' : Surroundings}
    (h : loop.Steps policy signals s loop' signals' s') (running : signals.running = true)
    (due : loop.phase.due ≤ s.elapsed) (away : loop.phase ≠ .checking) :
    loop'.phase.distance < loop.phase.distance ∧ loop'.phase ≠ .ended := by
  cases h with
  | proceed phase => exact absurd phase away
  | finish phase => exact absurd phase away
  | settle outcome failures next phase going =>
    rw [phase]
    obtain rfl | ⟨deadline, rfl⟩ := going <;> exact ⟨by simp [Phase.distance], nofun⟩
  | delayWoken deadline phase early | backOff deadline phase early =>
    rw [phase] at due
    exact absurd due (Nat.not_le_of_lt early)
  | delayCut deadline phase stopped =>
    rw [running] at stopped
    cases stopped
  | findNothing phase | fetch phase | report phase | stayUp phase | rest phase | rise _ phase
  | send _ phase | delayOver _ phase | backOffOver _ phase | delayAgain _ phase =>
    rw [phase]
    exact ⟨by simp [Phase.distance], nofun⟩

theorem SendLoop.due_of_deadline? {loop : SendLoop} {deadline : Nat}
    (h : loop.deadline? = some deadline) : loop.phase.due = deadline := by
  unfold deadline? at h
  split at h <;> cases h
  all_goals
    rename_i phase
    rw [phase, Phase.due]

/-- An emitter, what its loops work on, and where each of its callers stands. -/
structure Crowd where
  emitter : Emitter
  surroundings : Surroundings
  callers : List Stage

namespace Crowd

inductive Move where
  | start (hasRuntime : Bool)
  | flush
  | stop
  | caller (number : Nat) (hasRuntime : Bool)
  | loop (place : Nat)
  | wake
  | world (surroundings : Surroundings)

/-- Take a turn; nothing happens when there is nothing to do or it fails. -/
def take (crowd : Crowd) : Move → Crowd
  | .start hasRuntime =>
    match crowd.emitter.start hasRuntime with
    | .ok emitter => { crowd with emitter }
    | .error _ => crowd
  | .flush => { crowd with callers := crowd.callers ++ [.flush] }
  | .stop => { crowd with callers := crowd.callers ++ [.stop] }
  | .caller number hasRuntime =>
    match (crowd.callers[number]?).bind (·.step hasRuntime crowd.emitter) with
    | some (.ok (stage, emitter)) =>
      { crowd with emitter, callers := crowd.callers.set number stage }
    | _ => crowd
  | .loop place =>
    match crowd.emitter.stepLoop place crowd.surroundings with
    | some (emitter, surroundings) => { crowd with emitter, surroundings }
    | none => crowd
  | .wake => { crowd with emitter := crowd.emitter.wake }
  | .world surroundings => { crowd with surroundings }

def run (crowd : Crowd) (moves : List Move) : Crowd := moves.foldl take crowd

structure IsNew (crowd : Crowd) : Prop where
  made : ∃ url method settings, Emitter.new url method settings = .ok crowd.emitter
  alone : crowd.callers = []

/-- Whether a loop reads that it should go on, and begins a round. -/
def Begins (crowd : Crowd) (place : Nat) : Prop :=
  crowd.emitter.isRunning ∧
    ∃ loop, crowd.emitter.loops[place]? = some loop ∧ loop.phase = .checking

def Spawns (crowd : Crowd) (move : Move) : Prop :=
  crowd.emitter.loops.length < (crowd.take move).emitter.loops.length

/-- Loops are started only while no stop is past the clearing of the flag. -/
def StartsApart : Crowd → List Move → Prop
  | _, [] => True
  | crowd, move :: rest =>
    (crowd.Spawns move → ∀ stage ∈ crowd.callers, stage.isEnding = false) ∧
      (crowd.take move).StartsApart rest

variable {crowd : Crowd}

/-- Whether some turns from here on make a loop begin a round. -/
def CanBegin (crowd : Crowd) (place : Nat) : Prop := ∃ moves, (crowd.run moves).Begins place

theorem CanBegin.of_take {place : Nat} (move : Move) (h : (crowd.take move).CanBegin place) :
    crowd.CanBegin place := by
  obtain ⟨moves, begins⟩ := h
  exact ⟨move :: moves, begins⟩

theorem take_loop {place : Nat} {loop loop' : SendLoop} {signals : Signals} {s : Surroundings}
    (h : crowd.emitter.loops[place]? = some loop)
    (step : loop.step crowd.emitter.policy crowd.emitter.signals crowd.surroundings =
      some (loop', signals, s)) :
    crowd.take (.loop place) = { crowd with
      emitter := { crowd.emitter with signals, loops := crowd.emitter.loops.set place loop' }
      surroundings := s } := by
  rw [take, Emitter.stepLoop, h, Option.bind_some, step]
  rfl

/-- A loop that is alive in a running emitter comes to its next check, given time, and goes on there. -/
theorem canBegin_of_alive {place : Nat} {loop : SendLoop} (running : crowd.emitter.isRunning)
    (here : crowd.emitter.loops[place]? = some loop) (alive : loop.phase ≠ .ended) :
    crowd.CanBegin place := by
  generalize far : loop.phase.distance = distance
  induction distance using Nat.strongRecOn generalizing crowd loop with
  | _ distance ih =>
    by_cases check : loop.phase = .checking
    · exact ⟨[], running, loop, here, check⟩
    let later : Surroundings := { crowd.surroundings with
      elapsed := max crowd.surroundings.elapsed loop.phase.due }
    have due : loop.phase.due ≤ later.elapsed := Nat.le_max_right _ _
    have going : (loop.step crowd.emitter.policy crowd.emitter.signals later).isSome :=
      SendLoop.step_isSome alive fun deadline h => SendLoop.due_of_deadline? h ▸ due
    obtain ⟨⟨loop', signals, s⟩, step⟩ := Option.isSome_iff_exists.1 going
    obtain ⟨nearer, alive'⟩ := (SendLoop.steps_of_step step).distance_lt running due check
    have inside := (List.getElem?_eq_some_iff.1 here).1
    refine .of_take (.world later) (.of_take (.loop place) ?_)
    have taken : (crowd.take (.world later)).take (.loop place) = { crowd with
        emitter := { crowd.emitter with signals, loops := crowd.emitter.loops.set place loop' }
        surroundings := s } := take_loop here step
    rw [taken]
    exact ih _ (far ▸ nearer) ((SendLoop.step_running step).trans running)
      (List.getElem?_set_self inside) alive' rfl

theorem start_getElem? {hasRuntime : Bool} {emitter after : Emitter}
    (h : emitter.start hasRuntime = .ok after) {place : Nat} {loop : SendLoop}
    (here : emitter.loops[place]? = some loop) : after.loops[place]? = some loop := by
  obtain ⟨-, rfl⟩ | ⟨-, rfl⟩ := Stage.start_cases h
  · exact here
  · have inside := (List.getElem?_eq_some_iff.1 here).1
    exact (List.getElem?_append_left inside).trans here

theorem wake_ended {emitter : Emitter} {place : Nat} {loop : SendLoop}
    (here : emitter.loops[place]? = some loop) (ended : loop.phase = .ended) :
    emitter.wake.loops[place]? = some loop := by
  obtain same | ⟨other, found, parked, -⟩ := emitter.wake_getElem? place
  · exact same.trans here
  · cases here.symm.trans found
    exact absurd ended (SendLoop.woken_phase parked).1

theorem take_ended {place : Nat} {loop : SendLoop} (here : crowd.emitter.loops[place]? = some loop)
    (ended : loop.phase = .ended) (move : Move) :
    (crowd.take move).emitter.loops[place]? = some loop := by
  cases move with
  | start hasRuntime =>
    rw [take]
    split
    · rename_i emitter started
      exact start_getElem? started here
    · exact here
  | flush | stop | world => exact here
  | wake => exact wake_ended here ended
  | caller number hasRuntime =>
    rw [take]
    split
    · rename_i stage emitter step
      obtain ⟨before, -, step⟩ := Option.bind_eq_some_iff.1 step
      cases Stage.steps_of_step step with
      | start _ _ started => exact start_getElem? started here
      | wake | signal => exact wake_ended here ended
      | _ => exact here
    · exact here
  | loop other =>
    rw [take]
    split
    · rename_i emitter surroundings stepped
      obtain ⟨found, loop', signals, hfound, step, rfl⟩ := Emitter.stepLoop_eq_some stepped
      have apart : other ≠ place := by
        rintro rfl
        cases here.symm.trans hfound
        exact SendLoop.step_not_ended step ended
      exact (List.getElem?_set_ne apart).trans here
    · exact here

theorem not_canBegin_of_ended {place : Nat} {loop : SendLoop}
    (here : crowd.emitter.loops[place]? = some loop) (ended : loop.phase = .ended) :
    ¬crowd.CanBegin place := by
  rintro ⟨moves, -, other, found, check⟩
  have still : (crowd.run moves).emitter.loops[place]? = some loop := by
    clear found
    induction moves generalizing crowd with
    | nil => exact here
    | cons move rest ih => exact ih (take_ended here ended move)
  cases still.symm.trans found
  rw [ended] at check
  cases check

/-- What holds while loops are started apart from stops: only the last loop can be alive, and its handle is
there for a stop, or some stop waits with it. -/
structure Tidy (crowd : Crowd) : Prop where
  older : ∀ (place : Nat) (loop : SendLoop), crowd.emitter.loops[place]? = some loop →
    place + 1 < crowd.emitter.loops.length → loop.phase = .ended
  kept : ∀ (place : Nat) (loop : SendLoop), crowd.emitter.loops[place]? = some loop →
    loop.phase ≠ .ended →
    crowd.emitter.worker = some place ∨ .joining (some place) ∈ crowd.callers
  stopping : crowd.emitter.isRunning = false → ∀ (place : Nat) (loop : SendLoop),
    crowd.emitter.loops[place]? = some loop → loop.phase ≠ .ended →
    crowd.emitter.worker = some place → .signalling ∈ crowd.callers ∨ .taking ∈ crowd.callers

theorem Tidy.ending_of_alive (h : crowd.Tidy) (stopped : crowd.emitter.isRunning = false)
    {place : Nat} {loop : SendLoop} (here : crowd.emitter.loops[place]? = some loop)
    (alive : loop.phase ≠ .ended) : ∃ stage ∈ crowd.callers, stage.isEnding = true := by
  obtain worker | joining := h.kept place loop here alive
  · obtain signalling | taking := h.stopping stopped place loop here alive worker
    · exact ⟨_, signalling, rfl⟩
    · exact ⟨_, taking, rfl⟩
  · exact ⟨_, joining, rfl⟩

/-- A change of the loops that starts none and brings none back. -/
theorem Tidy.of_loops {after : Crowd} (h : crowd.Tidy) (callers : after.callers = crowd.callers)
    (worker : after.emitter.worker = crowd.emitter.worker)
    (running : after.emitter.isRunning = crowd.emitter.isRunning)
    (length : after.emitter.loops.length = crowd.emitter.loops.length)
    (old : ∀ (place : Nat) (loop : SendLoop), after.emitter.loops[place]? = some loop →
      loop.phase ≠ .ended →
      ∃ before, crowd.emitter.loops[place]? = some before ∧ before.phase ≠ .ended) :
    after.Tidy where
  older place loop here last := by
    by_contra alive
    obtain ⟨before, hbefore, alive⟩ := old place loop here alive
    exact alive (h.older place before hbefore (length ▸ last))
  kept place loop here alive := by
    obtain ⟨before, hbefore, alive⟩ := old place loop here alive
    rw [worker, callers]
    exact h.kept place before hbefore alive
  stopping stopped place loop here alive hworker := by
    obtain ⟨before, hbefore, alive⟩ := old place loop here alive
    rw [callers]
    exact h.stopping (running ▸ stopped) place before hbefore alive (worker ▸ hworker)

theorem Tidy.wake (h : crowd.Tidy) : Tidy { crowd with emitter := crowd.emitter.wake } := by
  obtain ⟨-, worker, running, -⟩ := crowd.emitter.wake_frame
  refine h.of_loops rfl worker running (Emitter.wake_length _) fun place loop here alive => ?_
  obtain ⟨before, hbefore, rfl | ⟨parked, -⟩⟩ := Emitter.of_wake_getElem? here
  · exact ⟨loop, hbefore, alive⟩
  · exact ⟨before, hbefore, (SendLoop.woken_phase parked).1⟩

theorem Tidy.start (h : crowd.Tidy) {hasRuntime : Bool} {emitter : Emitter}
    (started : crowd.emitter.start hasRuntime = .ok emitter)
    (apart : crowd.emitter.loops.length < emitter.loops.length →
      ∀ stage ∈ crowd.callers, stage.isEnding = false) :
    Tidy { crowd with emitter } := by
  obtain ⟨-, rfl⟩ | ⟨stopped, rfl⟩ := Stage.start_cases started
  · exact h
  · have more : crowd.emitter.loops.length < (crowd.emitter.loops ++ [SendLoop.new]).length := by simp
    -- no loop is alive: its stop would be under way
    have ended : ∀ (place : Nat) (loop : SendLoop), crowd.emitter.loops[place]? = some loop →
        loop.phase = .ended := by
      intro place loop here
      by_contra alive
      obtain ⟨stage, mem, ending⟩ := h.ending_of_alive stopped here alive
      rw [apart more stage mem] at ending
      cases ending
    have old {place : Nat} {loop : SendLoop} (before : place < crowd.emitter.loops.length)
        (here : (crowd.emitter.loops ++ [SendLoop.new])[place]? = some loop) : loop.phase = .ended :=
      ended place loop ((List.getElem?_append_left before).symm.trans here)
    refine ⟨fun place loop here last => ?_, fun place loop here alive => .inl ?_, nofun⟩
    · simp only [List.length_append, List.length_singleton] at last
      exact old (by omega) here
    · have inside := (List.getElem?_eq_some_iff.1 here).1
      rw [List.length_append, List.length_singleton] at inside
      have last : ¬place < crowd.emitter.loops.length := fun before => alive (old before here)
      exact congrArg some (by omega)

theorem mem_set_of_ne {callers : List Stage} {number : Nat} {before after stage : Stage}
    (here : callers[number]? = some before) (other : stage ≠ before) (mem : stage ∈ callers) :
    stage ∈ callers.set number after := by
  obtain ⟨place, hplace⟩ := List.mem_iff_getElem?.1 mem
  have apart : number ≠ place := by
    rintro rfl
    exact other (Option.some.inj (hplace.symm.trans here))
  exact List.mem_of_getElem? ((List.getElem?_set_ne apart).trans hplace)

/-- A caller who moves on without having waited for a loop, and still has the handle to take if it had. -/
theorem Tidy.toCaller {number : Nat} {before after : Stage} (h : crowd.Tidy)
    (here : crowd.callers[number]? = some before)
    (joined : ∀ (place : Nat) (loop : SendLoop), crowd.emitter.loops[place]? = some loop →
      loop.phase ≠ .ended → before ≠ .joining (some place))
    (taking : before = .signalling ∨ before = .taking →
      after = .signalling ∨ after = .taking) :
    Tidy { crowd with callers := crowd.callers.set number after } where
  older := h.older
  kept place loop hloop alive := (h.kept place loop hloop alive).imp_right
    (mem_set_of_ne here (Ne.symm (joined place loop hloop alive)))
  stopping stopped place loop hloop alive worker := by
    have inside := (List.getElem?_eq_some_iff.1 here).1
    have new : after ∈ crowd.callers.set number after := List.mem_set inside after
    by_cases own : before = .signalling ∨ before = .taking
    · obtain same | same := taking own
      · exact .inl (same ▸ new)
      · exact .inr (same ▸ new)
    · rw [not_or] at own
      exact (h.stopping stopped place loop hloop alive worker).imp
        (mem_set_of_ne here (Ne.symm own.1)) (mem_set_of_ne here (Ne.symm own.2))

theorem Tidy.caller (h : crowd.Tidy) {number : Nat} {hasRuntime : Bool} {before stage : Stage}
    {emitter : Emitter} (here : crowd.callers[number]? = some before)
    (step : before.step hasRuntime crowd.emitter = some (.ok (stage, emitter)))
    (apart : crowd.emitter.loops.length < emitter.loops.length →
      ∀ stage ∈ crowd.callers, stage.isEnding = false) :
    Tidy { crowd with emitter, callers := crowd.callers.set number stage } := by
  have inside := (List.getElem?_eq_some_iff.1 here).1
  cases Stage.steps_of_step step with
  | start _ stands started =>
    subst stands
    exact (h.start started apart).toCaller here (fun _ _ _ _ => nofun) nofun
  | register stands | hear _ stands =>
    subst stands
    exact h.toCaller here (fun _ _ _ _ => nofun) nofun
  | report stands =>
    subst stands
    have reported : Tidy { crowd with emitter := crowd.emitter.reportDrained } :=
      ⟨h.older, h.kept, h.stopping⟩
    exact reported.toCaller here (fun _ _ _ _ => nofun) nofun
  | wake _ stands =>
    subst stands
    exact h.wake.toCaller here (fun _ _ _ _ => nofun) nofun
  | signal stands =>
    subst stands
    exact h.wake.toCaller here (fun _ _ _ _ => nofun) fun _ => .inr rfl
  | clear stands =>
    subst stands
    refine ⟨h.older, fun place loop hloop alive => ?_, fun _ _ _ _ _ _ => .inl ?_⟩
    · exact (h.kept place loop hloop alive).imp_right (mem_set_of_ne here nofun)
    · exact List.mem_set inside _
  | take stands =>
    subst stands
    refine ⟨h.older, fun place loop hloop alive => .inr ?_, fun _ _ _ _ _ => nofun⟩
    obtain worker | joining := h.kept place loop hloop alive
    · rw [worker]
      exact List.mem_set inside _
    · exact mem_set_of_ne here nofun joining
  | join worker stands ended =>
    subst stands
    refine h.toCaller here (fun place loop hloop alive same => alive ?_) nofun
    cases same
    simpa [Emitter.hasEnded, hloop, SendLoop.hasEnded] using ended place rfl

theorem Tidy.take (h : crowd.Tidy) (move : Move)
    (apart : crowd.Spawns move → ∀ stage ∈ crowd.callers, stage.isEnding = false) :
    (crowd.take move).Tidy := by
  cases move with
  | start hasRuntime =>
    unfold Spawns at apart
    rw [Crowd.take] at apart ⊢
    split at apart
    · rename_i emitter started
      exact h.start started apart
    · exact h
  | flush | stop =>
    exact ⟨h.older, fun place loop hloop alive => (h.kept place loop hloop alive).imp_right
        (List.mem_append_left _), fun stopped place loop hloop alive worker =>
      (h.stopping stopped place loop hloop alive worker).imp (List.mem_append_left _)
        (List.mem_append_left _)⟩
  | caller number hasRuntime =>
    unfold Spawns at apart
    rw [Crowd.take] at apart ⊢
    split at apart
    · rename_i stage emitter step
      obtain ⟨before, here, step⟩ := Option.bind_eq_some_iff.1 step
      exact h.caller here step apart
    · exact h
  | wake => exact h.wake
  | world => exact ⟨h.older, h.kept, h.stopping⟩
  | loop place =>
    rw [Crowd.take]
    split
    · rename_i emitter surroundings stepped
      obtain ⟨loop, loop', signals, hloop, step, rfl⟩ := Emitter.stepLoop_eq_some stepped
      refine h.of_loops rfl rfl (SendLoop.step_running step) List.length_set ?_
      intro other found hfound alive
      by_cases here : other = place
      · subst here
        exact ⟨loop, hloop, SendLoop.step_not_ended step⟩
      · exact ⟨found, (List.getElem?_set_ne (Ne.symm here)).symm.trans hfound, alive⟩
    · exact h

theorem Tidy.run (h : crowd.Tidy) {moves : List Move} (apart : crowd.StartsApart moves) :
    (crowd.run moves).Tidy := by
  induction moves generalizing crowd with
  | nil => exact h
  | cons move rest ih => exact ih (h.take move apart.1) apart.2

theorem IsNew.tidy (h : crowd.IsNew) : crowd.Tidy := by
  obtain ⟨⟨url, method, settings, made⟩, -⟩ := h
  unfold Emitter.new at made
  have loops := (Scene.setRules_frame made).2.2
  dsimp only at loops
  have none : ∀ (place : Nat) (loop : SendLoop), crowd.emitter.loops[place]? ≠ some loop := by
    rw [loops]
    simp
  exact ⟨fun place loop here => absurd here (none place loop),
    fun place loop here => absurd here (none place loop),
    fun _ place loop here => absurd here (none place loop)⟩

/-- Started apart from stops, only the last loop begins rounds. Whenever a loop is started, an earlier one
can begin another round afterwards exactly if it is alive, and then a stop is under way. -/
theorem begins_again_iff {first : Crowd} {moves : List Move} (new : first.IsNew)
    (apart : first.StartsApart moves) :
    let crowd := first.run moves
    (∀ place, crowd.Begins place → place + 1 = crowd.emitter.loops.length) ∧
      (crowd.emitter.isRunning = false → ∀ place loop, crowd.emitter.loops[place]? = some loop →
        ((crowd.take (.start true)).CanBegin place ↔ loop.phase ≠ .ended) ∧
        (loop.phase ≠ .ended → ∃ stage ∈ crowd.callers, stage.isEnding = true)) := by
  intro crowd
  have tidy : crowd.Tidy := new.tidy.run apart
  constructor
  · rintro place ⟨-, loop, here, check⟩
    have inside := (List.getElem?_eq_some_iff.1 here).1
    by_contra notLast
    have ended := tidy.older place loop here (by omega)
    rw [check] at ended
    cases ended
  · intro stopped place loop here
    have started : crowd.emitter.start true = .ok { crowd.emitter with
        signals := { crowd.emitter.signals with running := true }
        loops := crowd.emitter.loops ++ [SendLoop.new]
        worker := some crowd.emitter.loops.length } := by
      rw [Emitter.start, stopped, if_neg Bool.false_ne_true, if_pos rfl]
    have taken : crowd.take (.start true) = { crowd with emitter := { crowd.emitter with
        signals := { crowd.emitter.signals with running := true }
        loops := crowd.emitter.loops ++ [SendLoop.new]
        worker := some crowd.emitter.loops.length } } := by
      rw [take, started]
    have still : (crowd.take (.start true)).emitter.loops[place]? = some loop := by
      rw [taken]
      exact start_getElem? started here
    refine ⟨⟨fun canBegin ended => not_canBegin_of_ended still ended canBegin, fun alive => ?_⟩,
      tidy.ending_of_alive stopped here⟩
    refine canBegin_of_alive ?_ still alive
    rw [taken]
    rfl

def plain : Crowd := ⟨Scene.plain.emitter, Scene.plain.surroundings, []⟩

theorem plain_new : plain.IsNew := by
  obtain ⟨url, method, settings, made, -⟩ := Scene.plain_isNew.made
  exact ⟨⟨url, method, settings, made⟩, rfl⟩

def stopping : List Move := [.start true, .loop 0, .stop, .caller 0 true]

theorem stopped_loop_begins_again : (plain.run (stopping ++ [.start true])).CanBegin 0 ∧
    ∃ stage ∈ (plain.run stopping).callers, stage.isEnding = true := by
  have apart : plain.StartsApart stopping := by
    refine ⟨fun _ _ => nofun, fun _ _ => nofun, fun _ _ => nofun, fun _ stage mem => ?_, trivial⟩
    cases List.mem_singleton.1 mem
    rfl
  obtain ⟨again, ending⟩ := (begins_again_iff plain_new apart).2 rfl 0 ⟨.reading, 0⟩ rfl
  exact ⟨again.2 nofun, ending nofun⟩

theorem not_one_loop : ¬∀ (first : Crowd) (moves : List Move) (place : Nat), first.IsNew →
    (first.run moves).Begins place → place + 1 = (first.run moves).emitter.loops.length := by
  intro law
  -- the loop reads on, finds nothing and rests; the stop wakes it, and the flag is set again
  have begins : (plain.run (stopping ++
      [.start true, .loop 0, .loop 0, .loop 0, .caller 0 true])).Begins 0 := ⟨rfl, _, rfl, rfl⟩
  exact absurd (law plain _ 0 plain_new begins) (by decide)

end Crowd

end Telemetry.Delivery

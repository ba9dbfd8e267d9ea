import Telemetry.Proofs.Delivery.Turns

set_option autoImplicit false

/-!
What a flush leaves behind. It returns once a loop has reported an empty queue, and a loop does so after a
read that failed, or after one that is older than the flush.
-/

namespace Telemetry.Delivery

open Store (Database EventRow Row)

namespace Scene

def Throughout (P : Scene → Prop) : Scene → List Turn → Prop
  | scene, [] => P scene
  | scene, turn :: rest => P scene ∧ Throughout P (scene.take turn) rest

def EachTurn (P : Scene → Turn → Prop) : Scene → List Turn → Prop
  | _, [] => True
  | scene, turn :: rest => P scene turn ∧ EachTurn P (scene.take turn) rest

def Keeps (id : Int) (scene : Scene) : Prop := ∃ row ∈ scene.db.keptRows, row.id = id

/-- Whether a turn is not a read that fails. -/
def ReadsWell (scene : Scene) (turn : Turn) : Prop :=
  ∀ place loop, turn = .loop place → scene.emitter.loops[place]? = some loop →
    loop.phase = .reading →
      ∃ rows, (scene.db.batch scene.emitter.policy.settings.batchSize).1 = .ok rows

/-- Whether the call that is under way can return while an event is kept all along, in a run of permitted
turns. -/
def CanReturn (permitted : Scene → Turn → Prop) (id : Int) (scene : Scene) : Prop :=
  ∃ turns, Throughout (Keeps id) scene turns ∧ EachTurn permitted scene turns ∧
    (scene.run turns).caller = .done

/-- Whether some loop is about to report an empty queue. -/
def IsDraining (scene : Scene) : Prop := ∃ loop ∈ scene.emitter.loops, loop.phase = .draining

variable {scene : Scene} {id : Int}

structure Waits (scene : Scene) : Prop where
  calm : ¬scene.IsDraining
  early : scene.caller = .starting ∨ scene.caller = .registering ∨
    ∃ ticket, scene.emitter.signals.drains ≤ ticket ∧
      (scene.caller = .waking ticket ∨ scene.caller = .awaiting ticket)

theorem Waits.not_done (h : scene.Waits) : scene.caller ≠ .done := by
  obtain stage | stage | ⟨ticket, -, stage | stage⟩ := h.early <;> rw [stage] <;> exact nofun

theorem isDraining_iff : ¬scene.IsDraining ↔ ∀ loop ∈ scene.emitter.loops, loop.phase ≠ .draining := by
  simp [IsDraining]

theorem wake_calm {emitter : Emitter} (h : ∀ loop ∈ emitter.loops, loop.phase ≠ .draining) :
    ∀ loop ∈ emitter.wake.loops, loop.phase ≠ .draining := by
  intro loop hloop
  obtain ⟨place, hplace⟩ := List.mem_iff_getElem?.1 hloop
  obtain ⟨before, hbefore, rfl | ⟨parked, rfl⟩⟩ := Emitter.of_wake_getElem? hplace
  · exact h loop (List.mem_of_getElem? hbefore)
  · exact (SendLoop.woken_phase parked).2.2.2

theorem Waits.caller (h : scene.Waits) {hasRuntime : Bool} {caller : Stage} {emitter : Emitter}
    (step : scene.caller.step hasRuntime scene.emitter = some (.ok (caller, emitter))) :
    Waits { scene with caller, emitter } := by
  have calm := isDraining_iff.1 h.calm
  have early := h.early
  cases Stage.steps_of_step step with
  | start _ _ started =>
    refine ⟨isDraining_iff.2 ?_, .inr (.inl rfl)⟩
    obtain ⟨-, rfl⟩ | ⟨-, rfl⟩ := Stage.start_cases started
    · exact calm
    · intro loop hloop
      rcases List.mem_append.1 hloop with old | new
      · exact calm loop old
      · cases List.mem_singleton.1 new
        exact nofun
  | register => exact ⟨h.calm, .inr (.inr ⟨_, Nat.le_refl _, .inl rfl⟩)⟩
  | wake ticket stage =>
    obtain ⟨-, -, -, drains⟩ := scene.emitter.wake_frame
    simp only [stage, reduceCtorEq, false_or, Stage.waking.injEq, or_false] at early
    obtain ⟨_, unreported, rfl⟩ := early
    exact ⟨isDraining_iff.2 (wake_calm calm), .inr (.inr ⟨ticket, drains ▸ unreported, .inr rfl⟩)⟩
  | hear ticket stage reported =>
    simp only [stage, reduceCtorEq, false_or, Stage.awaiting.injEq] at early
    obtain ⟨_, unreported, rfl⟩ := early
    exact absurd reported (Nat.not_lt.2 unreported)
  | clear stage | signal stage | take stage | join _ stage | report stage =>
    simp [stage] at early

theorem Waits.loop (h : scene.Waits) (orderly : scene.Orderly) {place : Nat} {emitter : Emitter}
    {s : Surroundings}
    (stepped : scene.emitter.stepLoop place scene.surroundings = some (emitter, s))
    (well : scene.ReadsWell (.loop place))
    (kept : Keeps id { scene with emitter, surroundings := s }) :
    Waits { scene with emitter, surroundings := s } := by
  have calm := isDraining_iff.1 h.calm
  obtain ⟨loop, loop', signals, hloop, step, rfl⟩ := take_loop stepped
  have before := calm loop (List.mem_of_getElem? hloop)
  have drains := SendLoop.step_drains step before
  refine ⟨isDraining_iff.2 fun other hother => ?_, ?_⟩
  · rcases List.mem_or_eq_of_mem_set hother with old | rfl
    · exact calm other old
    · intro draining
      obtain ⟨reading, none, rfl⟩ := SendLoop.step_draining step draining
      obtain ⟨rows, found⟩ := well place loop rfl hloop reading
      obtain ⟨row, hrow, -⟩ := kept
      have empty := SendLoop.read_empty orderly.batch.1 orderly.batch.2 found none
      rw [db, empty] at hrow
      cases hrow
  · simpa only [drains] using h.early

theorem Waits.take (h : scene.Waits) (orderly : scene.Orderly) {turn : Turn}
    (well : scene.ReadsWell turn) (kept : (scene.take turn).Keeps id) : (scene.take turn).Waits := by
  have idle : ∀ stage, scene.call? stage = scene := fun stage => if_neg h.not_done
  cases turn with
  | caller hasRuntime =>
    rw [Scene.take]
    split
    · rename_i caller emitter step
      exact h.caller step
    · exact h
  | loop place =>
    rw [Scene.take] at kept ⊢
    split at kept
    · rename_i emitter s stepped
      exact h.loop orderly stepped well kept
    · exact h
  | pass ms => exact ⟨h.calm, h.early⟩
  | add payload =>
    rw [Scene.take, Emitter.add]
    cases added : scene.db.add payload with
    | error cause => exact h
    | ok db =>
      obtain ⟨-, -, -, drains⟩ := scene.emitter.wake_frame
      refine ⟨isDraining_iff.2 (wake_calm (isDraining_iff.1 h.calm)),
        h.early.imp_right (.imp_right fun waits => ?_)⟩
      obtain ⟨ticket, unreported, stage⟩ := waits
      exact ⟨ticket, drains ▸ unreported, stage⟩
  | start hasRuntime =>
    rw [Scene.take, if_neg h.not_done]
    exact h
  | flush =>
    rw [Scene.take, idle]
    exact h
  | stop =>
    rw [Scene.take, idle]
    exact h
  | hide =>
    rw [Scene.take]
    cases scene.db.hide? .events with
    | none => exact h
    | some db => exact ⟨h.calm, h.early⟩
  | restore =>
    rw [Scene.take]
    cases scene.db.restore? .events with
    | none => exact h
    | some db => exact ⟨h.calm, h.early⟩

/-- While no read fails, a flush waits until the event is gone. -/
theorem Waits.run (h : scene.Waits) (orderly : scene.Orderly) {turns : List Turn}
    (kept : Throughout (Keeps id) scene turns) (well : EachTurn ReadsWell scene turns) :
    (scene.run turns).Waits := by
  induction turns generalizing scene with
  | nil => exact h
  | cons turn rest ih =>
    have next : (scene.take turn).Keeps id := by
      cases rest with
      | nil => exact kept.2
      | cons _ _ => exact kept.2.1
    exact ih (h.take orderly well.1 next) (orderly.take turn) kept.2 well.2

section Returning

variable {permitted : Scene → Turn → Prop}

theorem CanReturn.of_take {turn : Turn} (kept : scene.Keeps id) (may : permitted scene turn)
    (h : CanReturn permitted id (scene.take turn)) : CanReturn permitted id scene := by
  obtain ⟨turns, through, each, done⟩ := h
  exact ⟨turn :: turns, ⟨kept, through⟩, ⟨may, each⟩, done⟩

theorem CanReturn.of_done (kept : scene.Keeps id) (done : scene.caller = .done) :
    CanReturn permitted id scene :=
  ⟨[], kept, trivial, done⟩

structure Lenient (permitted : Scene → Turn → Prop) : Prop where
  caller : ∀ scene hasRuntime, permitted scene (.caller hasRuntime)
  loop : ∀ (scene : Scene) (place : Nat) (loop : SendLoop),
    scene.emitter.loops[place]? = some loop → loop.phase ≠ .reading →
      permitted scene (.loop place)

theorem CanReturn.of_caller {caller : Stage} {emitter : Emitter} (lenient : Lenient permitted)
    (kept : scene.Keeps id)
    (step : scene.caller.step true scene.emitter = some (.ok (caller, emitter)))
    (h : CanReturn permitted id { scene with caller, emitter }) : CanReturn permitted id scene := by
  refine .of_take kept (lenient.caller scene true) ?_
  rwa [take, step]

theorem CanReturn.of_loop {place : Nat} {loop loop' : SendLoop} {signals : Signals}
    (may : permitted scene (.loop place)) (kept : scene.Keeps id)
    (hloop : scene.emitter.loops[place]? = some loop)
    (step : loop.step scene.emitter.policy scene.emitter.signals scene.surroundings =
      some (loop', signals, scene.surroundings))
    (h : CanReturn permitted id { scene with emitter :=
      { scene.emitter with signals, loops := scene.emitter.loops.set place loop' } }) :
    CanReturn permitted id scene := by
  refine .of_take kept may ?_
  have stepped : scene.emitter.stepLoop place scene.surroundings =
      some ({ scene.emitter with signals, loops := scene.emitter.loops.set place loop' },
        scene.surroundings) := by
    simp [Emitter.stepLoop, hloop, step]
  rwa [take, stepped]

theorem step_joining {emitter : Emitter} {place : Nat} {loop : SendLoop}
    (h : emitter.loops[place]? = some loop) (ended : loop.phase = .ended) :
    Stage.step true (.joining (some place)) emitter = some (.ok (.reporting, emitter)) := by
  simp [Stage.step, Emitter.hasEnded, h, SendLoop.hasEnded, ended]

/-- Once a loop reports, a flush that waits for it returns, whatever the queue holds by now. -/
theorem canReturn_of_draining {place : Nat} {loop : SendLoop} (lenient : Lenient permitted)
    (kept : scene.Keeps id) (hloop : scene.emitter.loops[place]? = some loop)
    (draining : loop.phase = .draining) (worker : scene.emitter.worker = some place)
    (unparked : ∀ loop ∈ scene.emitter.loops, loop.isParked = false)
    (stage : scene.caller = .awaiting scene.emitter.signals.drains) :
    CanReturn permitted id scene := by
  obtain ⟨⟨policy, ⟨running, wake, drains⟩, loops, _⟩, s, _⟩ := scene
  obtain ⟨_, failures⟩ := loop
  dsimp only at hloop draining worker unparked stage
  subst worker stage draining
  have inside := (List.getElem?_eq_some_iff.1 hloop).1
  have unparked' : ∀ other ∈ loops.set place ⟨.pausing, failures⟩, other.isParked = false := by
    intro other hother
    rcases List.mem_or_eq_of_mem_set hother with old | rfl
    · exact unparked other old
    · rfl
  have pausing : (loops.set place ⟨.pausing, failures⟩)[place]? = some ⟨.pausing, failures⟩ :=
    List.getElem?_set_self inside
  have checking : ((loops.set place ⟨.pausing, failures⟩).set place
      ⟨.checking, failures⟩)[place]? = some ⟨.checking, failures⟩ :=
    List.getElem?_set_self (by simpa using inside)
  have ended : (((loops.set place ⟨.pausing, failures⟩).set place ⟨.checking, failures⟩).set place
      ⟨.ended, failures⟩)[place]? = some ⟨.ended, failures⟩ :=
    List.getElem?_set_self (by simpa using inside)
  -- the loop reports, and the caller asks it to end
  refine .of_loop (lenient.loop _ _ _ hloop nofun) kept hloop rfl ?_
  refine .of_caller lenient kept (by simp only [Stage.step, Nat.lt_succ_self, if_true]; rfl) ?_
  refine .of_caller lenient kept rfl ?_
  refine .of_caller lenient kept rfl ?_
  rw [Emitter.wake_of_none_parked unparked']
  refine .of_caller lenient kept rfl ?_
  -- which it does, without another look at the queue
  refine .of_loop (lenient.loop _ _ _ pausing nofun) kept pausing rfl ?_
  refine .of_loop (lenient.loop _ _ _ checking nofun) kept checking rfl ?_
  refine .of_caller lenient kept (step_joining ended rfl) ?_
  refine .of_caller lenient kept rfl ?_
  exact .of_done kept rfl

/-- A loop that is about to report when a flush begins has read before. -/
theorem canReturn_of_isDraining (orderly : scene.Orderly) (lenient : Lenient permitted)
    (idle : scene.caller = .done) (kept : scene.Keeps id) (h : scene.IsDraining) :
    CanReturn permitted id (scene.take .flush) := by
  obtain ⟨loop, hloop, draining⟩ := h
  obtain ⟨place, hplace⟩ := List.mem_iff_getElem?.1 hloop
  have living : loop.phase ≠ .ended := by rw [draining]; exact nofun
  have running : scene.emitter.isRunning := by
    by_contra stopped
    exact living (orderly.stopped (by rw [idle]; rfl) (Bool.eq_false_iff.2 stopped) loop hloop)
  have own : scene.custody = some place := by
    by_contra apart
    exact living (orderly.others place loop hplace apart)
  have worker : scene.emitter.worker = some place := by simpa [custody, idle] using own
  have unparked : ∀ other ∈ scene.emitter.loops, other.isParked = false := by
    intro other hother
    obtain ⟨q, hq⟩ := List.mem_iff_getElem?.1 hother
    by_cases here : q = place
    · subst here
      cases hplace.symm.trans hq
      rw [SendLoop.isParked, draining]
    · have ended := orderly.others q other hq fun same =>
        here (Option.some.inj (same.symm.trans own))
      rw [SendLoop.isParked, ended]
  rw [take_flush idle]
  refine .of_caller lenient kept
    (by simp only [Stage.step, Emitter.start, running, if_true]; rfl) ?_
  refine .of_caller lenient kept rfl ?_
  refine .of_caller lenient kept rfl ?_
  rw [Emitter.wake_of_none_parked (by exact unparked)]
  exact canReturn_of_draining lenient kept hplace draining worker unparked rfl

theorem take_hide (scene : Scene) (single : scene.db.isOpen → scene.db.events.aside = none) :
    ∃ db, scene.take .hide = scene.setDb db ∧ db.isOpen = false ∧
      db.keptRows = scene.db.keptRows := by
  cases hidden : scene.db.hide? .events with
  | some db =>
    obtain ⟨kept, closed⟩ := Database.hide_spec hidden
    exact ⟨db, by rw [take, hidden]; rfl, closed, kept⟩
  | none =>
    refine ⟨scene.db, by rw [take, hidden]; rfl, ?_, rfl⟩
    by_contra opened
    rw [Bool.not_eq_false] at opened
    obtain ⟨table, present⟩ := Database.isOpen_iff.1 opened
    have aside := single opened
    simp [Database.hide?, Store.Shelf.putAside?, present, aside] at hidden

theorem take_restore (scene : Scene) :
    ∃ db, scene.take .restore = scene.setDb db ∧ db.keptRows = scene.db.keptRows := by
  cases restored : scene.db.restore? .events with
  | some db => exact ⟨db, by rw [take, restored]; rfl, (Database.restore_spec restored).1⟩
  | none => exact ⟨scene.db, by rw [take, restored]; rfl, rfl⟩

def inFlush (policy : Policy) (drains : Nat) (loops : List SendLoop) (phase : Phase)
    (s : Surroundings) : Scene where
  emitter :=
    { policy, signals := ⟨true, true, drains⟩, loops := loops ++ [⟨phase, 0⟩]
      worker := some loops.length }
  surroundings := s
  caller := .awaiting drains

theorem inFlush_step {policy : Policy} {drains : Nat} {loops : List SendLoop}
    {phase phase' : Phase} {s s' : Surroundings}
    (h : SendLoop.step policy ⟨phase, 0⟩ ⟨true, true, drains⟩ s =
      some (⟨phase', 0⟩, ⟨true, true, drains⟩, s')) :
    (inFlush policy drains loops phase s).take (.loop loops.length) =
      inFlush policy drains loops phase' s' := by
  simp [take, inFlush, Emitter.stepLoop, h]

/-- When its first read fails, a flush of an emitter at rest returns. -/
theorem canReturn_of_failed_read (orderly : scene.Orderly) (free : ∀ scene turn, permitted scene turn)
    (idle : scene.caller = .done) (kept : scene.Keeps id)
    (stopped : scene.emitter.isRunning = false) : CanReturn permitted id (scene.take .flush) := by
  have lenient : Lenient permitted := ⟨fun _ _ => free _ _, fun _ _ _ _ _ => free _ _⟩
  have none := orderly.stopped (by rw [idle]; rfl) stopped
  have single := orderly.single
  obtain ⟨⟨policy, ⟨running, wake, drains⟩, loops, worker⟩, s, _⟩ := scene
  dsimp only [Emitter.isRunning] at idle stopped none
  subst idle stopped
  have unparked : ∀ phase : Phase, (SendLoop.mk phase 0).isParked = false →
      ∀ loop ∈ loops ++ [⟨phase, 0⟩], loop.isParked = false := by
    intro phase parked loop hloop
    rcases List.mem_append.1 hloop with old | new
    · rw [SendLoop.isParked, none loop old]
    · cases List.mem_singleton.1 new
      exact parked
  -- the loop starts
  suffices h : CanReturn permitted id (inFlush policy drains loops .checking s) by
    refine .of_caller lenient kept rfl (.of_caller lenient kept rfl (.of_caller lenient kept rfl ?_))
    rw [Emitter.wake_of_none_parked (by exact unparked .checking rfl)]
    exact h
  have started : (inFlush policy drains loops .checking s).take (.loop loops.length) =
      inFlush policy drains loops .reading s := inFlush_step rfl
  refine .of_take kept (free _ (.loop loops.length)) (started ▸ ?_)
  -- the queue is out of reach while the loop reads
  obtain ⟨db, hidden, closed, same⟩ := take_hide (inFlush policy drains loops .reading s) single
  refine .of_take kept (free _ .hide) (hidden ▸ ?_)
  have kept' : Keeps id (inFlush policy drains loops .draining { s with db }) := by
    obtain ⟨row, hrow, hid⟩ := kept
    exact ⟨row, same ▸ hrow, hid⟩
  have failed : (inFlush policy drains loops .reading { s with db }).take (.loop loops.length) =
      inFlush policy drains loops .draining { s with db } := by
    refine inFlush_step ?_
    simp only [SendLoop.step, SendLoop.read, Database.batch_of_not_isOpen closed]
  refine .of_take kept' (free _ (.loop loops.length)) (failed ▸ ?_)
  obtain ⟨db', restored, same'⟩ := take_restore (inFlush policy drains loops .draining { s with db })
  refine .of_take kept' (free _ .restore) (restored ▸ ?_)
  have kept'' : Keeps id (inFlush policy drains loops .draining { s with db := db' }) := by
    obtain ⟨row, hrow, hid⟩ := kept'
    exact ⟨row, same' ▸ hrow, hid⟩
  exact canReturn_of_draining lenient kept'' List.getElem?_concat_length rfl rfl
    (unparked .draining rfl) rfl

end Returning

theorem lenient_readsWell : Lenient ReadsWell where
  caller _ _ _ _ turn := by cases turn
  loop scene place loop hloop phase _ _ turn hloop' reading := by
    cases turn
    cases hloop.symm.trans hloop'
    exact absurd reading phase

/-- What a flush may leave in the queue. As long as reads succeed, it can return before an event is gone that
was queued when it began if and only if a loop was about to report an empty queue at that time. When a read
fails, it can do so also if no loop was there at all. -/
theorem flush_leaves_iff (reachable : scene.Reachable) (idle : scene.caller = .done)
    (kept : scene.Keeps id) :
    (CanReturn ReadsWell id (scene.take .flush) ↔ scene.IsDraining) ∧
    (scene.emitter.isRunning = false → CanReturn (fun _ _ => True) id (scene.take .flush)) := by
  have orderly := reachable.orderly
  refine ⟨⟨fun ⟨turns, through, well, done⟩ => ?_, canReturn_of_isDraining orderly
    lenient_readsWell idle kept⟩, canReturn_of_failed_read orderly (fun _ _ => trivial) idle kept⟩
  by_contra calm
  have waits : (scene.take .flush).Waits := by
    rw [take_flush idle]
    exact ⟨calm, .inl rfl⟩
  exact (waits.run (orderly.take .flush) through well).not_done done

def stocked : Scene := plain.run [.add (.ofPairs [("e", "pv")])]

def overtaken : Scene :=
  plain.run [.start true, .loop 0, .loop 0, .add (.ofPairs [("e", "pv")])]

theorem stocked_facts : stocked.Reachable ∧ stocked.caller = .done ∧ stocked.Keeps 1 ∧
    stocked.emitter.isRunning = false ∧ stocked.emitter.loops = [] := by
  refine ⟨⟨plain, _, plain_isNew, rfl⟩, ?_, ?_, ?_, ?_⟩
  · decide +kernel
  · change ∃ row ∈ stocked.db.keptRows, row.id = 1
    decide +kernel
  · decide +kernel
  · decide +kernel

theorem overtaken_facts : overtaken.Reachable ∧ overtaken.caller = .done ∧ overtaken.Keeps 1 ∧
    overtaken.IsDraining := by
  refine ⟨⟨plain, _, plain_isNew, rfl⟩, ?_, ?_, ?_⟩
  · decide +kernel
  · change ∃ row ∈ overtaken.db.keptRows, row.id = 1
    decide +kernel
  · change ∃ loop ∈ overtaken.emitter.loops, loop.phase = .draining
    decide +kernel

theorem flush_not_exhaustive : ¬∀ (scene : Scene) (id : Int), scene.Reachable →
    scene.caller = .done → scene.Keeps id → ¬CanReturn (fun _ _ => True) id (scene.take .flush) := by
  intro exhaustive
  obtain ⟨reachable, idle, kept, stopped, -⟩ := stocked_facts
  exact exhaustive stocked 1 reachable idle kept
    (canReturn_of_failed_read reachable.orderly (fun _ _ => trivial) idle kept stopped)

theorem flush_leaves_overtaken : CanReturn ReadsWell 1 (overtaken.take .flush) ∧
    ¬CanReturn ReadsWell 1 (stocked.take .flush) ∧
    CanReturn (fun _ _ => True) 1 (stocked.take .flush) := by
  obtain ⟨reachable, idle, kept, draining⟩ := overtaken_facts
  obtain ⟨reachable', idle', kept', stopped, none⟩ := stocked_facts
  have failed := flush_leaves_iff reachable' idle' kept'
  refine ⟨(flush_leaves_iff reachable idle kept).1.2 draining, fun returns => ?_, failed.2 stopped⟩
  obtain ⟨loop, hloop, -⟩ := failed.1.1 returns
  rw [none] at hloop
  cases hloop

end Scene

end Telemetry.Delivery

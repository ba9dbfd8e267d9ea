import Telemetry.Proofs.Delivery.Progress
import Telemetry.Proofs.Delivery.Turns

set_option autoImplicit false

namespace Telemetry.Delivery

open Store (Database)

def Turn.isOwn : Turn → Bool
  | .caller hasRuntime => hasRuntime
  | .loop _ => true
  | .pass _ => true
  | _ => false

def Stage.isUp : Stage → Bool
  | .registering => true
  | .waking _ => true
  | .awaiting _ => true
  | .clearing => true
  | _ => false

def Stage.isPast : Stage → Bool
  | .clearing => true
  | .signalling => true
  | .taking => true
  | .joining _ => true
  | .reporting => true
  | .done => true
  | _ => false

namespace Scene

/-- A flush of a queue within reach, with a loop at a place of which it is the only one alive. -/
structure Flushing (place : Nat) (scene : Scene) : Prop where
  orderly : scene.Orderly
  opened : scene.db.isOpen
  text : ∀ row ∈ scene.db.rows, row.isBlob = false
  fits : scene.emitter.policy.Fits scene.db
  alone : ∀ (q : Nat) (loop : SendLoop), scene.emitter.loops[q]? = some loop → q ≠ place →
    loop.phase = .ended
  next : scene.caller = .starting → scene.emitter.isRunning = false →
    scene.emitter.loops.length = place
  up : scene.caller.isUp → scene.emitter.isRunning
  down : scene.caller = .done → scene.emitter.isRunning = false

structure Truthful (scene : Scene) : Prop where
  found : ∀ loop ∈ scene.emitter.loops, loop.phase = .draining → scene.db.rows = []
  heard : ∀ ticket, scene.caller = .waking ticket ∨ scene.caller = .awaiting ticket →
    scene.emitter.signals.drains = ticket ∨ scene.db.rows = []
  past : scene.caller.isPast → scene.db.rows = []

variable {scene : Scene} {place : Nat}

/-- A turn of the caller or of a loop is a step of it, if anything. -/
@[elab_as_elim]
theorem take_own {motive : Scene → Prop} {turn : Turn} (own : turn.isOwn) (stay : motive scene)
    (caller : ∀ caller emitter, scene.caller.step true scene.emitter = some (.ok (caller, emitter)) →
      motive { scene with caller, emitter })
    (loop : ∀ place emitter s, scene.emitter.stepLoop place scene.surroundings = some (emitter, s) →
      motive { scene with emitter, surroundings := s })
    (pass : ∀ ms, motive (scene.take (.pass ms))) : motive (scene.take turn) := by
  cases turn with
  | caller hasRuntime =>
    obtain rfl : hasRuntime = true := own
    rw [take]
    split
    · rename_i next emitter step
      exact caller next emitter step
    · exact stay
  | loop place =>
    rw [take]
    split
    · rename_i emitter s stepped
      exact loop place emitter s stepped
    · exact stay
  | pass ms => exact pass ms
  | _ => cases own

theorem Flushing.caller (h : scene.Flushing place) {caller : Stage} {emitter : Emitter}
    (step : scene.caller.step true scene.emitter = some (.ok (caller, emitter))) :
    Flushing place { scene with caller, emitter } := by
  refine ⟨h.orderly.caller step, h.opened, h.text, Stage.step_policy step ▸ h.fits, ?alone, ?next,
    ?up, ?down⟩
  case alone =>
    intro q loop hloop hq
    obtain ⟨before, hbefore, rfl | ⟨parked, rfl⟩⟩ | ⟨stage, stopped, rfl, rfl⟩ :=
      Stage.of_step_getElem? step hloop
    · exact h.alone q loop hbefore hq
    · exact absurd (h.alone q before hbefore hq) (SendLoop.woken_phase parked).1
    · exact absurd (h.next stage stopped) hq
  case next =>
    intro stage
    cases Stage.steps_of_step step <;> cases stage
  case up =>
    cases Stage.steps_of_step step with
    | start _ _ started =>
      obtain ⟨running, rfl⟩ | ⟨-, rfl⟩ := Stage.start_cases started
      · exact fun _ => running
      · exact fun _ => rfl
    | register stage | hear _ stage => exact fun _ => h.up (by rw [stage]; rfl)
    | wake _ stage =>
      have running := h.up (by rw [stage]; rfl)
      exact fun _ => scene.emitter.wake_frame.2.2.1.trans running
    | _ => exact nofun
  case down =>
    cases Stage.steps_of_step step with
    | report stage => exact fun _ => h.orderly.ending (by rw [stage]; rfl)
    | _ => exact nofun

theorem Flushing.take_loop (h : scene.Flushing place) {q : Nat} {emitter : Emitter}
    {s : Surroundings}
    (stepped : scene.emitter.stepLoop q scene.surroundings = some (emitter, s)) :
    q = place ∧ ∃ loop loop' signals, scene.emitter.loops[place]? = some loop ∧
      loop.step scene.emitter.policy scene.emitter.signals scene.surroundings =
        some (loop', signals, s) ∧
      emitter = { scene.emitter with signals, loops := scene.emitter.loops.set place loop' } := by
  obtain ⟨loop, loop', signals, hloop, step, rfl⟩ := Scene.take_loop stepped
  have here : q = place := by
    by_contra apart
    exact SendLoop.step_not_ended step (h.alone q loop hloop apart)
  exact ⟨here, loop, loop', signals, here ▸ hloop, step, here ▸ rfl⟩

theorem Flushing.loop (h : scene.Flushing place) {q : Nat} {emitter : Emitter} {s : Surroundings}
    (stepped : scene.emitter.stepLoop q scene.surroundings = some (emitter, s)) :
    Flushing place { scene with emitter, surroundings := s } := by
  have orderly := h.orderly.loop stepped
  obtain ⟨rfl, loop, loop', signals, hloop, step, rfl⟩ := h.take_loop stepped
  have running := SendLoop.step_running step
  have fewer := SendLoop.step_rows_sublist step
  refine ⟨orderly, (SendLoop.step_sameElse step).2.2.trans h.opened,
    fun row hrow => h.text row (fewer.subset hrow),
    h.fits.imp_right (Nat.le_trans fewer.length_le),
    fun p other hother apart => ?_, fun stage stopped => ?_, fun stage => running.trans (h.up stage),
    fun stage => running.trans (h.down stage)⟩
  · exact h.alone p other ((List.getElem?_set_ne (Ne.symm apart)).symm.trans hother) apart
  · rw [List.length_set]
    exact h.next stage (running.symm.trans stopped)

theorem Flushing.take (h : scene.Flushing place) {turn : Turn} (own : turn.isOwn) :
    (scene.take turn).Flushing place := by
  refine take_own own h (fun _ _ => h.caller) (fun _ _ _ => h.loop) fun ms => ?_
  exact ⟨h.orderly.take _, h.opened, h.text, h.fits, h.alone, h.next, h.up, h.down⟩

theorem Orderly.flushing (h : scene.Orderly) (idle : scene.caller = .done) (opened : scene.db.isOpen)
    (text : ∀ row ∈ scene.db.rows, row.isBlob = false)
    (fits : scene.emitter.policy.Fits scene.db) :
    ∃ place, (scene.take .flush).Flushing place := by
  have orderly := h.take .flush
  rw [take_flush idle] at orderly ⊢
  cases running : scene.emitter.isRunning with
  | true =>
    obtain ⟨place, loop, worker, -, -⟩ := h.alive running
    have custody : scene.custody = some place := by rw [Scene.custody, idle, ← worker]
    refine ⟨place, orderly, opened, text, fits, fun q other hother apart => ?_, fun _ stopped => ?_,
      fun up => absurd up Bool.false_ne_true, Stage.noConfusion⟩
    · refine h.others q other hother fun same => apart ?_
      exact Option.some.inj (same.symm.trans custody)
    · exact absurd (running.symm.trans stopped) (by decide)
  | false =>
    refine ⟨scene.emitter.loops.length, orderly, opened, text, fits, fun q other hother _ => ?_,
      fun _ _ => rfl, fun up => absurd up Bool.false_ne_true, Stage.noConfusion⟩
    exact h.stopped (by rw [idle]; rfl) running other (List.mem_of_getElem? hother)

/-- Whether a loop is about to read a batch that is empty. -/
def ReadsNothing (place : Nat) (scene : Scene) : Prop :=
  ∃ loop, scene.emitter.loops[place]? = some loop ∧ loop.phase = .reading ∧
    (SendLoop.read scene.emitter.policy scene.surroundings).1 = []

theorem Flushing.rows_of_read (h : scene.Flushing place)
    (none : (SendLoop.read scene.emitter.policy scene.surroundings).1 = []) :
    (SendLoop.read scene.emitter.policy scene.surroundings).2.db.rows = [] := by
  obtain ⟨rows, well⟩ := Database.batch_ok h.fits h.opened h.text
  have opened := (SendLoop.read_trims scene.emitter.policy scene.surroundings).same.2.2.trans h.opened
  rw [← Database.keptRows_of_isOpen opened]
  exact SendLoop.read_empty h.orderly.batch.1 h.orderly.batch.2 well none

theorem Flushing.rows_of_readsNothing (h : scene.Flushing place) {q : Nat}
    (nothing : scene.ReadsNothing q) : (scene.take (.loop q)).db.rows = [] := by
  obtain ⟨loop, hloop, reading, none⟩ := nothing
  have empty := h.rows_of_read none
  rcases found : SendLoop.read scene.emitter.policy scene.surroundings with ⟨rows, s⟩
  rw [found] at none empty
  cases none
  simp only [Scene.take, Emitter.stepLoop, hloop, SendLoop.step, reading, found, Option.bind_some,
    Option.map_some]
  exact empty

theorem Truthful.caller (h : scene.Truthful) {caller : Stage} {emitter : Emitter}
    (step : scene.caller.step true scene.emitter = some (.ok (caller, emitter))) :
    Truthful { scene with caller, emitter } := by
  refine ⟨fun loop hloop draining => ?found, fun ticket waits => ?heard, ?past⟩
  case found =>
    obtain ⟨q, hq⟩ := List.mem_iff_getElem?.1 hloop
    obtain ⟨before, hbefore, rfl | ⟨parked, rfl⟩⟩ | ⟨-, -, -, rfl⟩ :=
      Stage.of_step_getElem? step hq
    · exact h.found loop (List.mem_of_getElem? hbefore) draining
    · exact absurd draining (SendLoop.woken_phase parked).2.2.2
    · cases draining
  case heard =>
    cases Stage.steps_of_step step with
    | register =>
      left
      simpa using waits
    | wake ticket' stage =>
      obtain rfl : ticket' = ticket := by simpa using waits
      exact (h.heard ticket' (.inl stage)).imp_left scene.emitter.wake_frame.2.2.2.trans
    | _ => simp at waits
  case past =>
    cases Stage.steps_of_step step with
    | hear ticket stage reported =>
      obtain unheard | empty := h.heard ticket (.inr stage)
      · omega
      · exact fun _ => empty
    | clear stage | signal stage | take stage | join _ stage | report stage =>
      exact fun _ => h.past (by rw [stage]; rfl)
    | _ => exact nofun

theorem Truthful.loop (h : scene.Truthful) (flushing : scene.Flushing place) {q : Nat}
    {emitter : Emitter} {s : Surroundings}
    (stepped : scene.emitter.stepLoop q scene.surroundings = some (emitter, s)) :
    Truthful { scene with emitter, surroundings := s } := by
  obtain ⟨rfl, loop, loop', signals, hloop, step, rfl⟩ := flushing.take_loop stepped
  have still : scene.db.rows = [] → s.db.rows = [] := fun empty =>
    List.sublist_nil.1 (empty ▸ SendLoop.step_rows_sublist step)
  refine ⟨fun other hother draining => ?_, fun ticket waits => ?_, fun past => still (h.past past)⟩
  · rcases List.mem_or_eq_of_mem_set hother with old | rfl
    · exact still (h.found other old draining)
    · obtain ⟨-, none, rfl⟩ := SendLoop.step_draining step draining
      exact flushing.rows_of_read none
  · by_cases draining : loop.phase = .draining
    · exact .inr (still (h.found loop (List.mem_of_getElem? hloop) draining))
    · rw [SendLoop.step_drains step draining]
      exact (h.heard ticket waits).imp_right still

theorem Truthful.take (h : scene.Truthful) (flushing : scene.Flushing place) {turn : Turn}
    (own : turn.isOwn) : (scene.take turn).Truthful :=
  take_own own h (fun _ _ => h.caller) (fun _ _ _ => h.loop flushing)
    fun _ => ⟨h.found, h.heard, h.past⟩

end Scene

end Telemetry.Delivery

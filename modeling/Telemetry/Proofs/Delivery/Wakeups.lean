import Mathlib.Logic.Function.Basic
import Telemetry.Proofs.Delivery.Flush

set_option autoImplicit false

/-!
Wake-ups are not lost. An add queues its row in one step and wakes the loop in a later one, and any number of
adds are under way at a time. A loop at rest that nobody has woken has found the queue empty, and since then
nothing came but rows whose adds have yet to wake it.
-/

namespace Telemetry.Delivery

open Store (Database Row)

def Phase.isIdle : Phase → Bool
  | .draining => true
  | .pausing => true
  | .resting _ => true
  | _ => false

theorem Phase.ne_ended_of_isIdle {phase : Phase} (idle : phase.isIdle) : phase ≠ .ended := by
  rintro rfl
  cases idle

/-- A step of an add, or a turn of anyone else. A turn that adds takes both steps of an add at once. -/
inductive AddStep where
  | insert (payload : Payload)
  | notify (ticket : Nat)
  | turn (turn : Turn)

/-- An emitter with the adds that are under way. They are numbered in the order of their rows. -/
structure Traffic where
  scene : Scene
  inserted : Nat
  unannounced : List Nat
  /-- The add that a row came with, none if it was there before. -/
  author : Int → Option Nat

theorem Emitter.wakeFirst?_eq_set {loops woken : List SendLoop} (h : wakeFirst? loops = some woken) :
    ∃ place loop, loops[place]? = some loop ∧ loop.isParked ∧ woken = loops.set place loop.woken := by
  induction loops generalizing woken with
  | nil => cases h
  | cons first rest ih =>
    unfold wakeFirst? at h
    split_ifs at h with parked
    · cases h
      exact ⟨0, first, rfl, parked, rfl⟩
    · obtain ⟨others, hothers, rfl⟩ := Option.map_eq_some_iff.1 h
      obtain ⟨place, loop, hloop, parked, rfl⟩ := ih hothers
      exact ⟨place + 1, loop, hloop, parked, rfl⟩

theorem SendLoop.woken_not_idle {loop : SendLoop} (parked : loop.isParked) :
    loop.woken.phase.isIdle = false := by
  unfold isParked at parked
  unfold woken
  cases phase : loop.phase with
  | resting deadline | backingOff deadline => rfl
  | _ => simp [phase] at parked

namespace Traffic

def start (scene : Scene) : Traffic := ⟨scene, 0, [], fun _ => none⟩

def insert (traffic : Traffic) (payload : Payload) : Traffic :=
  match traffic.scene.db.add payload with
  | .ok db => {
      scene := traffic.scene.setDb db
      inserted := traffic.inserted + 1
      unannounced := traffic.inserted :: traffic.unannounced
      author := Function.update traffic.author (traffic.scene.db.nextRow payload).id
        (some traffic.inserted) }
  | .error _ => traffic

def notify (traffic : Traffic) (ticket : Nat) : Traffic :=
  if ticket ∈ traffic.unannounced then
    { traffic with
      scene := { traffic.scene with emitter := traffic.scene.emitter.wake }
      unannounced := traffic.unannounced.erase ticket }
  else traffic

def take (traffic : Traffic) : AddStep → Traffic
  | .insert payload => traffic.insert payload
  | .notify ticket => traffic.notify ticket
  | .turn (.add payload) => (traffic.insert payload).notify traffic.inserted
  | .turn turn => { traffic with scene := traffic.scene.take turn }

def run (traffic : Traffic) (steps : List AddStep) : Traffic := steps.foldl take traffic

def ReadsWell (traffic : Traffic) (step : AddStep) : Prop :=
  ∀ turn, step = .turn turn → traffic.scene.ReadsWell turn

/-- Whether no read fails in a run. -/
def AllRead : Traffic → List AddStep → Prop
  | _, [] => True
  | traffic, step :: rest => traffic.ReadsWell step ∧ AllRead (traffic.take step) rest

/-- Whether all rows belong to adds that have yet to wake the loop. -/
def Unannounced (traffic : Traffic) : Prop :=
  ∀ row ∈ traffic.scene.db.keptRows,
    ∃ ticket ∈ traffic.unannounced, traffic.author row.id = some ticket

structure Announced (traffic : Traffic) : Prop where
  orderly : traffic.scene.Orderly
  told : ∀ loop ∈ traffic.scene.emitter.loops, loop.phase.isIdle →
    traffic.scene.emitter.signals.pendingWake = true ∨ traffic.Unannounced

variable {traffic : Traffic}

def Ticketed (traffic : Traffic) : Prop := ∀ ticket ∈ traffic.unannounced, ticket < traffic.inserted

theorem Ticketed.insert (h : traffic.Ticketed) (payload : Payload) :
    (traffic.insert payload).Ticketed := by
  unfold Traffic.insert
  cases traffic.scene.db.add payload with
  | error cause => exact h
  | ok db =>
    intro ticket hticket
    rcases List.mem_cons.1 hticket with rfl | old
    · exact Nat.lt_succ_self _
    · exact Nat.lt_succ_of_lt (h ticket old)

theorem Ticketed.notify (h : traffic.Ticketed) (ticket : Nat) : (traffic.notify ticket).Ticketed := by
  unfold Traffic.notify
  split_ifs
  · intro other hother
    exact h other (List.mem_of_mem_erase hother)
  · exact h

theorem Ticketed.take (h : traffic.Ticketed) (step : AddStep) : (traffic.take step).Ticketed := by
  cases step with
  | insert payload => exact h.insert payload
  | notify ticket => exact h.notify ticket
  | turn turn =>
    cases turn with
    | add payload => exact (h.insert payload).notify _
    | _ => exact h

/-- Both steps of an add in a row are the add. -/
theorem scene_insert_notify (h : traffic.Ticketed) (payload : Payload) :
    ((traffic.insert payload).notify traffic.inserted).scene = traffic.scene.take (.add payload) := by
  rw [Scene.take, Emitter.add, Traffic.insert]
  cases traffic.scene.db.add payload with
  | error cause =>
    have unused : traffic.inserted ∉ traffic.unannounced := fun used => Nat.lt_irrefl _ (h _ used)
    rw [notify, if_neg unused]
    rfl
  | ok db =>
    rw [notify, if_pos List.mem_cons_self]
    rfl

theorem scene_take_turn (h : traffic.Ticketed) (turn : Turn) :
    (traffic.take (.turn turn)).scene = traffic.scene.take turn := by
  cases turn with
  | add payload => exact scene_insert_notify h payload
  | _ => rfl

/-- While nobody is between the steps of an add, traffic is what becomes of the emitter alone. -/
theorem scene_run_turns (h : traffic.Ticketed) (turns : List Turn) :
    (traffic.run (turns.map .turn)).scene = traffic.scene.run turns := by
  induction turns generalizing traffic with
  | nil => rfl
  | cons turn rest ih =>
    change ((traffic.take (.turn turn)).run (rest.map .turn)).scene = (traffic.scene.take turn).run rest
    rw [ih (h.take _), scene_take_turn h]

/-- After a wake-up a loop that has found nothing is to be woken. -/
theorem pendingWake_wake {scene : Scene} (h : scene.Orderly) :
    ∀ loop ∈ scene.emitter.wake.loops, loop.phase.isIdle →
      scene.emitter.wake.signals.pendingWake = true := by
  unfold Emitter.wake
  split
  · rename_i woken first
    obtain ⟨place, loop, hloop, parked, rfl⟩ := Emitter.wakeFirst?_eq_set first
    have living : loop.phase ≠ .ended := (SendLoop.woken_phase parked).1
    intro other hother idle
    have same := h.eq_of_mem_set hloop living hother (Phase.ne_ended_of_isIdle idle)
    rw [same, SendLoop.woken_not_idle parked] at idle
    cases idle
  · intro _ _ _
    rfl

/-- A change that leaves alone the rows, the wake-up and the loops that have found nothing. -/
theorem Announced.congr {scene : Scene} (h : traffic.Announced) (orderly : scene.Orderly)
    (loops : ∀ loop ∈ scene.emitter.loops, loop.phase.isIdle →
      ∃ before ∈ traffic.scene.emitter.loops, before.phase.isIdle)
    (wake : scene.emitter.signals.pendingWake = traffic.scene.emitter.signals.pendingWake)
    (rows : scene.db.keptRows = traffic.scene.db.keptRows) :
    Announced { traffic with scene } := by
  refine ⟨orderly, ?_⟩
  intro loop hloop idle
  obtain ⟨before, hbefore, still⟩ := loops loop hloop idle
  obtain pending | missed := h.told before hbefore still
  · exact .inl (wake.trans pending)
  · right
    intro row hrow
    exact missed row (rows ▸ hrow)

theorem Announced.wake (h : traffic.Announced) (unannounced : List Nat) :
    Announced { traffic with
      scene := { traffic.scene with emitter := traffic.scene.emitter.wake }, unannounced } := by
  refine ⟨h.orderly.wake, ?_⟩
  intro loop hloop idle
  exact .inl (pendingWake_wake h.orderly loop hloop idle)

theorem Announced.start (h : traffic.Announced) {hasRuntime : Bool} {emitter : Emitter} {scene : Scene}
    (started : traffic.scene.emitter.start hasRuntime = .ok emitter) (orderly : scene.Orderly)
    (same : scene.emitter = emitter) (rows : scene.db.keptRows = traffic.scene.db.keptRows) :
    Announced { traffic with scene } := by
  subst same
  obtain ⟨-, same⟩ | ⟨-, more⟩ := Stage.start_cases started
  · apply h.congr orderly
    · rw [same]
      intro loop hloop idle
      exact ⟨loop, hloop, idle⟩
    · rw [same]
    · exact rows
  · apply h.congr orderly
    · rw [more]
      intro loop hloop idle
      rcases List.mem_append.1 hloop with old | new
      · exact ⟨loop, old, idle⟩
      · rw [List.mem_singleton.1 new] at idle
        cases idle
    · rw [more]
    · exact rows

theorem Announced.setDb (h : traffic.Announced) {db : Database}
    (orderly : (traffic.scene.setDb db).Orderly) (rows : db.keptRows = traffic.scene.db.keptRows) :
    Announced { traffic with scene := traffic.scene.setDb db } :=
  h.congr orderly (fun loop hloop idle => ⟨loop, hloop, idle⟩) rfl rows

theorem Announced.insert (h : traffic.Announced) (payload : Payload) :
    (traffic.insert payload).Announced := by
  unfold Traffic.insert
  cases added : traffic.scene.db.add payload with
  | error cause => exact h
  | ok db =>
    have kept := Database.keptRows_add added
    obtain ⟨opened, same, -⟩ := Database.add_rows added
    have orderly : (traffic.scene.setDb db).Orderly := by
      apply h.orderly.setDb
      · intro _
        exact same.2.1.trans (h.orderly.single opened)
      · intro row hrow
        rw [kept]
        exact List.mem_append_left _ hrow
    refine ⟨orderly, ?_⟩
    intro loop hloop idle
    refine (h.told loop hloop idle).imp_right ?_
    intro missed row hrow
    have hrow : row ∈ traffic.scene.db.keptRows ++ [traffic.scene.db.nextRow payload] := kept ▸ hrow
    dsimp only
    rcases List.mem_append.1 hrow with old | new
    · obtain ⟨ticket, hticket, author⟩ := missed row old
      have stored : row ∈ traffic.scene.db.rows := Database.keptRows_of_isOpen opened ▸ old
      have apart : row.id ≠ (traffic.scene.db.nextRow payload).id :=
        Int.ne_of_lt (traffic.scene.db.lt_nextRow payload stored)
      refine ⟨ticket, List.mem_cons_of_mem _ hticket, ?_⟩
      rw [Function.update_of_ne apart]
      exact author
    · rw [List.mem_singleton.1 new]
      exact ⟨traffic.inserted, List.mem_cons_self, Function.update_self ..⟩

theorem Announced.notify (h : traffic.Announced) (ticket : Nat) :
    (traffic.notify ticket).Announced := by
  unfold Traffic.notify
  split_ifs
  · exact h.wake _
  · exact h

theorem Announced.caller (h : traffic.Announced) {hasRuntime : Bool} {caller : Stage} {emitter : Emitter}
    (step : traffic.scene.caller.step hasRuntime traffic.scene.emitter =
      some (.ok (caller, emitter))) :
    Announced { traffic with scene := { traffic.scene with caller, emitter } } := by
  have orderly := h.orderly.caller step
  cases Stage.steps_of_step step with
  | start _ _ started => exact h.start started orderly rfl rfl
  | wake | signal => exact ⟨orderly, (h.wake traffic.unannounced).told⟩
  | register | hear | clear | take | join | report =>
    exact h.congr orderly (fun loop hloop idle => ⟨loop, hloop, idle⟩) rfl rfl

theorem Announced.loop (h : traffic.Announced) {place : Nat} {emitter : Emitter} {s : Surroundings}
    (stepped : traffic.scene.emitter.stepLoop place traffic.scene.surroundings = some (emitter, s))
    (well : traffic.scene.ReadsWell (.loop place)) :
    Announced { traffic with scene := { traffic.scene with emitter, surroundings := s } } := by
  have orderly := h.orderly.loop stepped
  obtain ⟨loop, loop', signals, hloop, step, rfl⟩ := Scene.take_loop stepped
  have living := SendLoop.step_not_ended step
  have inside := List.mem_of_getElem? hloop
  -- a loop has found nothing only if it has just read, or had found nothing before this step
  suffices told : loop'.phase.isIdle → signals.pendingWake = true ∨
      ∀ row ∈ s.db.keptRows, ∃ ticket ∈ traffic.unannounced, traffic.author row.id = some ticket by
    refine ⟨orderly, ?_⟩
    intro other hother idle
    have same := h.orderly.eq_of_mem_set hloop living hother (Phase.ne_ended_of_isIdle idle)
    exact told (same ▸ idle)
  intro idle
  cases SendLoop.steps_of_step step with
  | findNothing reading none =>
    right
    obtain ⟨rows, found⟩ := well place loop rfl hloop reading
    have empty := SendLoop.read_empty h.orderly.batch.1 h.orderly.batch.2 found none
    intro row hrow
    rw [empty] at hrow
    cases hrow
  | report draining => exact h.told loop inside (by rw [draining]; rfl)
  | rest pausing => exact h.told loop inside (by rw [pausing]; rfl)
  | settle _ _ _ _ going => obtain rfl | ⟨deadline, rfl⟩ := going <;> cases idle
  | _ => cases idle

theorem Announced.turn (h : traffic.Announced) {turn : Turn} (well : traffic.scene.ReadsWell turn) :
    (traffic.take (.turn turn)).Announced := by
  have orderly := h.orderly.take turn
  cases turn with
  | add payload => exact (h.insert payload).notify _
  | caller hasRuntime =>
    simp only [Traffic.take, Scene.take]
    split
    · rename_i caller emitter step
      exact h.caller step
    · exact h
  | loop place =>
    simp only [Traffic.take, Scene.take]
    split
    · rename_i emitter s stepped
      exact h.loop stepped well
    · exact h
  | start hasRuntime =>
    simp only [Traffic.take, Scene.take] at orderly ⊢
    split_ifs at orderly ⊢
    · split at orderly
      · rename_i emitter started
        exact h.start started orderly rfl rfl
      · exact h
    · exact h
  | pass ms => exact h.congr orderly (fun loop hloop idle => ⟨loop, hloop, idle⟩) rfl rfl
  | flush | stop =>
    simp only [Traffic.take, Scene.take, Scene.call?] at orderly ⊢
    split_ifs at orderly ⊢
    · exact h.congr orderly (fun loop hloop idle => ⟨loop, hloop, idle⟩) rfl rfl
    · exact h
  | hide =>
    simp only [Traffic.take, Scene.take] at orderly ⊢
    cases hidden : traffic.scene.db.hide? .events with
    | none => exact h
    | some db =>
      rw [hidden] at orderly
      exact h.setDb orderly (Database.hide_spec hidden).1
  | restore =>
    simp only [Traffic.take, Scene.take] at orderly ⊢
    cases restored : traffic.scene.db.restore? .events with
    | none => exact h
    | some db =>
      rw [restored] at orderly
      exact h.setDb orderly (Database.restore_spec restored).1

theorem Announced.take (h : traffic.Announced) {step : AddStep} (well : traffic.ReadsWell step) :
    (traffic.take step).Announced := by
  cases step with
  | insert payload => exact h.insert payload
  | notify ticket => exact h.notify ticket
  | turn turn => exact h.turn (well turn rfl)

theorem Announced.run (h : traffic.Announced) {steps : List AddStep} (well : traffic.AllRead steps) :
    (traffic.run steps).Announced := by
  induction steps generalizing traffic with
  | nil => exact h
  | cons step rest ih => exact ih (h.take well.1) well.2

/-- No wake-up is lost. While a loop rests and nobody is about to wake it, each row in the queue belongs to an
add that has yet to wake it. That holds however many adds are under way, and whoever flushes, stops or starts
in between, as long as the loop can read the queue. -/
theorem rest_misses_unannounced {first : Scene} (new : first.IsNew) {steps : List AddStep}
    (well : (start first).AllRead steps) {loop : SendLoop}
    (hloop : loop ∈ ((start first).run steps).scene.emitter.loops) {deadline : Nat}
    (rests : loop.phase = .resting deadline)
    (quiet : ((start first).run steps).scene.emitter.signals.pendingWake = false) :
    ((start first).run steps).Unannounced := by
  have initial : (start first).Announced := by
    refine ⟨new.orderly, ?_⟩
    intro other hother
    obtain ⟨⟨url, method, settings, made, -⟩, -⟩ := new
    have none : first.emitter.loops = [] := (Scene.setRules_frame made).2.2
    rw [start, none] at hother
    cases hother
  obtain pending | missed := (initial.run well).told loop hloop (by rw [rests]; rfl)
  · rw [quiet] at pending
    cases pending
  · exact missed

def resting : List AddStep :=
  [.turn (.start true), .turn (.loop 0), .turn (.loop 0), .turn (.loop 0), .turn (.loop 0),
    .insert (.ofPairs [("e", "pv")])]

theorem allRead_resting : (start Scene.plain).AllRead resting := by
  refine ⟨?_, ?_, ?_, ?_, ?_, ?_, trivial⟩
  case refine_1 =>
    intro turn same place loop other
    cases same
    cases other
  case refine_6 =>
    intro turn same
    cases same
  all_goals
    intro _ _ _ _ _ _ _
    exact ⟨[], rfl⟩

theorem rest_misses_inserted :
    ∃ row ∈ ((start Scene.plain).run resting).scene.db.keptRows,
      ∃ ticket ∈ ((start Scene.plain).run resting).unannounced,
        ((start Scene.plain).run resting).author row.id = some ticket := by
  have missed : ((start Scene.plain).run resting).Unannounced :=
    rest_misses_unannounced Scene.plain_isNew allRead_resting (List.mem_of_getElem? (i := 0) rfl)
      (show _ = Phase.resting 5000 from rfl) rfl
  refine ⟨_, List.mem_cons_self, ?_⟩
  exact missed _ List.mem_cons_self

end Traffic

end Telemetry.Delivery

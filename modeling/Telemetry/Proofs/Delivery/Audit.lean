import Telemetry.Proofs.Delivery.Books
import Telemetry.Proofs.Delivery.Turns

set_option autoImplicit false

namespace Telemetry.Delivery

open Store (Cell Database)

/-- What is done to an emitter and its store. An add takes two steps, and others may act between them. -/
inductive Deed where
  | insert (payload : Payload)
  | wake
  | beside (session : Store.Shelf (Option Cell))
  | turn (turn : Turn)

/-- Whether a deed leaves the queue within reach and queues only what can be identified. -/
def Deed.IsSound : Deed → Prop
  | .insert payload | .turn (.add payload) => (payload.get? Protocol.eventIdKey).isSome
  | .turn .hide | .turn .restore => False
  | .wake | .beside _ | .turn _ => True

namespace Account

def ofDatabase (db : Database) : Account :=
  ⟨(List.range db.rows.length).map Int.ofNat, fun id => Int.ofNat ((db.rows.map (·.id)).idxOf id), []⟩

def accept (account : Account) (db : Database) (payload : Payload) : Account :=
  match db.add payload with
  | .ok _ => account.arrive (db.nextRow payload).id
  | .error _ => account

/-- Events are named for their places of arrival. -/
def Placed (account : Account) : Prop :=
  account.events = (List.range account.events.length).map Int.ofNat

theorem placed_ofDatabase (db : Database) : (ofDatabase db).Placed := by
  simp [Placed, ofDatabase]

theorem names_ofDatabase (db : Database) :
    (db.rows.map (·.id)).map (ofDatabase db).name = (ofDatabase db).events := by
  have distinct : (db.rows.map (·.id)).Nodup := Store.ids_nodup db.rows_ascending
  have length : db.rows.length = (db.rows.map (·.id)).length := (List.length_map _).symm
  unfold ofDatabase
  dsimp only
  rw [length]
  generalize db.rows.map (·.id) = ids at distinct ⊢
  apply List.ext_getElem
  · simp
  · intro place here there
    simp [distinct.idxOf_getElem]

variable {account : Account}

theorem Placed.fresh (h : account.Placed) : (account.events.length : Int) ∉ account.events := by
  intro old
  rw [h] at old
  obtain ⟨place, inside, same⟩ := List.mem_map.1 old
  rw [List.length_map, List.length_range] at same
  exact Nat.ne_of_lt (List.mem_range.1 inside) (Int.ofNat.inj same)

theorem Placed.arrive (h : account.Placed) (id : Int) : (account.arrive id).Placed := by
  simp only [Placed, Account.arrive, List.length_append, List.length_singleton, List.range_succ,
    List.map_append, List.map_singleton]
  exact congrArg (· ++ _) h

end Account

def Scene.insert (scene : Scene) (payload : Payload) : Scene :=
  match scene.db.add payload with
  | .ok db => scene.setDb db
  | .error _ => scene

/-- An emitter, and the account that is kept of its events. -/
structure Audit where
  scene : Scene
  account : Account

namespace Audit

def start (scene : Scene) : Audit := ⟨scene, .ofDatabase scene.db⟩

def take (audit : Audit) : Deed → Audit
  | .insert payload => ⟨audit.scene.insert payload, audit.account.accept audit.scene.db payload⟩
  | .wake => { audit with scene := { audit.scene with emitter := audit.scene.emitter.wake } }
  | .beside session => { audit with scene := audit.scene.setDb { audit.scene.db with session } }
  | .turn (.add payload) =>
    ⟨audit.scene.take (.add payload), audit.account.accept audit.scene.db payload⟩
  | .turn turn => ⟨audit.scene.take turn,
    audit.account.record (exchangesOf (audit.scene.recordsSince (audit.scene.take turn)))⟩

def run (audit : Audit) (deeds : List Deed) : Audit := deeds.foldl take audit

theorem take_insert (audit : Audit) {payload : Payload} {db : Database}
    (added : audit.scene.db.add payload = .ok db) : audit.take (.insert payload) =
      ⟨audit.scene.setDb db, audit.account.arrive (audit.scene.db.nextRow payload).id⟩ := by
  rw [take, Scene.insert, Account.accept, added]

theorem take_beside (audit : Audit) {later : Database} (same : later.events = audit.scene.db.events) :
    audit.take (.beside later.session) = { audit with scene := audit.scene.setDb later } := by
  obtain ⟨events, session⟩ := later
  cases same
  rfl

/-- An event with its session record, written first. -/
theorem run_add (audit : Audit) {later final : Database} {payload : Payload}
    (same : later.events = audit.scene.db.events) (added : later.add payload = .ok final) :
    audit.run [.beside later.session, .insert payload, .wake] =
      take ⟨audit.scene.setDb final, audit.account.arrive (later.nextRow payload).id⟩ .wake := by
  have beside := audit.take_beside same
  have inserted := take_insert ⟨audit.scene.setDb later, audit.account⟩ added
  simp only [run, List.foldl_cons, List.foldl_nil, beside, inserted]
  rfl

/-- An add is its two steps in a row, without the second if the first fails. -/
theorem take_add (audit : Audit) (payload : Payload) : audit.take (.turn (.add payload)) =
    if (audit.scene.db.add payload).isOk then (audit.take (.insert payload)).take .wake
    else audit.take (.insert payload) := by
  simp only [take, Scene.take, Emitter.add, Scene.insert]
  cases audit.scene.db.add payload <;> rfl

/-- The account is kept beside the emitter, which goes on as it would without. -/
theorem scene_run_turns (audit : Audit) (turns : List Turn) :
    (audit.run (turns.map .turn)).scene = audit.scene.run turns := by
  induction turns generalizing audit with
  | nil => rfl
  | cons turn rest ih =>
    have first : (audit.take (.turn turn)).scene = audit.scene.take turn := by
      cases turn <;> rfl
    change ((audit.take (.turn turn)).run (rest.map .turn)).scene = (audit.scene.take turn).run rest
    rw [ih, first]

end Audit

structure Kept (account : Account) (policy : Policy) (loops : List SendLoop) (s : Surroundings) : Prop where
  held : ∀ loop ∈ loops, loop.phase ≠ .ended → Books account policy loop s
  idle : (∀ loop ∈ loops, loop.phase.isQuiet) → Books account policy SendLoop.new s

namespace Kept

variable {account account' : Account} {policy : Policy} {loops : List SendLoop} {s s' : Surroundings}

theorem imp (h : Kept account policy loops s)
    (next : ∀ loop, Books account policy loop s → Books account' policy loop s') :
    Kept account' policy loops s' where
  held loop hloop living := next loop (h.held loop hloop living)
  idle quiet := next .new (h.idle quiet)

theorem wake {emitter : Emitter} (h : Kept account policy emitter.loops s) :
    Kept account policy emitter.wake.loops s where
  held loop hloop living := by
    obtain ⟨place, hplace⟩ := List.mem_iff_getElem?.1 hloop
    obtain ⟨before, hbefore, rfl | ⟨parked, rfl⟩⟩ := Emitter.of_wake_getElem? hplace
    · exact h.held loop (List.mem_of_getElem? hbefore) living
    · obtain ⟨awake, quiet, -⟩ := SendLoop.woken_phase parked
      exact (h.held before (List.mem_of_getElem? hbefore) awake).quiet
        (SendLoop.isQuiet_of_isParked parked) quiet
  idle quiet := by
    apply h.idle
    intro loop hloop
    obtain ⟨place, hplace⟩ := List.mem_iff_getElem?.1 hloop
    obtain same | ⟨before, hbefore, parked, -⟩ := emitter.wake_getElem? place
    · exact quiet loop (List.mem_of_getElem? (same.trans hplace))
    · cases hbefore.symm.trans hplace
      exact SendLoop.isQuiet_of_isParked parked

theorem start (h : Kept account policy loops s) (ended : ∀ loop ∈ loops, loop.phase = .ended) :
    Kept account policy (loops ++ [SendLoop.new]) s := by
  have books : Books account policy SendLoop.new s := by
    apply h.idle
    intro loop hloop
    rw [ended loop hloop]
    rfl
  refine ⟨?_, fun _ => books⟩
  intro loop hloop living
  rcases List.mem_append.1 hloop with old | new
  · exact absurd (ended loop old) living
  · rw [List.mem_singleton.1 new]
    exact books

end Kept

structure Audited (policy : Policy) (audit : Audit) : Prop where
  orderly : audit.scene.Orderly
  same : audit.scene.emitter.policy = policy
  placed : audit.account.Placed
  kept : Kept audit.account policy audit.scene.emitter.loops audit.scene.surroundings

namespace Audited

variable {policy : Policy} {audit : Audit}

theorem start {scene : Scene} (new : scene.IsNew) (fresh : scene.surroundings.history = [])
    (named : ∀ row ∈ scene.db.rows, row.IsNamed) : Audited scene.emitter.policy (.start scene) where
  orderly := new.orderly
  same := rfl
  placed := Account.placed_ofDatabase scene.db
  kept := by
    obtain ⟨⟨url, method, settings, made, -⟩, -, opened, -⟩ := new
    have none : scene.emitter.loops = [] := (Scene.setRules_frame made).2.2
    have once : (Account.ofDatabase scene.db).events.Nodup := by
      apply List.nodup_range.map
      intro a b same
      exact Int.ofNat.inj same
    refine ⟨?_, fun _ => .start opened named rfl fresh (Account.names_ofDatabase scene.db) once⟩
    change ∀ loop ∈ scene.emitter.loops, _
    rw [none]
    exact nofun

theorem wake (h : Audited policy audit) : Audited policy (audit.take .wake) where
  orderly := h.orderly.wake
  same := audit.scene.emitter.wake_frame.1.trans h.same
  placed := h.placed
  kept := h.kept.wake

theorem arrive (h : Audited policy audit) {payload : Payload} {db : Database}
    (added : audit.scene.db.add payload = .ok db) (named : (payload.get? Protocol.eventIdKey).isSome) :
    Audited policy
      ⟨audit.scene.setDb db, audit.account.arrive (audit.scene.db.nextRow payload).id⟩ := by
  obtain ⟨opened, same, -⟩ := Database.add_rows added
  refine ⟨?_, h.same, h.placed.arrive _, ?_⟩
  · apply h.orderly.setDb
    · intro _
      exact same.2.1.trans (h.orderly.single opened)
    · intro row hrow
      rw [Database.keptRows_add added]
      exact List.mem_append_left _ hrow
  · apply h.kept.imp
    intro loop books
    exact books.add added named h.placed.fresh

theorem insert (h : Audited policy audit) {payload : Payload}
    (named : (payload.get? Protocol.eventIdKey).isSome) :
    Audited policy (audit.take (.insert payload)) := by
  cases added : audit.scene.db.add payload with
  | ok db =>
    rw [audit.take_insert added]
    exact h.arrive added named
  | error cause =>
    rw [Audit.take, Scene.insert, Account.accept, added]
    exact h

theorem beside (h : Audited policy audit) (session : Store.Shelf (Option Cell)) :
    Audited policy (audit.take (.beside session)) where
  orderly := h.orderly.setDb h.orderly.single fun _ hrow => hrow
  same := h.same
  placed := h.placed
  kept := h.kept.imp fun _ books => books.congr rfl rfl

theorem start_loop (h : Audited policy audit)
    (stage : audit.scene.caller = .starting ∨ audit.scene.caller = .done) {hasRuntime : Bool}
    {emitter : Emitter} (started : audit.scene.emitter.start hasRuntime = .ok emitter) :
    Audited policy { audit with scene := { audit.scene with emitter } } := by
  have orderly := h.orderly.start stage started
  obtain ⟨-, rfl⟩ | ⟨stopped, rfl⟩ := Stage.start_cases started
  · exact h
  · have early : audit.scene.caller.isEnding = false := by
      obtain stage | stage := stage <;> rw [stage] <;> rfl
    exact ⟨orderly, h.same, h.placed, h.kept.start (h.orderly.stopped early stopped)⟩

/-- A step of a caller goes on with the loops as they are, wakes one or starts one. -/
theorem caller (h : Audited policy audit) {hasRuntime : Bool} {caller : Stage} {emitter : Emitter}
    (step : audit.scene.caller.step hasRuntime audit.scene.emitter = some (.ok (caller, emitter))) :
    Audited policy { audit with scene := { audit.scene with caller, emitter } } := by
  refine ⟨h.orderly.caller step, (Stage.step_policy step).trans h.same, h.placed, ?_⟩
  cases Stage.steps_of_step step with
  | start _ stands started => exact (h.start_loop (.inl stands) started).kept
  | wake | signal => exact h.kept.wake
  | register | hear | clear | take | join | report => exact h.kept

theorem loop (h : Audited policy audit) (small : policy.settings.batchSize ≤ Database.maxParameters)
    (subscribed : policy.subscribed = DeliveryStatus.all) {place : Nat} {emitter : Emitter} {s : Surroundings}
    (stepped : audit.scene.emitter.stepLoop place audit.scene.surroundings = some (emitter, s)) :
    ∃ more, s.history = audit.scene.surroundings.history ++ more ∧
      Audited policy ⟨{ audit.scene with emitter, surroundings := s },
        audit.account.record (exchangesOf more)⟩ := by
  have orderly := h.orderly.loop stepped
  obtain ⟨loop, loop', signals, hloop, step, rfl⟩ := Scene.take_loop stepped
  have living := SendLoop.step_not_ended step
  have inside := (List.getElem?_eq_some_iff.1 hloop).1
  rw [h.same] at step
  have before := h.kept.held loop (List.mem_of_getElem? hloop) living
  obtain ⟨more, history, books⟩ := before.step small subscribed step
  refine ⟨more, history, orderly, h.same, h.placed, ?_, ?_⟩
  · intro other hother alive
    rw [h.orderly.eq_of_mem_set hloop living hother alive]
    exact books
  · intro quiet
    exact books.quiet (quiet loop' (List.mem_set inside loop')) rfl

theorem recorded {scene : Scene} (h : Audited policy { audit with scene })
    (history : scene.surroundings.history = audit.scene.surroundings.history) :
    Audited policy ⟨scene, audit.account.record (exchangesOf (audit.scene.recordsSince scene))⟩ := by
  rw [Scene.recordsSince, history, List.drop_length, exchangesOf, List.filterMap_nil, Account.record_nil]
  exact h

theorem turn (h : Audited policy audit) (small : policy.settings.batchSize ≤ Database.maxParameters)
    (subscribed : policy.subscribed = DeliveryStatus.all) {turn : Turn} (sound : (Deed.turn turn).IsSound) :
    Audited policy (audit.take (.turn turn)) := by
  have orderly := h.orderly.take turn
  cases turn with
  | caller hasRuntime =>
    simp only [Audit.take, Scene.take]
    split
    · rename_i caller emitter step
      exact (h.caller step).recorded rfl
    · exact h.recorded rfl
  | loop place =>
    simp only [Audit.take, Scene.take]
    split
    · rename_i emitter s stepped
      obtain ⟨more, history, after⟩ := h.loop small subscribed stepped
      rw [Scene.recordsSince, history, List.drop_left]
      exact after
    · exact h.recorded rfl
  | pass ms =>
    refine recorded ⟨orderly, h.same, h.placed, ?_⟩ rfl
    exact h.kept.imp fun _ books => books.congr rfl rfl
  | add payload =>
    rw [Audit.take_add]
    split_ifs
    · exact (h.insert sound).wake
    · exact h.insert sound
  | start hasRuntime =>
    simp only [Audit.take, Scene.take]
    split_ifs with idle
    · split
      · rename_i emitter started
        exact (h.start_loop (.inr idle) started).recorded rfl
      · exact h.recorded rfl
    · exact h.recorded rfl
  | flush | stop =>
    simp only [Audit.take, Scene.take, Scene.call?] at orderly ⊢
    split_ifs at orderly ⊢
    · exact recorded ⟨orderly, h.same, h.placed, h.kept⟩ rfl
    · exact h.recorded rfl
  | hide | restore => exact sound.elim

theorem take (h : Audited policy audit) (small : policy.settings.batchSize ≤ Database.maxParameters)
    (subscribed : policy.subscribed = DeliveryStatus.all) {deed : Deed} (sound : deed.IsSound) :
    Audited policy (audit.take deed) := by
  cases deed with
  | insert payload => exact h.insert sound
  | wake => exact h.wake
  | beside session => exact h.beside session
  | turn turn => exact h.turn small subscribed sound

theorem run (h : Audited policy audit) (small : policy.settings.batchSize ≤ Database.maxParameters)
    (subscribed : policy.subscribed = DeliveryStatus.all) {deeds : List Deed}
    (sound : ∀ deed ∈ deeds, deed.IsSound) : Audited policy (audit.run deeds) := by
  induction deeds generalizing audit with
  | nil => exact h
  | cons deed rest ih =>
    have first := h.take small subscribed (sound deed List.mem_cons_self)
    exact ih first fun later hlater => sound later (List.mem_cons_of_mem _ hlater)

theorem isQuiet_of_stopped (h : Audited policy audit) (idle : audit.scene.caller = .done)
    (stopped : audit.scene.emitter.isRunning = false) :
    ∀ loop ∈ audit.scene.emitter.loops, loop.phase.isQuiet := by
  intro loop hloop
  have early : audit.scene.caller.isEnding = false := by
    rw [idle]
    rfl
  rw [h.orderly.stopped early stopped loop hloop]
  rfl

end Audited

end Telemetry.Delivery

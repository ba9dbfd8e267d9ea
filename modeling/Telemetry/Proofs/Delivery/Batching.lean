import Telemetry.Proofs.Delivery.Batches

set_option autoImplicit false

/-!
Method, batch size and byte limits only group what a flush sends, as long as one statement can remove the rows
of a batch. Beyond that a batch stays queued, and a flush sends it again and again.
-/

namespace Telemetry.Delivery

open Store (Database EventRow Row Table readableRows)

def Phase.Circles (batch : List EventRow) : Phase → Prop
  | .checking => True
  | .reading => True
  | .sending rows => rows = batch
  | .settling outcome => outcome.settledIds.Perm (batch.map (·.id))
  | .delaying _ => True
  | .backingOff _ => True
  | .interrupted _ => True
  | _ => False

namespace SendLoop

variable {policy : Policy} {loop loop' : SendLoop} {signals signals' : Signals}
  {s s' : Surroundings} {batch : List EventRow}

theorem woken_circles (h : loop.phase.Circles batch) : loop.woken.phase.Circles batch := by
  unfold woken
  cases phase : loop.phase with
  | resting deadline =>
    rw [phase] at h
    cases h
  | backingOff deadline => trivial
  | _ => exact h

theorem step_circles (h : loop.step policy signals s = some (loop', signals', s'))
    (circles : loop.phase.Circles batch) (running : signals.running = true)
    (found : (read policy s).1 = batch) (filled : batch ≠ [])
    (accepted : ∀ n, (s.answer n).isSuccess) : loop'.phase.Circles batch := by
  cases steps_of_step h with
  | finish _ stopped =>
    rw [running] at stopped
    cases stopped
  | findNothing _ none => exact absurd (found.symm.trans none) filled
  | fetch => exact found
  | send rows phase =>
    rw [phase] at circles
    cases circles
    exact round_settles policy accepted _
  | settle _ _ _ _ going => obtain rfl | ⟨deadline, rfl⟩ := going <;> trivial
  | report phase | stayUp phase | rest phase | rise _ phase =>
    rw [phase] at circles
    cases circles
  | _ => trivial

theorem settle_keeps (policy : Policy) {outcome : Outcome}
    (large : Database.maxParameters < outcome.settledIds.length) (s : Surroundings) :
    (settle policy outcome s).db = s.db := by
  have refused : s.db.delete outcome.settledIds = .error .database := by
    unfold Database.delete
    split_ifs with none
    · simp [List.isEmpty_iff.1 none] at large
    · rfl
  rw [settle, refused]

end SendLoop

namespace Scene

variable {first scene : Scene} {turns : Nat → Turn} {rounds : Nat}

def firstBatch (scene : Scene) : List EventRow :=
  (SendLoop.read scene.emitter.policy scene.surroundings).1

theorem Undisturbed.firstBatch_large (h : first.Undisturbed)
    (large : ¬first.emitter.policy.Fits first.db) :
    Database.maxParameters < first.firstBatch.length := by
  obtain ⟨size, rows⟩ := not_or.1 large
  rw [firstBatch, SendLoop.read_readable _ h.new.opened h.readable]
  have readable : ∀ row ∈ Database.oldest (Database.rowLimit first.emitter.policy.settings.batchSize)
      first.surroundings.db.rows, row.payload?.isSome :=
    fun row hrow => h.readable row ((Database.oldest_initial _ _).subset hrow)
  rw [Store.readableRows_length readable]
  exact Database.lt_oldest_length h.new.orderly.batch.2 (Nat.lt_of_not_le size)
    (Nat.lt_of_not_le rows)

structure Repeating (first scene : Scene) (rounds : Nat) : Prop where
  orderly : scene.Orderly
  waits : scene.Waits
  steady : Steady first scene
  kept : scene.db = first.db
  requests : ∃ clocks : List Nat, clocks.length = rounds ∧ first.requestsSince scene =
    requestsOf first.emitter.policy.settings (clocks.map fun clock => (clock, first.firstBatch))
  circles : ∀ loop ∈ scene.emitter.loops, loop.phase.Circles first.firstBatch
  single : scene.emitter.loops.length ≤ 1
  up : scene.caller = .starting ∨ scene.emitter.isRunning

theorem Waits.not_ending (h : scene.Waits) : scene.caller.isEnding = false := by
  obtain stage | stage | ⟨ticket, -, stage | stage⟩ := h.early <;> rw [stage] <;> rfl

theorem Repeating.loops_of_stopped (h : Repeating first scene rounds)
    (stopped : scene.emitter.isRunning = false) : scene.emitter.loops = [] := by
  refine List.eq_nil_iff_forall_not_mem.2 fun loop hloop => ?_
  have circles := h.circles loop hloop
  rw [h.orderly.stopped h.waits.not_ending stopped loop hloop] at circles
  cases circles

theorem Repeating.read_eq (h : Repeating first scene rounds) :
    (SendLoop.read scene.emitter.policy scene.surroundings).1 = first.firstBatch := by
  have kept : scene.surroundings.db = first.surroundings.db := h.kept
  rw [firstBatch, SendLoop.read, SendLoop.read, h.steady.policy, kept]
  split <;> rfl

theorem Repeating.caller (h : Repeating first scene rounds) {caller : Stage} {emitter : Emitter}
    (step : scene.caller.step true scene.emitter = some (.ok (caller, emitter))) :
    Repeating first { scene with caller, emitter } rounds := by
  refine ⟨h.orderly.caller step, h.waits.caller step, h.steady.caller step, h.kept, h.requests,
    fun loop hloop => ?circles, ?single, ?up⟩
  case circles =>
    obtain ⟨place, hplace⟩ := List.mem_iff_getElem?.1 hloop
    obtain ⟨before, hbefore, rfl | ⟨-, rfl⟩⟩ | ⟨-, -, -, rfl⟩ := Stage.of_step_getElem? step hplace
    · exact h.circles loop (List.mem_of_getElem? hbefore)
    · exact SendLoop.woken_circles (h.circles before (List.mem_of_getElem? hbefore))
    · trivial
  case single =>
    cases Stage.steps_of_step step with
    | start _ _ started =>
      obtain ⟨-, rfl⟩ | ⟨stopped, rfl⟩ := Stage.start_cases started
      · exact h.single
      · simp [h.loops_of_stopped stopped]
    | wake | signal => exact scene.emitter.wake_length.trans_le h.single
    | _ => exact h.single
  case up =>
    right
    cases Stage.steps_of_step step with
    | start _ _ started =>
      obtain ⟨running, rfl⟩ | ⟨-, rfl⟩ := Stage.start_cases started
      · exact running
      · rfl
    | wake _ stage | signal stage =>
      exact scene.emitter.wake_frame.2.2.1.trans (h.up.resolve_left (by simp [stage]))
    | clear stage =>
      have early := h.waits.early
      simp [stage] at early
    | register stage | hear _ stage | take stage | join _ stage | report stage =>
      exact h.up.resolve_left (by simp [stage])

theorem Repeating.loop (h : Repeating first scene rounds)
    (large : Database.maxParameters < first.firstBatch.length) {place : Nat} {emitter : Emitter}
    {s : Surroundings}
    (stepped : scene.emitter.stepLoop place scene.surroundings = some (emitter, s)) :
    Repeating first { scene with emitter, surroundings := s }
      (rounds + (scene.phaseAt place).isSending.toNat) := by
  have orderly := h.orderly.loop stepped
  have steady := h.steady.loop stepped
  obtain ⟨loop, loop', signals, hloop, step, new⟩ := Scene.take_loop stepped
  have circles := h.circles loop (List.mem_of_getElem? hloop)
  have running : scene.emitter.isRunning := by
    by_contra stopped
    rw [h.loops_of_stopped (Bool.eq_false_iff.2 stopped)] at hloop
    cases hloop
  have filled : first.firstBatch ≠ [] := by
    rintro none
    simp [none] at large
  have kept : s.db = first.db := by
    obtain ⟨-, -, -, rfl⟩ | ⟨-, -, rfl, -⟩ | ⟨rows, -, -, rfl, -⟩ | ⟨outcome, settling, -, rfl, -⟩ :=
      SendLoop.step_cases step
    · exact h.kept
    · rw [(SendLoop.read_initial _ h.steady.opened h.steady.readable).2]
      exact h.kept
    · exact h.kept
    · rw [settling] at circles
      have length := List.Perm.length_eq circles
      rw [List.length_map] at length
      exact (SendLoop.settle_keeps _ (length ▸ large) _).trans h.kept
  refine ⟨orderly, ?waits, steady, kept, ?requests, fun other hother => ?circles, ?single, ?up⟩
  case waits =>
    obtain ⟨event, hevent⟩ := List.exists_mem_of_ne_nil _ filled
    obtain ⟨row, hrow, -⟩ :=
      (SendLoop.read_answered scene.emitter.policy scene.surroundings).stored event (h.read_eq ▸ hevent)
    rw [(SendLoop.read_initial _ h.steady.opened h.steady.readable).2] at hrow
    have stored : row ∈ s.db.rows := (kept.trans h.kept.symm) ▸ hrow
    have keeps : Keeps row.id { scene with emitter, surroundings := s } :=
      ⟨row, Database.keptRows_of_isOpen steady.opened ▸ stored, rfl⟩
    exact h.waits.loop h.orderly stepped (fun _ _ _ _ _ =>
      ⟨_, congrArg Prod.fst (Database.batch_readable _ h.steady.opened h.steady.readable)⟩) keeps
  case requests =>
    obtain ⟨clocks, length, requests⟩ := h.requests
    rw [h.steady.requests_loop emitter step, requests, phaseAt_of_some hloop]
    cases phase : loop.phase with
    | sending rows =>
      rw [phase] at circles
      cases circles
      refine ⟨clocks ++ [scene.surroundings.clock], by simp [length, Phase.isSending], ?_⟩
      rw [List.map_append, List.map_singleton, requestsOf_concat]
      rfl
    | _ => exact ⟨clocks, length, List.append_nil _⟩
  case circles =>
    subst new
    rcases List.mem_or_eq_of_mem_set hother with old | rfl
    · exact h.circles other old
    · exact SendLoop.step_circles step circles running h.read_eq filled h.steady.accepted
  case single =>
    subst new
    exact (List.length_set ..).trans_le h.single
  case up =>
    subst new
    exact .inr ((SendLoop.step_running step).trans running)

theorem Repeating.take (h : Repeating first scene rounds)
    (large : Database.maxParameters < first.firstBatch.length) {turn : Turn} (own : turn.isOwn) :
    Repeating first (scene.take turn) (rounds + (scene.sends turn).toNat) := by
  cases turn with
  | caller hasRuntime =>
    obtain rfl : hasRuntime = true := own
    rw [Scene.take]
    split
    · rename_i caller emitter step
      exact h.caller step
    · exact h
  | loop place =>
    rcases stepped : scene.emitter.stepLoop place scene.surroundings with _ | ⟨emitter, s⟩
    · rw [Scene.take, stepped, sends_of_stepLoop_none stepped]
      exact h
    · rw [Scene.take, stepped]
      exact h.loop large stepped
  | pass ms =>
    exact ⟨h.orderly.take (.pass ms), ⟨h.waits.calm, h.waits.early⟩, h.steady.take own, h.kept,
      h.requests, h.circles, h.single, h.up⟩
  | _ => cases own

theorem Repeating.along (h : Repeating first scene 0)
    (large : Database.maxParameters < first.firstBatch.length) (own : ∀ k, (turns k).isOwn) (k : Nat) :
    Repeating first (scene.along turns k) (scene.rounds turns k) := by
  induction k with
  | zero => exact h
  | succ k ih => exact ih.take large (own k)

/-- There is always another round: otherwise the loop would come to rest, which it does only when it ends. -/
theorem Repeating.rounds_unbounded (h : Repeating first scene 0)
    (large : Database.maxParameters < first.firstBatch.length) (own : ∀ k, (turns k).isOwn)
    (fair : Fair turns) (n : Nat) : ∃ k, n ≤ scene.rounds turns k := by
  by_contra bounded
  have bounded : ∀ k, scene.rounds turns k < n := fun k =>
    Nat.lt_of_not_le fun reached => bounded ⟨k, reached⟩
  obtain ⟨a, waiting⟩ := scene.exists_waiting own
  obtain ⟨b, hb, constant⟩ := exists_constant (f := fun k => n - scene.rounds turns k) (m := a)
    fun k _ => Nat.sub_le_sub_left (Nat.le_add_right _ _) n
  have silent : ∀ k, b ≤ k → (scene.along turns k).sends (turns k) = false := by
    intro k hk
    have now := constant k hk
    have next := constant (k + 1) (Nat.le_succ_of_le hk)
    have below := bounded (k + 1)
    rw [rounds] at next below
    cases sends : (scene.along turns k).sends (turns k) with
    | false => rfl
    | true =>
      simp only [sends, Bool.toNat_true] at next below
      omega
  obtain ⟨c, hc, still⟩ := exists_still_of_falls own
    (fun k hk turn => (waiting.turn k (hb.trans hk) turn).1)
    (fun scene => (scene.phaseAt 0).rank scene.emitter.signals.pendingWake) (fun _ _ => rfl)
    fun k hk place emitter s turn stepped => by
      have repeating := h.along large own k
      have quiet := silent k hk
      obtain ⟨loop, loop', signals, hloop, step, rfl⟩ := Scene.take_loop stepped
      have inside := (List.getElem?_eq_some_iff.1 hloop).1
      have single := repeating.single
      obtain rfl : place = 0 := by omega
      have circles := repeating.circles loop (List.mem_of_getElem? hloop)
      have calm : loop.phase ≠ .draining := by
        intro draining
        rw [draining] at circles
        cases circles
      have closer := SendLoop.step_rank_lt step calm
      rw [turn, sends, phaseAt_of_some hloop] at quiet
      rw [phaseAt_of_some hloop, phaseAt_set hloop]
      simpa only [quiet, Bool.toNat_false, Nat.zero_mul, Nat.add_zero] using closer
  obtain ⟨d, hd, turn⟩ := fair.caller c
  have repeating := h.along large own d
  have begun : (scene.along turns d).caller ≠ .starting := by
    cases (waiting.turn d (hb.trans (hc.trans hd)) turn).2 with
    | done stands | report _ stands | ending _ stands => simp [stands]
  obtain ⟨place, loop, -, hloop, living⟩ :=
    repeating.orderly.alive (repeating.up.resolve_left begun)
  exact living (still.ended own fair (still.emitter_eq own hd ▸ hloop))

/-- A flush that never returns and leaves the queue as it is, while it sends the first batch again and again. -/
structure Repeats (first : Scene) (turns : Nat → Turn) : Prop where
  large : Database.maxParameters < first.firstBatch.length
  waits : ∀ k, ((first.take .flush).along turns k).caller ≠ .done
  kept : ∀ k, ((first.take .flush).along turns k).db = first.db
  requests : ∀ k, ∃ clocks : List Nat, clocks.length = (first.take .flush).rounds turns k ∧
    first.requestsSince ((first.take .flush).along turns k) =
      requestsOf first.emitter.policy.settings (clocks.map fun clock => (clock, first.firstBatch))
  endless : ∀ n, ∃ k, n ≤ (first.take .flush).rounds turns k

theorem Undisturbed.repeats_of_not_fits (h : first.Undisturbed)
    (large : ¬first.emitter.policy.Fits first.db) (own : ∀ k, (turns k).isOwn) (fair : Fair turns) :
    first.Repeats turns := by
  have large := h.firstBatch_large large
  have orderly := h.new.orderly.take .flush
  have steady := h.steady
  have none := h.new.still.2
  have start : Repeating first (first.take .flush) 0 := by
    rw [take_flush h.new.idle] at orderly steady ⊢
    refine ⟨orderly, ⟨isDraining_iff.2 ?_, .inl rfl⟩, steady, rfl, ⟨[], rfl, ?_⟩, ?_, ?_, .inl rfl⟩
    · simp [none]
    · simp [requestsSince, recordsSince, exchangesOf, requestsOf]
    · simp [none]
    · simp [none]
  exact ⟨large, fun k => (start.along large own k).waits.not_done,
    fun k => (start.along large own k).kept, fun k => (start.along large own k).requests,
    start.rounds_unbounded large own fair⟩

/-- Two emitters of any settings flush the same queue, each in a run of its own. Both send every event in one
request and leave the same empty queue, if and only if one statement can remove the rows of every batch. An
emitter of which that is not true sends its first batch forever. -/
theorem batching_only_groups_iff {p q : Scene} {turns others : Nat → Turn} (hp : p.Undisturbed)
    (hq : q.Undisturbed) (same : q.db = p.db) (own : ∀ k, (turns k).isOwn) (fair : Fair turns)
    (own' : ∀ k, (others k).isOwn) (fair' : Fair others) :
    (p.Drains turns ∧ q.Drains others ↔ p.emitter.policy.Fits p.db ∧ q.emitter.policy.Fits p.db) ∧
    (∀ k m, ((p.take .flush).along turns k).caller = .done →
      ((q.take .flush).along others m).caller = .done →
        ((q.take .flush).along others m).db = ((p.take .flush).along turns k).db) ∧
    (¬p.emitter.policy.Fits p.db → p.Repeats turns) ∧
    (¬q.emitter.policy.Fits p.db → q.Repeats others) := by
  have repeats : ¬q.emitter.policy.Fits p.db → q.Repeats others := fun large =>
    hq.repeats_of_not_fits (same ▸ large) own' fair'
  have fitsP : ∀ k, ((p.take .flush).along turns k).caller = .done → p.emitter.policy.Fits p.db :=
    fun k done => by_contra fun large => (hp.repeats_of_not_fits large own fair).waits k done
  have fitsQ : ∀ k, ((q.take .flush).along others k).caller = .done → q.emitter.policy.Fits p.db :=
    fun k done => by_contra fun large => (repeats large).waits k done
  have drainsP := fun fits => hp.drains_of_fits fits own fair
  have drainsQ : q.emitter.policy.Fits p.db → q.Drains others := fun fits =>
    hq.drains_of_fits (same.symm ▸ fits) own' fair'
  refine ⟨⟨fun ⟨drains, drains'⟩ => ?_, fun ⟨fits, fits'⟩ => ⟨drainsP fits, drainsQ fits'⟩⟩,
    fun k m done done' => ?_, fun large => hp.repeats_of_not_fits large own fair, repeats⟩
  · obtain ⟨k, done⟩ := drains.returns
    obtain ⟨m, done'⟩ := drains'.returns
    exact ⟨fitsP k done, fitsQ m done'⟩
  · rw [((drainsP (fitsP k done)).delivers k done).store,
      ((drainsQ (fitsQ m done')).delivers m done').store, same]

/-- A new emitter on the rows of a table, with a collector that accepts everything. -/
def fresh (method : Method) (batchSize : Nat) (table : Table) : Scene where
  emitter :=
    { policy := { Policy.plain with settings := { Policy.plain.settings with method, batchSize } }
      signals := ⟨false, false, 0⟩
      loops := []
      worker := none }
  surroundings := .plain (Database.empty.queued table)

theorem fresh_undisturbed (method : Method) {batchSize : Nat} {table : Table}
    (positive : 0 < batchSize) (word : batchSize ≤ maxWord)
    (readable : ∀ row ∈ table.rows, row.payload?.isSome) :
    (fresh method batchSize table).Undisturbed where
  new :=
    { made := ⟨⟨.http, [], [], .domain "collector.test".toList, none, [[]], none, none⟩, method,
        { batchSize }, by rw [Emitter.new, Nat.max_eq_left positive]; rfl, word⟩
      idle := rfl
      opened := rfl
      single := rfl }
  readable := readable
  accepted _ := rfl

theorem batching_only_groups_pair :
    let table := (Table.empty.push (.text (Payload.ofPairs [("e", "pv")]).text)).push
      (.text (Payload.ofPairs [("e", "se")]).text)
    (fresh .get 1 table).Drains everyone ∧ (fresh .post maxWord table).Drains everyone := by
  intro table
  have readable : ∀ row ∈ table.rows, row.payload?.isSome := by decide +kernel
  have hp := fresh_undisturbed .get Nat.one_pos (by decide) readable
  have hq := fresh_undisturbed .post (by decide) (Nat.le_refl maxWord) readable
  exact (batching_only_groups_iff hp hq rfl everyone_isOwn everyone_fair everyone_isOwn
    everyone_fair).1.2 ⟨.inr (by decide +kernel), .inr (by decide +kernel)⟩

def blankEvents (count : Nat) : Table where
  rows := (List.range count).map fun n : Nat => ⟨n + 1, .text Payload.empty.text⟩
  ascending := List.pairwise_map.2 (List.pairwise_lt_range.imp fun below => by
    dsimp only
    omega)

theorem blankEvents_undisturbed (method : Method) {batchSize : Nat} (positive : 0 < batchSize)
    (word : batchSize ≤ maxWord) (count : Nat) :
    (fresh method batchSize (blankEvents count)).Undisturbed := by
  refine fresh_undisturbed method positive word fun row hrow => ?_
  obtain ⟨n, -, rfl⟩ := List.mem_map.1 hrow
  exact Option.isSome_of_eq_some Payload.empty.ofText?_text

theorem blankEvents_not_fits (method : Method) {count : Nat} (many : Database.maxParameters < count) :
    ¬(fresh method count (blankEvents count)).emitter.policy.Fits
      (fresh method count (blankEvents count)).db := by
  have length : (fresh method count (blankEvents count)).db.rows.length = count := by
    change ((List.range count).map _).length = count
    rw [List.length_map, List.length_range]
  rintro (size | rows)
  · exact Nat.not_le_of_lt many size
  · exact Nat.not_le_of_lt many (length ▸ rows)

theorem batching_not_only_groups :
    ¬∀ (p q : Scene) (turns others : Nat → Turn), p.Undisturbed → q.Undisturbed → q.db = p.db →
      (∀ k, (turns k).isOwn) → Fair turns → (∀ k, (others k).isOwn) → Fair others →
        p.Drains turns ∧ q.Drains others := by
  intro law
  have crowded := blankEvents_undisturbed .post (by decide : 0 < 32767) (by decide) 32767
  obtain ⟨⟨k, done⟩, -⟩ := (law _ _ everyone everyone crowded crowded rfl everyone_isOwn
    everyone_fair everyone_isOwn everyone_fair).1
  exact (crowded.repeats_of_not_fits (blankEvents_not_fits .post (by decide)) everyone_isOwn
    everyone_fair).waits k done

end Scene

end Telemetry.Delivery

import Telemetry.Proofs.Delivery.Return

set_option autoImplicit false

namespace Telemetry.Delivery

open Store (Database EventRow Row Table readableRows)

def requestsOf (settings : DeliverySettings) (batches : List (Nat × List EventRow)) : List Request :=
  batches.flatMap fun batch => requestsFor settings batch.1 batch.2

theorem requestsOf_concat (settings : DeliverySettings) (batches : List (Nat × List EventRow))
    (clock : Nat) (rows : List EventRow) :
    requestsOf settings (batches ++ [(clock, rows)]) =
      requestsOf settings batches ++ requestsFor settings clock rows := by
  simp [requestsOf]

theorem requestsOf_rowIds_perm (settings : DeliverySettings) (batches : List (Nat × List EventRow)) :
    ((requestsOf settings batches).flatMap (·.rowIds)).Perm
      ((batches.flatMap (·.2)).map (·.id)) := by
  induction batches with
  | nil => exact .refl _
  | cons batch rest ih =>
    simp only [requestsOf, List.flatMap_cons, List.flatMap_append, List.map_append] at ih ⊢
    exact (requestsFor_rowIds_perm settings batch.1 batch.2).append ih

namespace SendLoop

variable {policy : Policy} {loop loop' : SendLoop} {signals signals' : Signals}
  {s s' : Surroundings}

theorem read_readable (policy : Policy) (opened : s.db.isOpen)
    (readable : ∀ row ∈ s.db.rows, row.payload?.isSome) :
    read policy s =
      (readableRows (Database.oldest (Database.rowLimit policy.settings.batchSize) s.db.rows), s) := by
  rw [read, Database.batch_readable _ opened readable]

theorem read_initial (policy : Policy) (opened : s.db.isOpen)
    (readable : ∀ row ∈ s.db.rows, row.payload?.isSome) :
    (read policy s).1 <+: readableRows s.db.rows ∧ (read policy s).2 = s := by
  rw [read_readable policy opened readable]
  dsimp only
  exact ⟨Database.readable_initial _ _, rfl⟩

/-- When every request succeeds, all rows of the batch are settled. -/
theorem round_settles (policy : Policy) (accepted : ∀ n, (s.answer n).isSuccess)
    (rows : List EventRow) :
    (Outcome.ofExchanges policy.rules rows (inTurns (round policy s rows))).settledIds.Perm
      (rows.map (·.id)) := by
  have final : ∀ exchange ∈ inTurns (round policy s rows), exchange.isFinal policy.rules := by
    intro exchange hexchange
    obtain ⟨n, answer⟩ :=
      round_answers policy s rows exchange ((inTurns_perm _).mem_iff.1 hexchange)
    exact Exchange.isFinal_of_isSuccess _ (answer ▸ accepted n)
  rw [Outcome.ofExchanges_settledIds, List.filter_eq_self.2 final]
  exact ((inTurns_perm _).flatMap_right _).trans (exchanges_rowIds_perm (round_requests policy s rows))

theorem step_history (h : loop.step policy signals s = some (loop', signals', s')) :
    s.history <+: s'.history := by
  obtain ⟨-, -, -, rfl⟩ | ⟨-, -, rfl, -⟩ | ⟨rows, -, -, rfl, -⟩ | ⟨outcome, -, -, rfl, -⟩ :=
    step_cases h
  · exact List.prefix_rfl
  · rw [read_eq]
  · exact List.prefix_append _ _
  · exact List.prefix_append _ _

end SendLoop

def Phase.requests (settings : DeliverySettings) (clock : Nat) : Phase → List Request
  | .sending rows => requestsFor settings clock rows
  | _ => []

theorem Phase.requests_of_isQuiet {phase : Phase} (h : phase.isQuiet) (settings : DeliverySettings)
    (clock : Nat) : phase.requests settings clock = [] := by
  cases phase with
  | sending rows => cases h
  | _ => rfl

/-- What a loop has to do with events that are sent but not removed, and with those that are yet to be sent. -/
def Phase.Shares (sent rest : List EventRow) : Phase → Prop
  | .sending rows => sent = [] ∧ rows <+: rest
  | .settling outcome => outcome.settledIds.Perm (sent.map (·.id))
  | _ => sent = []

theorem Phase.shares_of_isQuiet {phase : Phase} {sent rest : List EventRow} (h : phase.isQuiet) :
    phase.Shares sent rest ↔ sent = [] := by
  cases phase with
  | sending rows | settling outcome => cases h
  | _ => rfl

theorem afterRead_shares {rows rest : List EventRow} (h : rows <+: rest) :
    (SendLoop.afterRead rows).Shares [] rest := by
  unfold SendLoop.afterRead
  split_ifs
  · rfl
  · exact ⟨rfl, h⟩

theorem filter_settled {sent rest : List EventRow} {ids : List Int}
    (settled : ids.Perm (sent.map (·.id))) (nodup : ((sent ++ rest).map (·.id)).Nodup) :
    (sent ++ rest).filter (fun event => !ids.contains event.id) = rest := by
  rw [List.map_append] at nodup
  have apart := List.disjoint_of_nodup_append nodup
  rw [List.filter_append, List.filter_eq_nil_iff.2, List.filter_eq_self.2, List.nil_append]
  · intro event hevent
    have other : event.id ∉ ids := fun hid =>
      apart (settled.subset hid) (List.mem_map_of_mem hevent)
    simpa using other
  · intro event hevent
    simpa using settled.symm.subset (List.mem_map_of_mem hevent)

namespace Scene

/-- A new emitter on a queue of payloads, with a collector that accepts everything. -/
structure Undisturbed (scene : Scene) : Prop where
  new : scene.IsNew
  readable : ∀ row ∈ scene.db.rows, row.payload?.isSome
  accepted : ∀ n, (scene.surroundings.answer n).isSuccess

def requestsSince (first scene : Scene) : List Request :=
  (exchangesOf (first.recordsSince scene)).map (·.request)

structure Steady (first scene : Scene) : Prop where
  policy : scene.emitter.policy = first.emitter.policy
  same : first.db.SameElse scene.db
  opened : scene.db.isOpen
  readable : ∀ row ∈ scene.db.rows, row.payload?.isSome
  accepted : ∀ n, (scene.surroundings.answer n).isSuccess
  history : first.surroundings.history <+: scene.surroundings.history

variable {first scene : Scene} {place : Nat} {turns : Nat → Turn}

theorem IsNew.still (h : scene.IsNew) : scene.emitter.isRunning = false ∧ scene.emitter.loops = [] := by
  obtain ⟨url, method, settings, made, -⟩ := h.made
  obtain ⟨-, signals, loops⟩ := setRules_frame made
  exact ⟨by rw [Emitter.isRunning, signals], loops⟩

theorem Undisturbed.text (h : scene.Undisturbed) : ∀ row ∈ scene.db.rows, row.isBlob = false :=
  fun row hrow => Store.isBlob_of_payload? (h.readable row hrow)

theorem Undisturbed.steady (h : scene.Undisturbed) : Steady scene (scene.take .flush) := by
  rw [take_flush h.new.idle]
  exact ⟨rfl, .refl _, h.new.opened, h.readable, h.accepted, List.prefix_rfl⟩

theorem Steady.caller (h : Steady first scene) {caller : Stage} {emitter : Emitter}
    (step : scene.caller.step true scene.emitter = some (.ok (caller, emitter))) :
    Steady first { scene with caller, emitter } :=
  ⟨(Stage.step_policy step).trans h.policy, h.same, h.opened, h.readable, h.accepted, h.history⟩

theorem Steady.loop (h : Steady first scene) {emitter : Emitter} {s : Surroundings}
    (stepped : scene.emitter.stepLoop place scene.surroundings = some (emitter, s)) :
    Steady first { scene with emitter, surroundings := s } := by
  obtain ⟨loop, loop', signals, -, step, rfl⟩ := Scene.take_loop stepped
  have same := SendLoop.step_sameElse step
  have fewer := (SendLoop.step_rows_sublist step).subset
  exact ⟨h.policy, h.same.trans same, same.2.2.trans h.opened,
    fun row hrow => h.readable row (fewer hrow),
    fun n => SendLoop.step_answer step ▸ h.accepted n, h.history.trans (SendLoop.step_history step)⟩

theorem Steady.take (h : Steady first scene) {turn : Turn} (own : turn.isOwn) :
    Steady first (scene.take turn) :=
  take_own own h (fun _ _ => h.caller) (fun _ _ _ => h.loop)
    fun _ => ⟨h.policy, h.same, h.opened, h.readable, h.accepted, h.history⟩

theorem Steady.along (h : Steady first scene) (own : ∀ k, (turns k).isOwn) (k : Nat) :
    Steady first (scene.along turns k) := by
  induction k with
  | zero => exact h
  | succ k ih => exact ih.take (own k)

theorem requestsSince_append (h : Steady first scene) {after : Scene} {records : List Record}
    (history : after.surroundings.history = scene.surroundings.history ++ records) :
    requestsSince first after =
      requestsSince first scene ++ (exchangesOf records).map (·.request) := by
  rw [requestsSince, requestsSince, recordsSince, recordsSince, history,
    List.drop_append_of_le_length h.history.length_le, exchangesOf_append, List.map_append]

/-- A step of a loop adds the requests for the batch that it sends, if any. -/
theorem Steady.requests_loop (h : Steady first scene) {loop loop' : SendLoop} (emitter : Emitter)
    {signals : Signals} {s : Surroundings}
    (step : loop.step scene.emitter.policy scene.emitter.signals scene.surroundings =
      some (loop', signals, s)) :
    first.requestsSince { scene with emitter, surroundings := s } =
      first.requestsSince scene ++
        loop.phase.requests first.emitter.policy.settings scene.surroundings.clock := by
  obtain ⟨-, quiet, -, rfl⟩ | ⟨reading, -, rfl, -⟩ | ⟨rows, sending, -, rfl, -⟩ |
    ⟨outcome, settling, -, rfl, -⟩ := SendLoop.step_cases step
  · rw [Phase.requests_of_isQuiet quiet, List.append_nil]
    rfl
  · rw [reading, SendLoop.read_eq]
    exact (List.append_nil _).symm
  · rw [sending, requestsSince_append h rfl, exchangesOf_exchanged, Phase.requests, ← h.policy]
    exact congrArg _ (SendLoop.round_requests _ _ rows)
  · rw [settling, requestsSince_append h rfl, exchangesOf_noticed]
    rfl

/-- The batches that were sent, the events that were sent but not removed, and those that are yet to be sent. -/
structure Shared (place : Nat) (first scene : Scene) (batches : List (Nat × List EventRow))
    (sent rest : List EventRow) : Prop where
  requests : first.requestsSince scene = requestsOf first.emitter.policy.settings batches
  whole : batches.flatMap (·.2) ++ rest = readableRows first.db.rows
  kept : readableRows scene.db.rows = sent ++ rest
  phase : (scene.phaseAt place).Shares sent rest

theorem Shared.caller {batches : List (Nat × List EventRow)} {sent rest : List EventRow}
    (h : Shared place first scene batches sent rest) {caller : Stage} {emitter : Emitter}
    (step : scene.caller.step true scene.emitter = some (.ok (caller, emitter))) :
    Shared place first { scene with caller, emitter } batches sent rest := by
  refine ⟨h.requests, h.whole, h.kept, ?_⟩
  obtain same | ⟨quiet, quiet'⟩ := phaseAt_caller place step
  · exact same ▸ h.phase
  · exact (Phase.shares_of_isQuiet quiet').2 ((Phase.shares_of_isQuiet quiet).1 h.phase)

theorem Shared.loop {batches : List (Nat × List EventRow)} {sent rest : List EventRow}
    (h : Shared place first scene batches sent rest) (steady : Steady first scene)
    (flushing : scene.Flushing place) {q : Nat} {emitter : Emitter} {s : Surroundings}
    (stepped : scene.emitter.stepLoop q scene.surroundings = some (emitter, s)) :
    ∃ batches sent rest,
      Shared place first { scene with emitter, surroundings := s } batches sent rest := by
  obtain ⟨rfl, loop, loop', signals, hloop, step, new⟩ := flushing.take_loop stepped
  have sound := flushing.orderly.sound loop (List.mem_of_getElem? hloop)
  have requests := steady.requests_loop emitter step
  subst new
  have shares := h.phase
  rw [h.requests] at requests
  rw [phaseAt_of_some hloop] at shares
  suffices next : ∃ batches' sent' rest',
      requestsOf first.emitter.policy.settings batches ++ loop.phase.requests
        first.emitter.policy.settings scene.surroundings.clock =
          requestsOf first.emitter.policy.settings batches' ∧
      batches'.flatMap (·.2) ++ rest' = readableRows first.db.rows ∧
      readableRows s.db.rows = sent' ++ rest' ∧ loop'.phase.Shares sent' rest' by
    obtain ⟨batches', sent', rest', same, whole, kept, phase⟩ := next
    exact ⟨batches', sent', rest', requests.trans same, whole, kept,
      (phaseAt_set hloop loop' signals s).symm ▸ phase⟩
  clear requests
  obtain ⟨-, quiet, quiet', rfl⟩ | ⟨reading, -, rfl, phase⟩ | ⟨rows, sending, -, rfl, phase⟩ |
    ⟨outcome, settling, -, rfl, quiet'⟩ := SendLoop.step_cases step
  · refine ⟨batches, sent, rest, ?_, h.whole, h.kept, ?_⟩
    · rw [Phase.requests_of_isQuiet quiet, List.append_nil]
    · exact (Phase.shares_of_isQuiet quiet').2 ((Phase.shares_of_isQuiet quiet).1 shares)
  · obtain rfl : sent = [] := by rwa [reading] at shares
    obtain ⟨initial, same⟩ :=
      SendLoop.read_initial scene.emitter.policy steady.opened steady.readable
    have whole : readableRows scene.surroundings.db.rows = rest := h.kept
    rw [same, reading, phase]
    exact ⟨batches, [], rest, List.append_nil _, h.whole, whole, afterRead_shares (whole ▸ initial)⟩
  · rw [sending] at shares
    obtain ⟨rfl, later, rfl⟩ := shares
    refine ⟨batches ++ [(scene.surroundings.clock, rows)], rows, later, ?_, ?_, h.kept, ?_⟩
    · rw [sending, requestsOf_concat]
      rfl
    · simpa using h.whole
    · rw [phase]
      exact SendLoop.round_settles _ steady.accepted rows
  · rw [settling] at shares
    have few := sound.stake_le flushing.opened flushing.fits
    rw [settling] at few
    have deleted := SendLoop.settle_deletes scene.emitter.policy flushing.opened few
    have kept : readableRows scene.surroundings.db.rows = sent ++ rest := h.kept
    have nodup : ((sent ++ rest).map (·.id)).Nodup :=
      kept ▸ (Store.readableRows_ids_sublist _).nodup (Store.ids_nodup (Database.rows_ascending _))
    refine ⟨batches, [], rest, by rw [settling]; exact List.append_nil _, h.whole, ?_,
      (Phase.shares_of_isQuiet quiet').2 rfl⟩
    rw [(Database.delete_rows deleted).2,
      Store.readableRows_filter _ fun id => !outcome.settledIds.contains id, kept]
    exact filter_settled shares nodup

theorem Flushing.exists_shared (flushing : scene.Flushing place) (steady : Steady first scene)
    (own : ∀ k, (turns k).isOwn) {batches : List (Nat × List EventRow)} {sent rest : List EventRow}
    (h : Shared place first scene batches sent rest) (k : Nat) :
    ∃ batches sent rest, Shared place first (scene.along turns k) batches sent rest := by
  induction k with
  | zero => exact ⟨batches, sent, rest, h⟩
  | succ k ih =>
    obtain ⟨batches, sent, rest, shared⟩ := ih
    rw [Scene.along]
    exact take_own (own k) ⟨batches, sent, rest, shared⟩
      (fun _ _ step => ⟨batches, sent, rest, shared.caller step⟩)
      (fun _ _ _ => shared.loop (steady.along own k) (flushing.along own k))
      fun ms => ⟨batches, sent, rest, shared.requests, shared.whole, shared.kept, shared.phase⟩

/-- The whole queue was sent, batch by batch, each event in one request, and nothing is left of it. -/
structure Delivered (first last : Scene) : Prop where
  stopped : last.emitter.isRunning = false
  batches : ∃ batches : List (Nat × List EventRow),
    batches.flatMap (·.2) = readableRows first.db.rows ∧
      first.requestsSince last = requestsOf first.emitter.policy.settings batches
  once : ((first.requestsSince last).flatMap (·.rowIds)).Perm (first.db.rows.map (·.id))
  store : last.db = first.db.queued Table.empty

/-- A flush comes to its end, with everything delivered. -/
structure Drains (first : Scene) (turns : Nat → Turn) : Prop where
  returns : ∃ k, ((first.take .flush).along turns k).caller = .done
  delivers : ∀ k, ((first.take .flush).along turns k).caller = .done →
    first.Delivered ((first.take .flush).along turns k)

theorem Undisturbed.retries_le (h : first.Undisturbed) (own : ∀ k, (turns k).isOwn) (k : Nat) :
    ((first.take .flush).along turns k).retries ≤ (first.take .flush).retries := by
  obtain ⟨answer, bound⟩ := (first.take .flush).retries_along_le own k
  have accepted := (h.steady.along own k).accepted
  have none : ((first.take .flush).along turns k).surroundings.failures = 0 := by
    rw [Surroundings.failures, List.countP_eq_zero]
    intro n _ failed
    simp [accepted n] at failed
  omega

theorem Undisturbed.drains_of_fits (h : first.Undisturbed) (fits : first.emitter.policy.Fits first.db)
    (own : ∀ k, (turns k).isOwn) (fair : Fair turns) : first.Drains turns := by
  obtain ⟨place, flushing⟩ := h.new.orderly.flushing h.new.idle h.new.opened h.text fits
  refine ⟨flushing.returns own fair (h.retries_le own), fun k done => ?_⟩
  have begun := take_flush h.new.idle
  have still := h.new.still
  have truthful : (first.take .flush).Truthful := by
    rw [begun]
    refine ⟨fun loop hloop => ?_, by simp, fun past => by cases past⟩
    rw [still.2] at hloop
    cases hloop
  have start : Shared place first (first.take .flush) [] [] (readableRows first.db.rows) := by
    rw [begun]
    refine ⟨?_, rfl, rfl, ?_⟩
    · simp [requestsSince, recordsSince, exchangesOf, requestsOf]
    · simp [phaseAt, still.2, Phase.Shares]
  obtain ⟨batches, sent, rest, shared⟩ := flushing.exists_shared h.steady own start k
  have steady := h.steady.along own k
  have empty := (truthful.along flushing own k).past (by rw [done]; rfl)
  have nothing := shared.kept
  rw [empty] at nothing
  obtain ⟨rfl, rfl⟩ := List.append_eq_nil_iff.1 nothing.symm
  have whole : batches.flatMap (·.2) = readableRows first.db.rows := by simpa using shared.whole
  refine ⟨(flushing.along own k).down done, ⟨batches, whole, shared.requests⟩, ?_,
    steady.same.eq_queued steady.opened empty⟩
  have once := requestsOf_rowIds_perm first.emitter.policy.settings batches
  rwa [whole, Store.readableRows_ids h.readable, ← shared.requests] at once

end Scene

end Telemetry.Delivery

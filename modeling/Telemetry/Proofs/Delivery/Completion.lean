import Telemetry.Proofs.Delivery.Accounts

set_option autoImplicit false

namespace Telemetry.Store.Database

theorem delete_perm (db : Database) {ids others : List Int} (same : ids.Perm others) :
    db.delete ids = db.delete others := by
  have named (table : Table) : table.remove ids = table.remove others := by
    simp only [Table.remove, List.contains_eq_mem, same.mem_iff]
  simp only [delete, same.isEmpty_eq, same.length_eq, named]

end Telemetry.Store.Database

namespace Telemetry.Delivery

open Store (Database EventRow)

def Notice.Alike (a b : Notice) : Prop := a.status = b.status ∧ a.eventIds.Perm b.eventIds

structure Outcome.Alike (a b : Outcome) : Prop where
  ids : ∀ status, (a.idsWith status).Perm (b.idsWith status)
  settled : a.settledIds.Perm b.settledIds
  retries : a.retries = b.retries

namespace Outcome

variable {a b : Outcome}

theorem Alike.notices (h : a.Alike b) (subscribed : List DeliveryStatus) :
    List.Forall₂ Notice.Alike (a.notices subscribed) (b.notices subscribed) := by
  unfold Outcome.notices
  simp only [(h.ids _).isEmpty_eq]
  rw [List.forall₂_map_left_iff, List.forall₂_map_right_iff, List.forall₂_same]
  intro status _
  exact ⟨rfl, h.ids status⟩

/-- From outcomes that differ in order a loop goes on in the same way: it backs off or not, the same rows are
deleted, if that succeeds, and the same is reported. -/
theorem Alike.step (h : a.Alike b) (policy : Policy) (failures : Nat) (signals : Signals)
    (s : Surroundings) : ∃ loop db reports others,
      db = (s.db.delete a.settledIds).toOption.getD s.db ∧ List.Forall₂ Notice.Alike reports others ∧
      SendLoop.step policy ⟨.settling a, failures⟩ signals s =
        some (loop, signals, { s with db, history := s.history ++ reports.map .noticed }) ∧
      SendLoop.step policy ⟨.settling b, failures⟩ signals s =
        some (loop, signals, { s with db, history := s.history ++ others.map .noticed }) := by
  simp only [SendLoop.step, SendLoop.settle, h.retries, s.db.delete_perm h.settled]
  refine ⟨_, _, _, _, ?_, h.notices policy.subscribed, rfl, rfl⟩
  cases s.db.delete b.settledIds <;> rfl

end Outcome

/-- Two answers about one row are the same, as each row is in one request only. -/
theorem exchange_eq_of_mem {exchanges : List Exchange} {a b : Exchange} {id : Int}
    (once : (exchanges.flatMap (·.request.rowIds)).Nodup) (ha : a ∈ exchanges) (hb : b ∈ exchanges)
    (hida : id ∈ a.request.rowIds) (hidb : id ∈ b.request.rowIds) : a = b := by
  have symmetric : Std.Symm (Function.onFun List.Disjoint fun exchange : Exchange =>
      exchange.request.rowIds) := ⟨fun _ _ apart => apart.symm⟩
  by_contra other
  exact (List.nodup_flatMap.1 once).2.forall ha hb other hida hidb

namespace Outcome

variable {rules : RetryRules} {rows : List EventRow} {exchanges : List Exchange}

theorem eventIds_map {part : List EventRow} (distinct : (rows.map (·.id)).Nodup)
    (among : part ⊆ rows) : eventIds rows (part.map (·.id)) =
      part.filterMap (·.payload.get? Protocol.eventIdKey) := by
  rw [eventIds, List.filterMap_map]
  apply List.filterMap_congr
  intro row hrow
  have listed : (rows.find? (·.id = row.id)).isSome :=
    List.find?_isSome.2 ⟨row, among hrow, by simp⟩
  obtain ⟨found, hfound⟩ := Option.isSome_iff_exists.1 listed
  have id : found.id = row.id := by simpa using List.find?_some hfound
  have same := List.inj_on_of_nodup_map distinct (List.mem_of_find?_eq_some hfound) (among hrow) id
  simp only [Function.comp_apply, hfound, same, Option.bind_some]

theorem rowsWith_sublist (rules : RetryRules) (status : DeliveryStatus) (exchanges : List Exchange) :
    (rowsWith rules status exchanges).Sublist (exchanges.flatMap (·.request.rowIds)) :=
  List.filter_sublist.flatMap _

/-- A status is reported for the events of the rows whose requests got it, once for each. -/
theorem ofExchanges_idsWith_perm (distinct : (rows.map (·.id)).Nodup)
    (shares : (exchanges.flatMap (·.request.rowIds)).Perm (rows.map (·.id)))
    (status : DeliveryStatus) : ((ofExchanges rules rows exchanges).idsWith status).Perm
      ((rows.filter (·.id ∈ rowsWith rules status exchanges)).filterMap
        (·.payload.get? Protocol.eventIdKey)) := by
  have part := rowsWith_sublist rules status exchanges
  have ids : (rowsWith rules status exchanges).Perm
      ((rows.filter (·.id ∈ rowsWith rules status exchanges)).map (·.id)) := by
    apply (List.perm_ext_iff_of_nodup (part.nodup (shares.nodup_iff.2 distinct))
      ((List.filter_sublist.map _).nodup distinct)).2
    intro id
    simp only [List.mem_map, List.mem_filter, decide_eq_true_eq]
    constructor
    · intro listed
      obtain ⟨row, hrow, rfl⟩ := List.mem_map.1 (shares.subset (part.subset listed))
      exact ⟨row, ⟨hrow, listed⟩, rfl⟩
    · rintro ⟨row, ⟨-, listed⟩, rfl⟩
      exact listed
  rw [ofExchanges_idsWith_rowsWith, ← eventIds_map distinct (List.filter_subset_self rows)]
  exact ids.filterMap _

theorem foldl_retries (rules : RetryRules) (rows : List EventRow) (results : List RequestResult)
    (outcome : Outcome) : (results.foldl (add rules rows) outcome).retries =
      (outcome.retries || results.any (·.shouldRetry rules)) := by
  induction results generalizing outcome with
  | nil => simp
  | cons result rest ih =>
    have retry : result.status rules = .willRetry ↔ result.shouldRetry rules :=
      RequestResult.status_eq_willRetry_iff
    rw [List.foldl_cons, ih, List.any_cons, ← Bool.or_assoc]
    congr 1
    unfold add
    cases status : result.status rules <;> simp_all

/-- Something is to be sent again if some request got no final answer. -/
theorem ofExchanges_retries (rules : RetryRules) (rows : List EventRow) (exchanges : List Exchange) :
    (ofExchanges rules rows exchanges).retries = exchanges.any (!·.isFinal rules) := by
  rw [Bool.eq_iff_iff]
  simp only [ofExchanges, ofResults, foldl_retries, empty, Bool.false_or, Bool.or_eq_true,
    decide_eq_true_eq, Nat.sub_pos_iff_lt, List.length_filterMap_lt_length_iff_exists,
    List.any_eq_true, List.mem_filterMap]
  constructor
  · rintro (⟨result, ⟨exchange, made, answered⟩, retry⟩ | ⟨exchange, made, lost⟩)
    · exact ⟨exchange, made, by simp [Exchange.isFinal, answered, retry]⟩
    · exact ⟨exchange, made, by simp [Exchange.isFinal, lost]⟩
  · rintro ⟨exchange, made, again⟩
    cases answered : exchange.answer.result? exchange.request with
    | none => exact .inr ⟨exchange, made, answered⟩
    | some result =>
      refine .inl ⟨result, ⟨exchange, made, answered⟩, ?_⟩
      simpa [Exchange.isFinal, answered] using again

/-- Something is to be sent again exactly if a row is not done with. -/
theorem ofExchanges_retries_iff (distinct : (rows.map (·.id)).Nodup)
    (shares : (exchanges.flatMap (·.request.rowIds)).Perm (rows.map (·.id)))
    (filled : ∀ exchange ∈ exchanges, exchange.request.rowIds ≠ []) :
    (ofExchanges rules rows exchanges).retries = true ↔
      ∃ row ∈ rows, row.id ∉ (ofExchanges rules rows exchanges).settledIds := by
  have once := shares.nodup_iff.2 distinct
  rw [ofExchanges_retries, ofExchanges_settledIds, List.any_eq_true]
  constructor
  · rintro ⟨exchange, hexchange, again⟩
    obtain ⟨id, hid⟩ := List.exists_mem_of_ne_nil _ (filled exchange hexchange)
    obtain ⟨row, hrow, rfl⟩ := List.mem_map.1
      (shares.subset (List.mem_flatMap.2 ⟨exchange, hexchange, hid⟩))
    refine ⟨row, hrow, fun settled => ?_⟩
    obtain ⟨other, hother, hid'⟩ := List.mem_flatMap.1 settled
    obtain ⟨hother, final⟩ := List.mem_filter.1 hother
    rw [exchange_eq_of_mem once hother hexchange hid' hid] at final
    simp [final] at again
  · rintro ⟨row, hrow, left⟩
    obtain ⟨exchange, hexchange, hid⟩ := List.mem_flatMap.1
      (shares.symm.subset (List.mem_map_of_mem hrow))
    refine ⟨exchange, hexchange, ?_⟩
    by_contra final
    refine left (List.mem_flatMap.2 ⟨exchange, List.mem_filter.2 ⟨hexchange, ?_⟩, hid⟩)
    simpa using final

theorem Alike.of_perm {first second : List Exchange} (rules : RetryRules) (rows : List EventRow)
    (same : first.Perm second) :
    (ofExchanges rules rows first).Alike (ofExchanges rules rows second) where
  ids status := by
    rw [ofExchanges_idsWith, ofExchanges_idsWith]
    exact (same.filter _).flatMap_right _
  settled := by
    rw [ofExchanges_settledIds, ofExchanges_settledIds]
    exact (same.filter _).flatMap_right _
  retries := by rw [ofExchanges_retries, ofExchanges_retries, same.any_eq]

end Outcome

theorem Exchange.status?_eq_none_iff {rules : RetryRules} {exchange : Exchange} :
    exchange.status? rules = none ↔ exchange.answer = .lost := by
  rw [status?, Option.map_eq_none_iff, Answer.result?_eq_none_iff]

/-- A row has the status that its request got, and no other. -/
theorem mem_rowsWith_iff {rules : RetryRules} {exchanges : List Exchange} {exchange : Exchange}
    {id : Int} (once : (exchanges.flatMap (·.request.rowIds)).Nodup) (made : exchange ∈ exchanges)
    (carried : id ∈ exchange.request.rowIds) (status : DeliveryStatus) :
    id ∈ rowsWith rules status exchanges ↔ exchange.status? rules = some status := by
  rw [mem_rowsWith]
  constructor
  · rintro ⟨other, hother, got, hid⟩
    rwa [exchange_eq_of_mem once hother made hid carried] at got
  · intro got
    exact ⟨exchange, made, got, carried⟩

/-- Whatever the answers to the requests of a batch and in whatever order they come in: the same rows are
settled, the same events are reported, and the loop goes on in the same way. Every row whose request was
answered is reported with one status, and there is something to send again exactly if a row is left. -/
theorem round_order_free {settings : DeliverySettings} {clock : Nat} {rows : List EventRow}
    {exchanges first second : List Exchange} (rules : RetryRules)
    (distinct : (rows.map (·.id)).Nodup)
    (sent : exchanges.map (·.request) = requestsFor settings clock rows)
    (hfirst : first.Perm exchanges) (hsecond : second.Perm exchanges) :
    let outcome := Outcome.ofExchanges rules rows first
    let other := Outcome.ofExchanges rules rows second
    outcome.Alike other ∧
      (∀ policy failures signals s, ∃ loop db reports others,
        db = (s.db.delete outcome.settledIds).toOption.getD s.db ∧
        List.Forall₂ Notice.Alike reports others ∧
        SendLoop.step policy ⟨.settling outcome, failures⟩ signals s =
          some (loop, signals, { s with db, history := s.history ++ reports.map .noticed }) ∧
        SendLoop.step policy ⟨.settling other, failures⟩ signals s =
          some (loop, signals, { s with db, history := s.history ++ others.map .noticed })) ∧
      (∀ status, (outcome.idsWith status).Perm
        ((rows.filter (·.id ∈ rowsWith rules status exchanges)).filterMap
          (·.payload.get? Protocol.eventIdKey))) ∧
      (∀ exchange ∈ exchanges, ∀ id ∈ exchange.request.rowIds,
        (exchange.answer ≠ .lost → ∃! status, id ∈ rowsWith rules status exchanges) ∧
        (exchange.answer = .lost → ∀ status, id ∉ rowsWith rules status exchanges)) ∧
      (outcome.retries = true ↔ ∃ row ∈ rows, row.id ∉ outcome.settledIds) := by
  intro outcome other
  have shares := exchanges_rowIds_perm sent
  have sharesFirst := (hfirst.flatMap_right (·.request.rowIds)).trans shares
  have filled : ∀ exchange ∈ first, exchange.request.rowIds ≠ [] := by
    intro exchange hexchange
    apply requestsFor_rowIds_ne_nil settings clock rows
    rw [← sent]
    exact List.mem_map_of_mem (hfirst.subset hexchange)
  have alike : outcome.Alike other := .of_perm rules rows (hfirst.trans hsecond.symm)
  refine ⟨alike, alike.step, fun status => ?_, fun exchange hexchange id hid => ?_,
    Outcome.ofExchanges_retries_iff distinct sharesFirst filled⟩
  · have reported := (Outcome.Alike.of_perm rules rows hfirst).ids status
    exact reported.trans (Outcome.ofExchanges_idsWith_perm distinct shares status)
  · have given (status : DeliveryStatus) :
        id ∈ rowsWith rules status exchanges ↔ exchange.status? rules = some status :=
      mem_rowsWith_iff (shares.nodup_iff.2 distinct) hexchange hid status
    have lost : exchange.status? rules = none ↔ exchange.answer = .lost :=
      Exchange.status?_eq_none_iff
    simp only [given]
    constructor
    · intro answered
      obtain ⟨status, hstatus⟩ := Option.ne_none_iff_exists'.1 (mt lost.1 answered)
      refine ⟨status, hstatus, fun other hother => ?_⟩
      exact Option.some.inj (hother.symm.trans hstatus)
    · intro answer status
      rw [lost.2 answer]
      exact nofun

/-- A delivered event, one to try again and one whose request was lost, collected in the order of the
requests and in the reverse order. -/
theorem round_order_free_mixed :
    let settings : DeliverySettings := { Policy.plain.settings with method := .get }
    let rows : List EventRow := [⟨1, .ofPairs [("eid", "a")]⟩, ⟨2, .ofPairs [("eid", "b")]⟩,
      ⟨3, .ofPairs [("eid", "c")]⟩]
    let exchanges := (requestsFor settings 0 rows).zipWith Exchange.mk
      [.status 200, .status 500, .lost]
    let outcome := Outcome.ofExchanges .empty rows exchanges
    (rows.map (·.id)).Nodup ∧ exchanges.map (·.request) = requestsFor settings 0 rows ∧
      outcome.Alike (Outcome.ofExchanges .empty rows exchanges.reverse) ∧
      (outcome.retries = true ↔ ∃ row ∈ rows, row.id ∉ outcome.settledIds) := by
  intro settings rows exchanges outcome
  have distinct : (rows.map (·.id)).Nodup := by simp [rows]
  have sent : exchanges.map (·.request) = requestsFor settings 0 rows := rfl
  obtain ⟨alike, -, -, -, left⟩ :=
    round_order_free .empty distinct sent (.refl _) (List.reverse_perm exchanges)
  exact ⟨distinct, sent, alike, left⟩

end Telemetry.Delivery

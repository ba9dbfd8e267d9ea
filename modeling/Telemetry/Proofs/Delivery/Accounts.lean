import Mathlib.Algebra.BigOperators.Group.Finset.Basic
import Mathlib.Algebra.GroupWithZero.Nat
import Telemetry.Proofs.Delivery.Batches

set_option autoImplicit false

namespace Telemetry.Store

def EventRow.IsNamed (event : EventRow) : Prop := (event.payload.get? Protocol.eventIdKey).isSome

/-- Whether a row is read as an event with an identifier. -/
def Row.IsNamed (row : Row) : Prop :=
  ∃ payload, row.payload? = some payload ∧ (payload.get? Protocol.eventIdKey).isSome

theorem Row.isNamed_iff (row : Row) :
    (row.payload?.any fun payload => (payload.get? Protocol.eventIdKey).isSome) ↔ row.IsNamed :=
  Option.any_eq_true _ _

instance (row : Row) : Decidable row.IsNamed := decidable_of_iff _ row.isNamed_iff

end Telemetry.Store

namespace Telemetry.Delivery

open Store (Database EventRow Row readableRows)

def Exchange.status? (rules : RetryRules) (exchange : Exchange) : Option DeliveryStatus :=
  (exchange.answer.result? exchange.request).map (·.status rules)

def rowsWith (rules : RetryRules) (status : DeliveryStatus) (exchanges : List Exchange) : List Int :=
  (exchanges.filter fun exchange => exchange.status? rules = some status).flatMap (·.request.rowIds)

def lastExchange? (exchanges : List Exchange) (id : Int) : Option Exchange :=
  (exchanges.filter fun exchange => id ∈ exchange.request.rowIds).getLast?

def timesRefused (rules : RetryRules) (exchanges : List Exchange) (id : Int) : Nat :=
  exchanges.countP fun exchange =>
    id ∈ exchange.request.rowIds ∧ exchange.answer ≠ .lost ∧ exchange.isFinal rules = false

def Closed (rules : RetryRules) (exchanges : List Exchange) : Prop :=
  exchanges.Pairwise fun earlier later =>
    earlier.isFinal rules → ∀ id ∈ earlier.request.rowIds, id ∉ later.request.rowIds

variable {rules : RetryRules} {exchanges : List Exchange} {status : DeliveryStatus}

theorem rowsWith_append (rules : RetryRules) (status : DeliveryStatus) (a b : List Exchange) :
    rowsWith rules status (a ++ b) = rowsWith rules status a ++ rowsWith rules status b := by
  simp [rowsWith]

theorem mem_rowsWith {id : Int} : id ∈ rowsWith rules status exchanges ↔
    ∃ exchange ∈ exchanges, exchange.status? rules = some status ∧ id ∈ exchange.request.rowIds := by
  simp [rowsWith, and_assoc]

theorem rowsWith_perm {other : List Exchange} (perm : exchanges.Perm other) :
    (rowsWith rules status exchanges).Perm (rowsWith rules status other) :=
  (perm.filter _).flatMap_right _

theorem RequestResult.status_eq_success_iff {result : RequestResult} :
    result.status rules = .success ↔ result.isSuccess := by
  unfold status
  split_ifs with success <;> simp [success]

theorem Answer.result?_eq_none_iff (answer : Answer) (request : Request) :
    answer.result? request = none ↔ answer = .lost := by
  cases answer <;> simp [result?]

theorem Answer.any_isSuccess (answer : Answer) (request : Request) :
    (answer.result? request).any (·.isSuccess) = answer.isSuccess := by
  cases answer <;> simp [result?, isSuccess, RequestResult.new, RequestResult.isSuccess]

namespace Exchange

variable {exchange : Exchange}

theorem isFinal_iff : exchange.isFinal rules ↔
    exchange.status? rules = some .success ∨ exchange.status? rules = some .wontRetry := by
  unfold isFinal status?
  cases exchange.answer.result? exchange.request with
  | none => simp
  | some result =>
    have retry : result.status rules = .willRetry ↔ result.shouldRetry rules :=
      RequestResult.status_eq_willRetry_iff
    cases same : result.status rules <;> simp_all

theorem status?_eq_success_iff : exchange.status? rules = some .success ↔ exchange.answer.isSuccess := by
  rw [← exchange.answer.any_isSuccess exchange.request, status?]
  cases exchange.answer.result? exchange.request with
  | none => simp
  | some result => simp [RequestResult.status_eq_success_iff]

theorem status?_eq_wontRetry_iff : exchange.status? rules = some .wontRetry ↔
    exchange.isFinal rules ∧ exchange.answer.isSuccess = false := by
  have success : exchange.status? rules = some .success ↔ exchange.answer.isSuccess := status?_eq_success_iff
  rw [isFinal_iff, ← Bool.not_eq_true, ← success]
  cases exchange.status? rules with
  | none => simp
  | some status => cases status <;> simp

theorem status?_eq_willRetry_iff : exchange.status? rules = some .willRetry ↔
    exchange.answer ≠ .lost ∧ exchange.isFinal rules = false := by
  rw [← Bool.not_eq_true, isFinal_iff, ne_eq, ← exchange.answer.result?_eq_none_iff exchange.request, status?]
  cases exchange.answer.result? exchange.request with
  | none => simp
  | some result => cases same : result.status rules <;> simp [same]

theorem isFinal_of_status? (h : exchange.status? rules = some status) (final : status ≠ .willRetry) :
    exchange.isFinal rules := by
  apply isFinal_iff.2
  cases status with
  | success => exact .inl h
  | wontRetry => exact .inr h
  | willRetry => exact absurd rfl final

end Exchange

theorem rowsWith_cons (rules : RetryRules) (status : DeliveryStatus) (exchange : Exchange)
    (rest : List Exchange) : rowsWith rules status (exchange :: rest) =
      (if exchange.status? rules = some status then exchange.request.rowIds else []) ++
        rowsWith rules status rest := by
  unfold rowsWith
  by_cases same : exchange.status? rules = some status <;> simp [same]

theorem final_rows_perm (rules : RetryRules) (exchanges : List Exchange) :
    ((exchanges.filter (·.isFinal rules)).flatMap (·.request.rowIds)).Perm
      (rowsWith rules .success exchanges ++ rowsWith rules .wontRetry exchanges) := by
  induction exchanges with
  | nil => exact .refl _
  | cons exchange rest ih =>
    rw [rowsWith_cons, rowsWith_cons]
    by_cases final : exchange.isFinal rules
    · rw [List.filter_cons_of_pos final, List.flatMap_cons]
      rcases Exchange.isFinal_iff.1 final with success | refused
      · simpa [success] using ih.append_left _
      · simpa [refused] using (ih.append_left _).trans (List.perm_append_comm_assoc _ _ _)
    · rw [List.filter_cons_of_neg final]
      have other := not_or.1 (mt Exchange.isFinal_iff.2 final)
      rw [if_neg other.1, if_neg other.2]
      exact ih

theorem lastExchange?_cons (exchange : Exchange) (rest : List Exchange) (id : Int) :
    lastExchange? (exchange :: rest) id =
      (lastExchange? rest id).or (if id ∈ exchange.request.rowIds then some exchange else none) := by
  unfold lastExchange?
  by_cases sent : id ∈ exchange.request.rowIds
  · rw [List.filter_cons_of_pos (by simpa using sent), if_pos sent, List.getLast?_cons]
    cases List.getLast? _ <;> rfl
  · rw [List.filter_cons_of_neg (by simpa using sent), if_neg sent, Option.or_none]

/-- While rows are not sent again after a final answer, that answer is the last one. -/
theorem Closed.lastExchange?_iff (closed : Closed rules exchanges) (final : status ≠ .willRetry) (id : Int) :
    (lastExchange? exchanges id).bind (·.status? rules) = some status ↔
      id ∈ rowsWith rules status exchanges := by
  induction exchanges with
  | nil => simp [lastExchange?, rowsWith]
  | cons exchange rest ih =>
    obtain ⟨apart, closed⟩ := List.pairwise_cons.1 closed
    rw [lastExchange?_cons, rowsWith_cons, List.mem_append, ← ih closed]
    by_cases sent : id ∈ exchange.request.rowIds
    · by_cases same : exchange.status? rules = some status
      · -- The answer is final, so no later exchange is about the row.
        have none : lastExchange? rest id = none := by
          rw [lastExchange?, List.getLast?_eq_none_iff, List.filter_eq_nil_iff]
          intro later hlater
          simpa using apart later hlater (Exchange.isFinal_of_status? same final) id sent
        rw [none, if_pos sent, if_pos same]
        exact iff_of_true same (.inl sent)
      · rw [if_pos sent, if_neg same]
        cases last : lastExchange? rest id <;> simp [same]
    · rw [if_neg sent, Option.or_none]
      split_ifs <;> simp [sent]

theorem timesRefused_eq_count (rules : RetryRules)
    (once : ∀ exchange ∈ exchanges, exchange.request.rowIds.Nodup) (id : Int) :
    timesRefused rules exchanges id = (rowsWith rules .willRetry exchanges).count id := by
  induction exchanges with
  | nil => rfl
  | cons exchange rest ih =>
    have later := ih fun other hother => once other (List.mem_cons_of_mem _ hother)
    have here := (once exchange List.mem_cons_self).count (a := id)
    rw [timesRefused, List.countP_cons, ← timesRefused, later, rowsWith_cons, List.count_append, add_comm]
    simp only [← Exchange.status?_eq_willRetry_iff]
    split_ifs <;> simp_all

/-- Rows that are all among some others, by how often each of these is there. -/
theorem sum_count {ids events : List Int} (distinct : events.Nodup) (among : ids ⊆ events) :
    (events.map (ids.count ·)).sum = ids.length := by
  rw [← List.sum_toFinset _ distinct]
  have inside : ∀ id ∈ (ids : Multiset Int), id ∈ events.toFinset := by
    intro id hid
    exact List.mem_toFinset.2 (among hid)
  simpa using Multiset.sum_count_eq_card inside

theorem countP_mem {ids events : List Int} (once : ids.Nodup) (distinct : events.Nodup)
    (among : ids ⊆ events) : events.countP (· ∈ ids) = ids.length := by
  rw [List.countP_eq_length_filter]
  apply List.Perm.length_eq
  apply (List.perm_ext_iff_of_nodup (distinct.filter _) once).2
  intro id
  rw [List.mem_filter, decide_eq_true_eq]
  exact and_iff_right_of_imp fun listed => among listed

namespace Outcome

theorem add_idsWith (rules : RetryRules) (rows : List EventRow) (outcome : Outcome) (result : RequestResult)
    (status : DeliveryStatus) : (outcome.add rules rows result).idsWith status =
      outcome.idsWith status ++ if result.status rules = status then eventIds rows result.rowIds else [] := by
  unfold add
  cases result.status rules <;> cases status <;> simp [idsWith]

theorem foldl_idsWith (rules : RetryRules) (rows : List EventRow) (results : List RequestResult)
    (outcome : Outcome) (status : DeliveryStatus) :
    (results.foldl (add rules rows) outcome).idsWith status = outcome.idsWith status ++
      (results.filter fun result => result.status rules = status).flatMap fun result =>
        eventIds rows result.rowIds := by
  induction results generalizing outcome with
  | nil => simp
  | cons result rest ih =>
    rw [List.foldl_cons, ih, add_idsWith, List.append_assoc]
    by_cases same : result.status rules = status <;> simp [same]

/-- The events that a round reports with a status are those of the requests that got it. -/
theorem ofExchanges_idsWith (rules : RetryRules) (rows : List EventRow) (exchanges : List Exchange)
    (status : DeliveryStatus) : (ofExchanges rules rows exchanges).idsWith status =
      (exchanges.filter fun exchange => exchange.status? rules = some status).flatMap fun exchange =>
        eventIds rows exchange.request.rowIds := by
  have same (outcome : Outcome) (retries : Bool) :
      ({ outcome with retries } : Outcome).idsWith status = outcome.idsWith status := by
    cases status <;> rfl
  have none : empty.idsWith status = [] := by cases status <;> rfl
  rw [ofExchanges, ofResults, same, foldl_idsWith, none, List.nil_append]
  induction exchanges with
  | nil => rfl
  | cons exchange rest ih =>
    cases result : exchange.answer.result? exchange.request with
    | none => simpa [result, Exchange.status?] using ih
    | some answered =>
      have ids := Answer.rowIds_of_result? result
      by_cases given : answered.status rules = status <;>
        simpa [result, given, ids, Exchange.status?] using ih

theorem ofExchanges_idsWith_rowsWith (rules : RetryRules) (rows : List EventRow)
    (exchanges : List Exchange) (status : DeliveryStatus) :
    (ofExchanges rules rows exchanges).idsWith status = eventIds rows (rowsWith rules status exchanges) := by
  rw [ofExchanges_idsWith, rowsWith, eventIds, List.filterMap_flatMap]
  rfl

/-- Each row of a request has one identifier, if all events carry one. -/
theorem eventIds_length {rows : List EventRow} (named : ∀ event ∈ rows, event.IsNamed) {ids : List Int}
    (listed : ∀ id ∈ ids, ∃ event ∈ rows, event.id = id) : (eventIds rows ids).length = ids.length := by
  unfold eventIds
  apply List.filterMap_length_eq_length.2
  intro id hid
  obtain ⟨event, hevent, same⟩ := listed id hid
  have found : (rows.find? fun event => event.id = id).isSome := by
    apply List.find?_isSome.2
    exact ⟨event, hevent, by simpa using same⟩
  obtain ⟨first, hfirst⟩ := Option.isSome_iff_exists.1 found
  rw [hfirst, Option.bind_some]
  exact named first (List.mem_of_find?_eq_some hfirst)

end Outcome

namespace SendLoop

variable {policy : Policy} {s : Surroundings} {rows : List EventRow}

theorem round_settled_perm (policy : Policy) (s : Surroundings) (rows : List EventRow) :
    (Outcome.ofExchanges policy.rules rows (inTurns (round policy s rows))).settledIds.Perm
      (rowsWith policy.rules .success (round policy s rows) ++
        rowsWith policy.rules .wontRetry (round policy s rows)) := by
  rw [Outcome.ofExchanges_settledIds]
  apply (final_rows_perm _ _).trans
  exact (rowsWith_perm (inTurns_perm _)).append (rowsWith_perm (inTurns_perm _))

theorem round_idsWith_length (named : ∀ event ∈ rows, event.IsNamed) (status : DeliveryStatus) :
    ((Outcome.ofExchanges policy.rules rows (inTurns (round policy s rows))).idsWith status).length =
      (rowsWith policy.rules status (round policy s rows)).length := by
  rw [Outcome.ofExchanges_idsWith, ← (rowsWith_perm (inTurns_perm (round policy s rows))).length_eq,
    rowsWith, List.length_flatMap, List.length_flatMap]
  congr 1
  apply List.map_congr_left
  intro exchange hexchange
  apply Outcome.eventIds_length named
  intro id hid
  have made := (inTurns_perm _).mem_iff.1 (List.mem_of_mem_filter hexchange)
  exact exists_of_mem_rowIds (round_requests policy s rows) made hid

end SendLoop

def reportedIds (status : DeliveryStatus) (history : List Record) : List String :=
  history.flatMap fun
    | .exchanged .. => []
    | .noticed notice => if notice.status = status then notice.eventIds else []

theorem reportedIds_append (status : DeliveryStatus) (a b : List Record) :
    reportedIds status (a ++ b) = reportedIds status a ++ reportedIds status b :=
  List.flatMap_append

theorem reportedIds_exchanged (status : DeliveryStatus) (time : Nat) (exchanges : List Exchange) :
    reportedIds status (exchanges.map (.exchanged time ·)) = [] := by
  simp [reportedIds]

theorem reportedIds_notices (outcome : Outcome) (status : DeliveryStatus) :
    reportedIds status ((outcome.notices DeliveryStatus.all).map .noticed) = outcome.idsWith status := by
  have silent (other : DeliveryStatus) : (!(outcome.idsWith other).isEmpty) = false →
      outcome.idsWith other = [] := by
    simp
  have first := silent .success
  have second := silent .willRetry
  have third := silent .wontRetry
  unfold Outcome.notices DeliveryStatus.all reportedIds
  cases status <;> simp only [List.filter_cons] <;> split_ifs <;> simp_all

end Telemetry.Delivery

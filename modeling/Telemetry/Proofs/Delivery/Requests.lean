import Mathlib.Data.List.Flatten
import Mathlib.Data.List.Perm.Subperm
import Telemetry.Delivery.Outcome

set_option autoImplicit false

namespace Telemetry.Delivery

open Store (EventRow)

theorem groupFrom_rows_perm (limit : Nat) (rows pending : List EventRow) (bytes : Nat) :
    ((groupFrom limit pending bytes rows).flatMap (·.rows)).Perm (pending ++ rows) := by
  induction rows generalizing pending bytes with
  | nil =>
    unfold groupFrom
    split_ifs with none
    · simp [List.isEmpty_iff.1 none]
    · simp
  | cons row rest ih =>
    unfold groupFrom
    split_ifs
    · rw [List.flatMap_cons]
      exact ((ih pending bytes).cons row).trans List.perm_middle.symm
    · rw [List.flatMap_cons]
      exact (ih [row] _).append_left pending
    · simpa using ih (pending ++ [row]) _

theorem groupFrom_ne_nil (limit : Nat) (rows pending : List EventRow) (bytes : Nat)
    (hstart : pending = [] → bytes = 0) :
    ∀ group ∈ groupFrom limit pending bytes rows, group.rows ≠ [] := by
  induction rows generalizing pending bytes with
  | nil =>
    unfold groupFrom
    split_ifs with none
    · simp
    · simpa using none
  | cons row rest ih =>
    unfold groupFrom
    intro group hgroup
    split_ifs at hgroup with alone full
    · rcases List.mem_cons.1 hgroup with rfl | hgroup
      · simp
      · exact ih pending bytes hstart group hgroup
    · rcases List.mem_cons.1 hgroup with rfl | hgroup
      · rintro rfl
        -- an empty group would have been full, although the row fits alone
        simp only [exceedsAlone, hstart rfl, List.length_nil, decide_eq_true_eq] at alone full
        omega
      · exact ih [row] _ (by simp) group hgroup
    · exact ih (pending ++ [row]) _ (by simp) group hgroup

theorem groupRows_perm (limit : Nat) (rows : List EventRow) :
    ((groupRows limit rows).flatMap (·.rows)).Perm rows :=
  groupFrom_rows_perm limit rows [] 0

theorem groupRows_ne_nil (limit : Nat) (rows : List EventRow) :
    ∀ group ∈ groupRows limit rows, group.rows ≠ [] :=
  groupFrom_ne_nil limit rows [] 0 fun _ => rfl

theorem requestsFor_rowIds_perm (settings : DeliverySettings) (clock : Nat) (rows : List EventRow) :
    ((requestsFor settings clock rows).flatMap (·.rowIds)).Perm (rows.map (·.id)) := by
  unfold requestsFor
  cases settings.method with
  | get =>
    rw [List.flatMap_map, List.map_eq_flatMap]
  | post =>
    rw [List.flatMap_map]
    have ids := (groupRows_perm settings.byteLimitPost rows).map (·.id)
    rwa [List.map_flatMap] at ids

/-- The requests that were made share the batch out, whatever the answers. -/
theorem exchanges_rowIds_perm {settings : DeliverySettings} {clock : Nat} {rows : List EventRow}
    {exchanges : List Exchange}
    (h : exchanges.map (·.request) = requestsFor settings clock rows) :
    (exchanges.flatMap (·.request.rowIds)).Perm (rows.map (·.id)) := by
  have perm := requestsFor_rowIds_perm settings clock rows
  rwa [← h, List.flatMap_map] at perm

theorem exists_of_mem_rowIds {settings : DeliverySettings} {clock : Nat} {rows : List EventRow}
    {exchanges : List Exchange}
    (h : exchanges.map (·.request) = requestsFor settings clock rows) {exchange : Exchange}
    (hexchange : exchange ∈ exchanges) {id : Int} (hid : id ∈ exchange.request.rowIds) :
    ∃ event ∈ rows, event.id = id := by
  have listed : id ∈ rows.map (·.id) :=
    (exchanges_rowIds_perm h).subset (List.mem_flatMap.2 ⟨exchange, hexchange, hid⟩)
  exact List.mem_map.1 listed

theorem requestsFor_rowIds_ne_nil (settings : DeliverySettings) (clock : Nat)
    (rows : List EventRow) : ∀ request ∈ requestsFor settings clock rows, request.rowIds ≠ [] := by
  unfold requestsFor
  intro request hrequest
  cases hmethod : settings.method with
  | get =>
    rw [hmethod] at hrequest
    obtain ⟨row, -, rfl⟩ := List.mem_map.1 hrequest
    simp
  | post =>
    rw [hmethod] at hrequest
    obtain ⟨group, hgroup, rfl⟩ := List.mem_map.1 hrequest
    simpa using groupRows_ne_nil _ rows group hgroup

theorem requestsFor_ne_nil (settings : DeliverySettings) (clock : Nat) {rows : List EventRow}
    (h : rows ≠ []) : requestsFor settings clock rows ≠ [] := by
  intro none
  have perm := requestsFor_rowIds_perm settings clock rows
  rw [none] at perm
  exact h (List.map_eq_nil_iff.1 perm.symm.eq_nil)

theorem RequestResult.status_eq_willRetry_iff {result : RequestResult} {rules : RetryRules} :
    result.status rules = .willRetry ↔ result.shouldRetry rules := by
  unfold status
  split_ifs with success retry
  · simp [shouldRetry, success]
  · simp [retry]
  · simp [retry]

def Exchange.isFinal (rules : RetryRules) (exchange : Exchange) : Bool :=
  (exchange.answer.result? exchange.request).any fun result => !result.shouldRetry rules

def Answer.isSuccess : Answer → Bool
  | .status code => 200 ≤ code && code < 300
  | _ => false

theorem Exchange.isFinal_of_isSuccess {exchange : Exchange} (rules : RetryRules)
    (h : exchange.answer.isSuccess) : exchange.isFinal rules := by
  unfold Answer.isSuccess at h
  split at h
  · rename_i code answer
    simp_all [isFinal, Answer.result?, RequestResult.new, RequestResult.shouldRetry,
      RequestResult.isSuccess]
  · cases h

theorem Answer.rowIds_of_result? {answer : Answer} {request : Request} {result : RequestResult}
    (h : answer.result? request = some result) : result.rowIds = request.rowIds := by
  cases answer with
  | lost => cases h
  | status code | noResponse =>
    cases h
    rfl

namespace Outcome

theorem add_settledIds (rules : RetryRules) (rows : List EventRow) (outcome : Outcome)
    (result : RequestResult) :
    (outcome.add rules rows result).settledIds =
      outcome.settledIds ++ if result.shouldRetry rules then [] else result.rowIds := by
  by_cases retry : result.shouldRetry rules
  · rw [if_pos retry, List.append_nil, add, RequestResult.status_eq_willRetry_iff.2 retry]
  · rw [if_neg retry, add]
    cases status : result.status rules with
    | success => rfl
    | willRetry => exact absurd (RequestResult.status_eq_willRetry_iff.1 status) retry
    | wontRetry => rfl

theorem foldl_settledIds (rules : RetryRules) (rows : List EventRow) (results : List RequestResult)
    (outcome : Outcome) :
    (results.foldl (add rules rows) outcome).settledIds =
      outcome.settledIds ++
        (results.filter fun result => !result.shouldRetry rules).flatMap (·.rowIds) := by
  induction results generalizing outcome with
  | nil => simp
  | cons result rest ih =>
    rw [List.foldl_cons, ih, add_settledIds, List.append_assoc]
    cases retry : result.shouldRetry rules <;> simp [retry]

/-- The rows that a round is done with are those of the requests with a final answer. -/
theorem ofExchanges_settledIds (rules : RetryRules) (rows : List EventRow)
    (exchanges : List Exchange) :
    (ofExchanges rules rows exchanges).settledIds =
      (exchanges.filter (·.isFinal rules)).flatMap (·.request.rowIds) := by
  unfold ofExchanges ofResults
  rw [foldl_settledIds]
  change [] ++ _ = _
  rw [List.nil_append]
  induction exchanges with
  | nil => rfl
  | cons exchange rest ih =>
    cases result : exchange.answer.result? exchange.request with
    | none => simpa [result, Exchange.isFinal] using ih
    | some answered =>
      have ids := Answer.rowIds_of_result? result
      cases retry : answered.shouldRetry rules <;>
        simpa [result, retry, ids, Exchange.isFinal] using ih

theorem mem_settledIds {rules : RetryRules} {rows : List EventRow} {exchanges : List Exchange}
    {id : Int} : id ∈ (ofExchanges rules rows (inTurns exchanges)).settledIds ↔
      ∃ exchange ∈ exchanges, exchange.isFinal rules ∧ id ∈ exchange.request.rowIds := by
  simp only [ofExchanges_settledIds, List.mem_flatMap, List.mem_filter, (inTurns_perm _).mem_iff,
    and_assoc]

theorem settledIds_subperm (rules : RetryRules) {settings : DeliverySettings} {clock : Nat}
    {rows : List EventRow} {exchanges : List Exchange}
    (h : exchanges.map (·.request) = requestsFor settings clock rows) :
    (ofExchanges rules rows (inTurns exchanges)).settledIds.Subperm (rows.map (·.id)) := by
  rw [ofExchanges_settledIds]
  have final : (((inTurns exchanges).filter (·.isFinal rules)).flatMap (·.request.rowIds)).Sublist
      ((inTurns exchanges).flatMap (·.request.rowIds)) :=
    List.filter_sublist.flatMap _
  have collected := (inTurns_perm exchanges).flatMap_right (·.request.rowIds)
  exact final.subperm.trans (collected.trans (exchanges_rowIds_perm h)).subperm

end Outcome

end Telemetry.Delivery

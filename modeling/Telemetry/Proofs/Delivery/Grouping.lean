import Mathlib.Algebra.Order.BigOperators.Group.List
import Mathlib.Data.List.Nodup
import Telemetry.Proofs.Delivery.Requests
import Telemetry.Proofs.Json.Size

set_option autoImplicit false

/-!
How large the bodies of POST requests get. The limit is kept by an estimate, a fixed number of bytes for
every event and for the envelope. It is exact for a time of 13 digits that no event carries yet, and never
too low before that time takes 14 digits.
-/

namespace Telemetry.Payload

open Json (memberBytes)

def weight (payload : Payload) : Nat := (payload.entries.map fun entry => memberBytes entry + 1).sum

theorem text_bytes {payload : Payload} (filled : payload.entries ≠ []) :
    payload.text.utf8ByteSize = 1 + payload.weight := by
  rw [text, Json.text_bytes, json, Json.ofStrings_bytes filled, weight]

theorem text_bytes_of_nil {payload : Payload} (none : payload.entries = []) :
    payload.text.utf8ByteSize = 2 := by
  rw [text, Json.text_bytes, json, none]
  rfl

theorem ofJson?_json (payload : Payload) : ofJson? payload.json = some payload := by
  have strings (entries : List (String × String)) :
      (entries.map fun entry => (entry.1, Json.string entry.2)).mapM stringMember? = some entries := by
    induction entries with
    | nil => rfl
    | cons entry entries ih => simp [stringMember?, Json.string?, ih]
  rw [json, Json.ofStrings, ofJson?, strings]
  exact congrArg some (congrArg Payload.mk (Dictionary.ofList_entries payload.fields))

theorem json_isPlain (payload : Payload) (depth : Nat) : payload.json.IsPlain (depth + 1) := by
  have strings (entries : List (String × String)) :
      Json.MembersPlain depth (entries.map fun entry => (entry.1, Json.string entry.2)) := by
    induction entries with
    | nil => exact trivial
    | cons entry entries ih => exact ⟨by rw [Json.IsPlain.eq_def]; trivial, ih⟩
  refine ⟨?_, strings payload.entries⟩
  exact List.pairwise_map.2 payload.fields.ascending

end Telemetry.Payload

namespace Telemetry.Delivery

open Decimal (natDigits natDigits_ne_nil natText)
open Store (EventRow)
open String (utf8Len)

theorem stamped_entries (clock : Nat) (payload : Payload) :
    (stamped clock payload).entries =
      Dictionary.insertEntry Protocol.sentTimeKey (natText clock) payload.entries := by
  have text : (natText clock).isEmpty = false := by
    simp [natText, natDigits_ne_nil]
  have key : Protocol.sentTimeKey.isEmpty = false := by decide
  rw [stamped, Payload.add, key, text]
  rfl

theorem stamped_filled (clock : Nat) (payload : Payload) : (stamped clock payload).entries ≠ [] := by
  rw [stamped_entries]
  intro none
  have found := Dictionary.lookup?_insertEntry Protocol.sentTimeKey Protocol.sentTimeKey
    (natText clock) payload.entries
  rw [none] at found
  simp [Dictionary.lookup?] at found

/-- The time takes 9 bytes besides its digits, and those of a time that it replaces are gone. -/
theorem stamped_weight (clock : Nat) (payload : Payload) :
    (stamped clock payload).weight +
        ((payload.get? Protocol.sentTimeKey).map fun old =>
          Json.memberBytes (Protocol.sentTimeKey, old) + 1).getD 0 =
      payload.weight + ((natDigits clock).length + 9) := by
  have key : utf8Len (Json.quoted Protocol.sentTimeKey.toList) = 5 := by decide
  have value : utf8Len (Json.quoted (natText clock).toList) = (natDigits clock).length + 2 := by
    rw [natText, String.toList_ofList, Json.quoted_natDigits_bytes]
  have time : Json.memberBytes (Protocol.sentTimeKey, natText clock) + 1 =
      (natDigits clock).length + 9 := by
    rw [Json.memberBytes, key, value]
    omega
  rw [Payload.weight, stamped_entries, ← time]
  exact Dictionary.sum_insertEntry _ _ _ payload.fields.ascending

theorem stamped_bytes_le (clock : Nat) (payload : Payload) :
    (stamped clock payload).text.utf8ByteSize ≤
      payload.text.utf8ByteSize + ((natDigits clock).length + 9) := by
  have weight := stamped_weight clock payload
  rw [Payload.text_bytes (stamped_filled clock payload)]
  by_cases none : payload.entries = []
  · rw [Payload.text_bytes_of_nil none]
    simp only [Payload.weight, none, List.map_nil, List.sum_nil] at weight
    unfold Payload.weight
    omega
  · rw [Payload.text_bytes none]
    omega

theorem stamped_bytes {clock : Nat} {payload : Payload} (filled : payload.entries ≠ [])
    (unsent : payload.get? Protocol.sentTimeKey = none) :
    (stamped clock payload).text.utf8ByteSize =
      payload.text.utf8ByteSize + ((natDigits clock).length + 9) := by
  have weight := stamped_weight clock payload
  rw [unsent] at weight
  rw [Payload.text_bytes (stamped_filled clock payload), Payload.text_bytes filled, Nat.add_assoc,
    ← weight]
  rfl

theorem postBody_bytes (clock : Nat) (payloads : List Payload) :
    (postBody clock payloads).utf8ByteSize =
      wrapperBytes + (payloads.map fun payload => (stamped clock payload).text.utf8ByteSize).sum +
        (payloads.length - 1) := by
  have items := Json.array_bytes (payloads.map fun payload => (stamped clock payload).json)
  let data := (Json.array (payloads.map fun payload => (stamped clock payload).json)).chars
  let schema := Json.membersChars [("schema", .string Protocol.payloadDataSchema)]
  have body : (postData clock payloads).json.chars =
      ('{' :: Json.quoted "data".toList ++ [':']) ++ data ++ (',' :: schema ++ ['}']) := by
    simp [postData, SelfDescribing.json, Json.chars, Json.membersChars, data, schema]
  have front : utf8Len ('{' :: Json.quoted "data".toList ++ [':']) = 8 := by decide
  have back : utf8Len (',' :: schema ++ ['}']) = 78 := by decide
  rw [postBody, SelfDescribing.text, Json.text_bytes, body, String.utf8Len_append,
    String.utf8Len_append, front, back, items]
  simp only [List.map_map, List.length_map, wrapperBytes, Payload.text, Json.text_bytes,
    Function.comp_def]
  omega

theorem postData_isPlain (clock : Nat) (payloads : List Payload) :
    (postData clock payloads).json.IsPlain Json.maxDepth := by
  have items (depth : Nat) (payloads : List Payload) :
      Json.ItemsPlain (depth + 1) (payloads.map fun payload => (stamped clock payload).json) := by
    induction payloads with
    | nil => exact trivial
    | cons payload payloads ih => exact ⟨(stamped clock payload).json_isPlain depth, ih⟩
  have ordered : Dictionary.Ascending [("data", (postData clock payloads).data),
      ("schema", .string (postData clock payloads).schema)] := by
    have keys : "data" < "schema" := by decide
    simpa [Dictionary.Ascending] using keys
  exact ⟨ordered, items 124 payloads, trivial, trivial⟩

theorem ofText?_postBody (clock : Nat) (payloads : List Payload) :
    Json.ofText? (postBody clock payloads) = some (postData clock payloads).json :=
  Json.ofText?_text (postData_isPlain clock payloads)

/-- The body reads as the payloads that it was made from, with the time of sending. -/
theorem postPayloads?_postBody (clock : Nat) (payloads : List Payload) :
    postPayloads? (postBody clock payloads) = some (payloads.map (stamped clock)) := by
  have read (payloads : List Payload) :
      (payloads.map fun payload => (stamped clock payload).json).mapM Payload.ofJson? =
        some (payloads.map (stamped clock)) := by
    induction payloads with
    | nil => rfl
    | cons payload payloads ih =>
      rw [List.map_cons, List.mapM_cons, Payload.ofJson?_json, ih]
      rfl
  rw [postPayloads?, ofText?_postBody]
  simp [postData, SelfDescribing.json, Json.member?, Dictionary.lookup?, Json.string?, read]

def estimate (rows : List EventRow) : Nat :=
  wrapperBytes + (rows.map rowBytes).sum + (rows.length - 1)

theorem groupFrom_oversize (limit : Nat) (rows pending : List EventRow) (bytes : Nat) :
    (groupFrom limit pending bytes rows).filter (·.oversize) =
      (rows.filter (exceedsAlone limit)).map fun row => ⟨[row], true⟩ := by
  induction rows generalizing pending bytes with
  | nil =>
    unfold groupFrom
    split_ifs <;> simp
  | cons row rest ih =>
    unfold groupFrom
    split_ifs with alone full <;> simp [alone, ih]

theorem groupFrom_regular (limit : Nat) (rows pending : List EventRow) (bytes : Nat) :
    ((groupFrom limit pending bytes rows).filter (!·.oversize)).flatMap (·.rows) =
      pending ++ rows.filter (!exceedsAlone limit ·) := by
  induction rows generalizing pending bytes with
  | nil =>
    unfold groupFrom
    split_ifs with none
    · simp [List.isEmpty_iff.1 none]
    · simp
  | cons row rest ih =>
    unfold groupFrom
    split_ifs with alone full <;> simp [alone, ih]

/-- The running total is that of the pending rows, so that a group is closed before it gets too large. -/
theorem groupFrom_estimate (limit : Nat) (rows pending : List EventRow)
    (fits : pending = [] ∨ estimate pending ≤ limit) :
    ∀ group ∈ groupFrom limit pending (pending.map rowBytes).sum rows, group.oversize = false →
      estimate group.rows ≤ limit := by
  induction rows generalizing pending with
  | nil =>
    unfold groupFrom
    split_ifs with none
    · simp
    · have some : pending ≠ [] := fun h => none (by rw [h]; rfl)
      simpa using fits.resolve_left some
  | cons row rest ih =>
    unfold groupFrom
    intro group hgroup regular
    split_ifs at hgroup with alone full
    · obtain rfl | hgroup := List.mem_cons.1 hgroup
      · cases regular
      · exact ih pending fits group hgroup regular
    · simp only [exceedsAlone, decide_eq_true_eq] at alone
      obtain rfl | hgroup := List.mem_cons.1 hgroup
      · apply fits.resolve_left
        -- a row that fits alone never closes an empty group
        rintro rfl
        simp only [List.map_nil, List.sum_nil, List.length_nil] at full
        omega
      · have single : ([row].map rowBytes).sum = rowBytes row := by simp
        rw [← single] at hgroup
        refine ih [row] (.inr ?_) group hgroup regular
        rw [estimate, single, List.length_singleton]
        omega
    · have total : ((pending ++ [row]).map rowBytes).sum = (pending.map rowBytes).sum + rowBytes row := by
        simp
      rw [← total] at hgroup
      refine ih (pending ++ [row]) (.inr ?_) group hgroup regular
      rw [estimate, total, List.length_append, List.length_singleton]
      omega

theorem groupRows_estimate (limit : Nat) (rows : List EventRow) :
    ∀ group ∈ groupRows limit rows, group.oversize = false → estimate group.rows ≤ limit :=
  groupFrom_estimate limit rows [] (.inl rfl)

theorem exists_unique_group {groups : List Group} (once : (groups.flatMap (·.rows)).Nodup)
    {row : EventRow} (listed : row ∈ groups.flatMap (·.rows)) :
    ∃! i : Nat, ∃ group, groups[i]? = some group ∧ row ∈ group.rows := by
  have apart := List.pairwise_iff_getElem.1 (List.nodup_flatMap.1 once).2
  obtain ⟨group, hgroup, hrow⟩ := List.mem_flatMap.1 listed
  obtain ⟨i, hi⟩ := List.mem_iff_getElem?.1 hgroup
  refine ⟨i, ⟨group, hi, hrow⟩, ?_⟩
  rintro j ⟨other, hj, hrow'⟩
  obtain ⟨bound, rfl⟩ := List.getElem?_eq_some_iff.1 hi
  obtain ⟨bound', rfl⟩ := List.getElem?_eq_some_iff.1 hj
  obtain less | same | greater := Nat.lt_trichotomy i j
  · exact (apart i j bound bound' less hrow hrow').elim
  · exact same.symm
  · exact (apart j i bound' bound greater hrow' hrow).elim

theorem postBody_bytes_le {clock : Nat} (short : (natDigits clock).length ≤ 13) (rows : List EventRow) :
    (postBody clock (rows.map (·.payload))).utf8ByteSize ≤ estimate rows := by
  have sizes : ((rows.map (·.payload)).map fun payload => (stamped clock payload).text.utf8ByteSize).sum ≤
      (rows.map rowBytes).sum := by
    rw [List.map_map]
    apply List.sum_le_sum
    intro row _
    have bytes := stamped_bytes_le clock row.payload
    simp only [Function.comp_apply, rowBytes, sentTimeBytes]
    omega
  rw [postBody_bytes, List.length_map, estimate]
  omega

theorem postBody_bytes_eq {clock : Nat} (long : (natDigits clock).length = 13) {rows : List EventRow}
    (usual : ∀ row ∈ rows, row.payload.entries ≠ [] ∧ row.payload.get? Protocol.sentTimeKey = none) :
    (postBody clock (rows.map (·.payload))).utf8ByteSize = estimate rows := by
  have sizes : (rows.map (·.payload)).map (fun payload => (stamped clock payload).text.utf8ByteSize) =
      rows.map rowBytes := by
    rw [List.map_map]
    apply List.map_congr_left
    intro row hrow
    obtain ⟨filled, unsent⟩ := usual row hrow
    rw [Function.comp_apply, stamped_bytes filled unsent, long]
    rfl
  rw [postBody_bytes, List.length_map, sizes, estimate]

/-- Grouping splits the rows: those that exceed the limit alone are alone, in their order, and the others
share groups in their order. What a request carries are the rows of its group, and the body of a group that is
not oversize keeps to the limit until the time of sending takes 14 digits. -/
theorem groupRows_splits (limit : Nat) {rows : List EventRow} (distinct : (rows.map (·.id)).Nodup) :
    let groups := groupRows limit rows
    (∀ group ∈ groups, group.rows ≠ []) ∧
      groups.filter (·.oversize) =
        (rows.filter fun row => limit < row.payload.text.utf8ByteSize + 22 + 88).map
          (fun row => ⟨[row], true⟩) ∧
      (groups.filter (!·.oversize)).flatMap (·.rows) =
        rows.filter (fun row => row.payload.text.utf8ByteSize + 22 + 88 ≤ limit) ∧
      (∀ row ∈ rows, ∃! i : Nat, ∃ group, groups[i]? = some group ∧ row ∈ group.rows) ∧
      (∀ settings clock, settings.method = .post → settings.byteLimitPost = limit →
        List.Forall₂ (fun group request =>
          request.rowIds = group.rows.map (·.id) ∧ request.oversize = group.oversize ∧
            request.body = postBody clock (group.rows.map (·.payload)) ∧
            request.payloads? = some (group.rows.map fun row => stamped clock row.payload))
          groups (requestsFor settings clock rows)) ∧
      ∀ group ∈ groups, group.oversize = false → ∀ clock,
        ((natDigits clock).length ≤ 13 →
          (postBody clock (group.rows.map (·.payload))).utf8ByteSize ≤ limit) ∧
        ((natDigits clock).length = 13 →
          (∀ row ∈ group.rows,
            row.payload.entries ≠ [] ∧ row.payload.get? Protocol.sentTimeKey = none) →
          (postBody clock (group.rows.map (·.payload))).utf8ByteSize =
            88 + (group.rows.map fun row => row.payload.text.utf8ByteSize + 22).sum +
              (group.rows.length - 1)) := by
  intro groups
  refine ⟨groupRows_ne_nil limit rows, groupFrom_oversize limit rows [] 0, ?_, ?_, ?_, ?_⟩
  · refine (groupFrom_regular limit rows [] 0).trans ?_
    rw [List.nil_append]
    apply List.filter_congr
    intro row _
    simp only [exceedsAlone, rowBytes, sentTimeBytes, wrapperBytes]
    grind
  · intro row hrow
    have perm := groupRows_perm limit rows
    exact exists_unique_group (perm.nodup_iff.2 (.of_map _ distinct)) (perm.symm.subset hrow)
  · rintro settings clock post rfl
    rw [requestsFor, post]
    apply List.forall₂_map_right_iff.2
    apply List.forall₂_same.2
    intro group _
    refine ⟨rfl, rfl, rfl, ?_⟩
    rw [Request.payloads?, postPayloads?_postBody, List.map_map]
    rfl
  · intro group hgroup regular clock
    have fits := groupRows_estimate limit rows group hgroup regular
    exact ⟨fun short => (postBody_bytes_le short group.rows).trans fits,
      fun long usual => postBody_bytes_eq long usual⟩

/-- Two events that together take the limit, and a longer one between them, sent at a time of 13 digits. -/
theorem groupRows_splits_apart :
    let first : EventRow := ⟨1, .ofPairs [("e", "pv")]⟩
    let long : EventRow := ⟨2, .ofPairs [("e", "ue"), ("ue_px", "a value that does not fit here")]⟩
    let last : EventRow := ⟨3, .ofPairs [("e", "se")]⟩
    ([first, long, last].map (·.id)).Nodup ∧
      groupRows 153 [first, long, last] = [⟨[long], true⟩, ⟨[first, last], false⟩] ∧
      (postBody 1443452851000 [first.payload, last.payload]).utf8ByteSize = 153 := by
  intro first long last
  have distinct : ([first, long, last].map (·.id)).Nodup := by simp [first, long, last]
  have groups : groupRows 153 [first, long, last] = [⟨[long], true⟩, ⟨[first, last], false⟩] := by decide
  obtain ⟨-, -, -, -, -, bodies⟩ := groupRows_splits 153 distinct
  have shared := bodies ⟨[first, last], false⟩ (by rw [groups]; decide) rfl 1443452851000
  exact ⟨distinct, groups, (shared.2 (by decide) (by decide)).trans (by decide)⟩

end Telemetry.Delivery

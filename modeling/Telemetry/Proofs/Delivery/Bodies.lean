import Telemetry.Proofs.Delivery.Grouping
import Telemetry.Proofs.Text.Query

set_option autoImplicit false

namespace Telemetry.Delivery

/-- Sending sets the time and leaves every other parameter as it is. -/
theorem get?_stamped (clock : Nat) (payload : Payload) (key : String) :
    (stamped clock payload).get? key =
      if key = Protocol.sentTimeKey then some (toString clock) else payload.get? key := by
  have found := Dictionary.lookup?_insertEntry Protocol.sentTimeKey key (Decimal.natText clock) payload.entries
  rw [← stamped_entries] at found
  exact found

/-- Whatever the keys and values are, the body of a POST request reads as strict JSON: an object of the schema of
payload data and of the payloads, each an object of strings in which only the time of sending is set. -/
theorem postBody_decodes (clock : Nat) (payloads : List Payload) :
    Json.ofText? (postBody clock payloads) =
        some (.object [
          ("data", .array (payloads.map fun payload => Json.ofStrings (stamped clock payload).entries)),
          ("schema", .string "iglu:com.snowplowanalytics.snowplow/payload_data/jsonschema/1-0-4")]) ∧
      ∀ (payload : Payload) (key : String), (stamped clock payload).get? key =
        if key = "stm" then some (toString clock) else payload.get? key :=
  ⟨ofText?_postBody clock payloads, get?_stamped clock⟩

end Telemetry.Delivery

namespace Telemetry.Payload

/-- A query string holds only unreserved characters, escapes and its two marks, and reads as the parameters in key
order. Only that without parameters is empty, and different payloads have different ones. -/
theorem queryString_decodes (payload : Payload) :
    (∀ c ∈ payload.queryString.toList,
        c.isAlphanum = true ∨ c ∈ ['-', '_', '.', '~', '%', '&', '=']) ∧
      Text.Query.decode? payload.queryString.toList = some payload.entries ∧
      payload.entries.Pairwise (fun a b => a.1 < b.1) ∧
      (payload.queryString = "" ↔ payload.entries = []) ∧
      ∀ other : Payload, other.queryString = payload.queryString → other = payload := by
  have chars (payload : Payload) : payload.queryString.toList = Text.Query.encode payload.entries :=
    String.toList_ofList
  have read (payload : Payload) :
      Text.Query.decode? payload.queryString.toList = some payload.entries := by
    rw [chars, Text.Query.decode?_encode]
  refine ⟨?_, read payload, payload.fields.ascending, ⟨fun empty => ?_, fun none => ?_⟩, ?_⟩
  · rw [chars]
    exact fun c => Text.Query.mem_encode
  · have pairs := read payload
    rw [empty] at pairs
    exact (Option.some.inj pairs).symm
  · rw [queryString, none]
    rfl
  · intro other same
    have pairs := read other
    rw [same, read payload] at pairs
    have fields : other.fields = payload.fields := Dictionary.ext (Option.some.inj pairs).symm
    cases other
    cases payload
    exact congrArg Payload.mk fields

/-- Marks, escapes and characters of two bytes inside keys and values, and empty ones of both. -/
theorem queryString_decodes_marks :
    let payload : Payload := ⟨Dictionary.ofList [("é", ""), ("a&b", "100%"), ("", "=")]⟩
    payload.queryString = "=%3D&a%26b=100%25&%C3%A9=" ∧
      ('%' ∈ payload.queryString.toList ∧
        ('%'.isAlphanum = true ∨ '%' ∈ ['-', '_', '.', '~', '%', '&', '='])) ∧
      Text.Query.decode? payload.queryString.toList = some [("", "="), ("a&b", "100%"), ("é", "")] ∧
      ∀ other : Payload, other.queryString = "=%3D&a%26b=100%25&%C3%A9=" → other = payload := by
  intro payload
  have text : payload.queryString = "=%3D&a%26b=100%25&%C3%A9=" := by decide +kernel
  have entries : payload.entries = [("", "="), ("a&b", "100%"), ("é", "")] := by decide +kernel
  have escape : '%' ∈ payload.queryString.toList := by
    rw [text]
    decide
  obtain ⟨chars, pairs, -, -, only⟩ := queryString_decodes payload
  rw [entries] at pairs
  exact ⟨text, ⟨escape, chars '%' escape⟩, pairs, fun other same => only other (same.trans text.symm)⟩

end Telemetry.Payload

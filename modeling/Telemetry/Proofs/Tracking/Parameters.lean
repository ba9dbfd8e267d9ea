import Mathlib.Data.List.Nodup
import Telemetry.Tracker

set_option autoImplicit false

namespace Telemetry

open Decimal (natText)

namespace Dictionary

variable {α : Type}

theorem lookup?_append (key : String) (a b : List (String × α)) :
    lookup? key (a ++ b) = (lookup? key a).or (lookup? key b) := by
  induction a with
  | nil => rfl
  | cons entry rest ih =>
    rw [List.cons_append, lookup?, lookup?]
    split_ifs
    · rfl
    · exact ih

theorem lookup?_eq_none_iff {key : String} {entries : List (String × α)} :
    lookup? key entries = none ↔ ∀ entry ∈ entries, entry.1 ≠ key := by
  induction entries with
  | nil => simp [lookup?]
  | cons entry rest ih =>
    rw [lookup?]
    split_ifs with same
    · simp [same]
    · simp [ih, Ne.symm same]

theorem lookup?_eq_some_iff {entries : List (String × α)} (nodup : (entries.map (·.1)).Nodup)
    {key : String} {value : α} : lookup? key entries = some value ↔ (key, value) ∈ entries := by
  induction entries with
  | nil => simp [lookup?]
  | cons entry rest ih =>
    obtain ⟨apart, nodup⟩ := List.nodup_cons.1 nodup
    rw [lookup?, List.mem_cons]
    split_ifs with same
    · subst same
      have other : (entry.1, value) ∉ rest := fun hmem =>
        apart (List.mem_map_of_mem (f := (·.1)) hmem)
      simp [other, Prod.ext_iff, eq_comm]
    · have other : (key, value) ≠ entry := fun eq => same (congrArg Prod.fst eq)
      simp [ih nodup, other]

/-- The order of entries with different keys does not matter. -/
theorem lookup?_reverse {entries : List (String × α)} (nodup : (entries.map (·.1)).Nodup)
    (key : String) : lookup? key entries.reverse = lookup? key entries := by
  have nodup' : (entries.reverse.map (·.1)).Nodup := by
    rwa [List.map_reverse, List.nodup_reverse]
  ext value
  rw [lookup?_eq_some_iff nodup', lookup?_eq_some_iff nodup, List.mem_reverse]

theorem ascending_of_keys {entries : List (String × α)} (keys : List String)
    (h : entries.map (·.1) = keys) (ordered : keys.Pairwise (· < ·)) : Ascending entries := by
  subst h
  exact List.pairwise_map.1 ordered

end Dictionary

open Dictionary (lookup? lookup?_append lookup?_reverse)

/-- The value that pairs set under a key. A pair with an empty key or value sets nothing. -/
def setValue? (key : String) (pairs : List (String × String)) : Option String :=
  lookup? key (pairs.filter fun pair => !(pair.1.isEmpty || pair.2.isEmpty))

theorem setValue?_append (key : String) (a b : List (String × String)) :
    setValue? key (a ++ b) = (setValue? key a).or (setValue? key b) := by
  rw [setValue?, List.filter_append, lookup?_append]
  rfl

theorem setValue?_reverse {pairs : List (String × String)} (nodup : (pairs.map (·.1)).Nodup)
    (key : String) : setValue? key pairs.reverse = setValue? key pairs := by
  rw [setValue?, List.filter_reverse, lookup?_reverse]
  · rfl
  · exact nodup.sublist (List.filter_sublist.map _)

theorem setValue?_eq_none {key : String} {pairs : List (String × String)}
    (h : key ∉ pairs.map (·.1)) : setValue? key pairs = none := by
  refine Dictionary.lookup?_eq_none_iff.2 fun pair hpair same => h ?_
  exact List.mem_map.2 ⟨pair, List.mem_of_mem_filter hpair, same⟩

theorem setValue?_ne_none {key value : String} {pairs : List (String × String)}
    (h : (key, value) ∈ pairs) (hkey : key ≠ "") (hvalue : value ≠ "") :
    setValue? key pairs ≠ none := by
  intro none
  have kept : (key, value) ∈ pairs.filter fun pair => !(pair.1.isEmpty || pair.2.isEmpty) :=
    List.mem_filter.2 ⟨h, by simp [hkey, hvalue]⟩
  exact Dictionary.lookup?_eq_none_iff.1 none _ kept rfl

namespace Payload

theorem get?_add (payload : Payload) (key value other : String) :
    (payload.add key value).get? other =
      if other = key ∧ !(key.isEmpty || value.isEmpty) then some value else payload.get? other := by
  unfold add
  cases empty : key.isEmpty || value.isEmpty with
  | true => simp
  | false =>
    have found := Dictionary.find?_insert payload.fields key other value
    simpa [get?] using found

theorem get?_addAll (payload : Payload) (pairs : List (String × String)) (key : String) :
    (payload.addAll pairs).get? key = (setValue? key pairs.reverse).or (payload.get? key) := by
  induction pairs generalizing payload with
  | nil => rfl
  | cons pair rest ih =>
    change ((payload.add pair.1 pair.2).addAll rest).get? key = _
    rw [ih, get?_add, List.reverse_cons, setValue?_append, Option.or_assoc]
    congr 1
    rw [setValue?, List.filter_singleton]
    cases pair.1.isEmpty || pair.2.isEmpty with
    | true => simp [lookup?]
    | false =>
      by_cases same : key = pair.1 <;> simp [lookup?, same]

theorem get?_ofPairs (pairs : List (String × String)) (key : String) :
    (ofPairs pairs).get? key = setValue? key pairs.reverse := by
  rw [ofPairs, get?_addAll]
  exact Option.or_none

theorem ofPairs_append (a b : List (String × String)) :
    ofPairs (a ++ b) = (ofPairs a).addAll b :=
  List.foldl_append

end Payload

namespace Subject

def keys : List String :=
  [Protocol.userIdKey, Protocol.resolutionKey, Protocol.viewportKey, Protocol.colorDepthKey,
    Protocol.timezoneKey, Protocol.languageKey, Protocol.useragentKey, Protocol.ipAddressKey]

/-- A subject that callers made, by any number of settings in any order. -/
inductive IsMade : Subject → Prop
  | empty : IsMade .empty
  | userId {subject : Subject} (made : IsMade subject) (id : String) : IsMade (subject.setUserId id)
  | resolution {subject : Subject} (made : IsMade subject) (width height : Nat) :
      IsMade (subject.setScreenResolution width height)
  | viewport {subject : Subject} (made : IsMade subject) (width height : Nat) :
      IsMade (subject.setViewport width height)
  | colorDepth {subject : Subject} (made : IsMade subject) (depth : Nat) :
      IsMade (subject.setColorDepth depth)
  | timezone {subject : Subject} (made : IsMade subject) (timezone : String) :
      IsMade (subject.setTimezone timezone)
  | language {subject : Subject} (made : IsMade subject) (language : String) :
      IsMade (subject.setLanguage language)
  | useragent {subject : Subject} (made : IsMade subject) (useragent : String) :
      IsMade (subject.setUseragent useragent)
  | ipAddress {subject : Subject} (made : IsMade subject) (address : String) :
      IsMade (subject.setIpAddress address)

theorem set_entries {subject : Subject}
    (h : ∀ entry ∈ subject.payload.entries, entry.1 ∈ keys ∧ entry.2 ≠ "") {key : String}
    (listed : key ∈ keys) (value : String) :
    ∀ entry ∈ (subject.set key value).payload.entries, entry.1 ∈ keys ∧ entry.2 ≠ "" := by
  intro entry hentry
  unfold set Payload.add at hentry
  split_ifs at hentry with skipped
  · exact h entry hentry
  · rcases Dictionary.mem_insertEntry hentry with rfl | old
    · exact ⟨listed, fun none => skipped (by simp [show value = "" from none])⟩
    · exact h entry old

theorem IsMade.entries {subject : Subject} (h : subject.IsMade) :
    ∀ entry ∈ subject.payload.entries, entry.1 ∈ keys ∧ entry.2 ≠ "" := by
  induction h with
  | empty => exact nofun
  | userId _ _ ih | resolution _ _ _ ih | viewport _ _ _ ih | colorDepth _ _ ih | timezone _ _ ih
  | language _ _ ih | useragent _ _ ih | ipAddress _ _ ih =>
    exact set_entries ih (by decide) _

def value? (key : String) (subject : Option Subject) : Option String :=
  subject.bind (·.payload.get? key)

def parameters (subject : Option Subject) : List (String × String) :=
  (subject.map (·.payload.entries)).getD []

theorem parameters_nodup (subject : Option Subject) : ((parameters subject).map (·.1)).Nodup := by
  cases subject with
  | none => exact List.nodup_nil
  | some subject =>
    have ascending := subject.payload.fields.ascending
    refine List.pairwise_map.2 (ascending.imp fun less => ?_)
    intro same
    exact String.lt_irrefl _ (same ▸ less)

variable {subject : Option Subject} (made : ∀ s ∈ subject, s.IsMade)

include made

theorem parameters_entries :
    ∀ entry ∈ parameters subject, entry.1 ∈ keys ∧ entry.2 ≠ "" := by
  cases subject with
  | none => exact nofun
  | some subject => exact (made subject rfl).entries

theorem setValue?_parameters (key : String) :
    setValue? key (parameters subject) = value? key subject := by
  have filled : (parameters subject).filter (fun pair => !(pair.1.isEmpty || pair.2.isEmpty)) =
      parameters subject := by
    refine List.filter_eq_self.2 fun entry hentry => ?_
    obtain ⟨listed, filled⟩ := parameters_entries made entry hentry
    have named : entry.1 ≠ "" := fun none => absurd (none ▸ listed) (by decide)
    simp [named, filled]
  rw [setValue?, filled]
  cases subject <;> rfl

theorem value?_eq_none {key : String} (other : key ∉ keys) : value? key subject = none := by
  rw [← setValue?_parameters made]
  refine setValue?_eq_none fun listed => other ?_
  obtain ⟨pair, hpair, rfl⟩ := List.mem_map.1 listed
  exact (parameters_entries made pair hpair).1

end Subject

end Telemetry

import Telemetry.Delivery.Collector
import Telemetry.Proofs.Url.Reading

set_option autoImplicit false

namespace Telemetry.Delivery

open Text (splitOn)
open Url (afterAuthority endsAuthority isDropped isSlash mem_dropWhile_iff segmentsOf visible)

/-- An address of more than slashes, tabs and line ends, without a query or a fragment of its own. -/
def NamesPlace (address : String) : Prop :=
  (∃ c ∈ address.toList, c ∉ ['/', '\\', '\t', '\n', '\r']) ∧
    '?' ∉ address.toList ∧ '#' ∉ address.toList

def Method.endpointChars (method : Method) : List Char := '/' :: method.endpointPath.toList

theorem mem_withoutLastSlashes {c : Char} (h : c ≠ '/') {cs : List Char} :
    c ∈ withoutLastSlashes cs ↔ c ∈ cs := by
  rw [withoutLastSlashes, List.mem_reverse, mem_dropWhile_iff (by simpa using h), List.mem_reverse]

theorem mem_endpointChars {mark : Char} (h : mark = '?' ∨ mark = '#') {address : String} {method : Method} :
    mark ∈ endpointChars address method ↔ mark ∈ address.toList := by
  have plain : mark ≠ '/' ∧ mark ∉ '/' :: method.endpointPath.toList := by
    obtain rfl | rfl := h <;> cases method <;> decide
  rw [endpointChars, List.mem_append, mem_withoutLastSlashes plain.1]
  exact or_iff_left plain.2

def hostPart (address : String) : List Char := visible (withoutLastSlashes address.toList)

theorem hostPart_ne_nil_iff {address : String} :
    hostPart address ≠ [] ↔ ∃ c ∈ address.toList, c ∉ ['/', '\\', '\t', '\n', '\r'] := by
  have marks (c : Char) : c ∉ ['/', '\\', '\t', '\n', '\r'] ↔ isSlash c = false ∧ isDropped c = false := by
    simp only [isSlash, isDropped, List.mem_cons, List.not_mem_nil, or_false, Bool.or_eq_false_iff,
      beq_eq_false_iff_ne]
    grind
  rw [hostPart, visible, ne_eq, List.dropWhile_eq_nil_iff]
  simp only [not_forall, exists_prop]
  constructor
  · rintro ⟨c, listed, seen⟩
    obtain ⟨found, kept⟩ := List.mem_filter.1 listed
    have slash : isSlash c = false := by simpa using seen
    have apart : c ≠ '/' := by
      rintro rfl
      cases slash
    exact ⟨c, (mem_withoutLastSlashes apart).1 found, (marks c).2 ⟨slash, by simpa using kept⟩⟩
  · rintro ⟨c, found, other⟩
    obtain ⟨slash, kept⟩ := (marks c).1 other
    have apart : c ≠ '/' := by
      rintro rfl
      cases slash
    refine ⟨c, List.mem_filter.2 ⟨(mem_withoutLastSlashes apart).2 found, by simp [kept]⟩, by simp [slash]⟩

theorem visible_endpointChars (address : String) (method : Method) :
    visible (endpointChars address method) =
      if hostPart address = [] then method.endpointPath.toList
      else hostPart address ++ method.endpointChars := by
  have whole : method.endpointChars.filter (!isDropped ·) = method.endpointChars := by
    cases method <;> decide
  have bare : method.endpointChars.dropWhile isSlash = method.endpointPath.toList := by
    cases method <;> decide
  rw [visible, endpointChars, ← Method.endpointChars, List.filter_append, whole, List.dropWhile_append, bare]
  simp [hostPart, visible]

/-- Behind a host the path of the endpoint is left as a whole. -/
theorem afterAuthority_endpointChars {address : String} (named : hostPart address ≠ []) (method : Method) :
    afterAuthority (endpointChars address method) =
      (hostPart address).dropWhile (!endsAuthority ·) ++ method.endpointChars := by
  have whole : method.endpointChars.dropWhile (!endsAuthority ·) = method.endpointChars := by
    cases method <;> decide
  rw [afterAuthority, visible_endpointChars, if_neg named, List.dropWhile_append, whole]
  split
  · rename_i all
    rw [List.isEmpty_iff.1 all, List.nil_append]
  · rfl

/-- The segments of the endpoint are plain, and their text is the path of the endpoint. -/
theorem endpoint_segments (method : Method) :
    (∀ segment ∈ segmentsOf method.endpointPath.toList,
        Url.isSingleDot segment = false ∧ Url.isDoubleDot segment = false) ∧
      (segmentsOf method.endpointPath.toList).flatMap ('/' :: ·) = method.endpointChars := by
  cases method <;> decide

theorem endpointChars_suffix {address : String} {scheme : Scheme} {method : Method} {url : Url}
    (h : Url.ofAuthority scheme (endpointChars address method) = .ok url) (named : hostPart address ≠ [])
    (noQuery : '?' ∉ address.toList) (noFragment : '#' ∉ address.toList) :
    method.endpointChars <:+ url.pathText := by
  obtain ⟨plain, text⟩ := endpoint_segments method
  have path := Url.path_of_unmarked h (fun found => noQuery ((mem_endpointChars (.inl rfl)).1 found))
    fun found => noFragment ((mem_endpointChars (.inr rfl)).1 found)
  obtain ⟨front, segments⟩ := Url.segmentsOf_suffix_readPath
    ((hostPart address).dropWhile (!endsAuthority ·)) plain
  rw [afterAuthority_endpointChars named, Method.endpointChars, ← segments] at path
  rw [Url.pathText, path, List.flatMap_append, text]
  exact List.suffix_append _ _

/-- Without a host the first segment of the endpoint becomes one, and is missing from the path. -/
theorem not_endpointChars_suffix {address : String} {scheme : Scheme} {method : Method} {url : Url}
    (h : Url.ofAuthority scheme (endpointChars address method) = .ok url) (unnamed : hostPart address = [])
    (noQuery : '?' ∉ address.toList) (noFragment : '#' ∉ address.toList) :
    ¬method.endpointChars <:+ url.pathText := by
  have path := Url.path_of_unmarked h (fun found => noQuery ((mem_endpointChars (.inl rfl)).1 found))
    fun found => noFragment ((mem_endpointChars (.inr rfl)).1 found)
  rw [afterAuthority, visible_endpointChars, if_pos unnamed] at path
  rw [Url.pathText, path]
  cases method <;> decide

/-- An accepted address gives a URL of the scheme with a host without empty labels. The path ends with that of the
endpoint, and no query and no fragment stands behind it, exactly for an address that names a place. -/
theorem endpoint_reached_iff {address : String} {scheme : Scheme} {method : Method} {url : Url}
    (h : endpoint address scheme method = .ok url) :
    url.scheme = scheme ∧ url.host.text ≠ [] ∧ (∀ label ∈ splitOn '.' url.host.text, label ≠ []) ∧
      ('/' :: method.endpointPath.toList <:+ url.pathText ∧ url.query = none ∧ url.fragment = none ↔
        NamesPlace address) := by
  unfold endpoint at h
  split_ifs at h
  split at h
  · cases h
  rename_i read
  split_ifs at h with proper
  cases h
  have labels : ∀ label ∈ splitOn '.' url.host.text, label ≠ [] := by
    simpa [isProperHost] using proper
  refine ⟨(Url.ofAuthority_ok read).1, ?_, labels, ?_⟩
  · intro none
    rw [none] at labels
    exact labels [] List.mem_cons_self rfl
  · rw [Url.unmarked_iff read, mem_endpointChars (.inl rfl), mem_endpointChars (.inr rfl), NamesPlace,
      ← hostPart_ne_nil_iff]
    apply and_congr_left
    rintro ⟨noQuery, noFragment⟩
    constructor
    · intro suffix unnamed
      exact not_endpointChars_suffix read unnamed noQuery noFragment suffix
    · intro named
      exact endpointChars_suffix read named noQuery noFragment

def prefixedUrl : Url where
  scheme := .https
  username := []
  password := []
  host := .ipv6 [0, 0, 0, 0, 0, 0, 0, 1]
  port := some 9090
  path := ["a".toList, "com.snowplowanalytics.snowplow".toList, "tp2".toList]
  query := none
  fragment := none

theorem endpoint_reached_prefixed :
    endpoint "[::1]:9090/a/b/.." .https .post = .ok prefixedUrl ∧
      '/' :: Method.post.endpointPath.toList <:+ prefixedUrl.pathText ∧ NamesPlace "[::1]:9090/a/b/.." := by
  have accepted : endpoint "[::1]:9090/a/b/.." .https .post = .ok prefixedUrl := by decide +kernel
  have place : NamesPlace "[::1]:9090/a/b/.." := by
    refine ⟨⟨':', ?_⟩, ?_, ?_⟩ <;> decide
  exact ⟨accepted, ((endpoint_reached_iff accepted).2.2.2.2 place).1, place⟩

theorem endpoint_not_always_reached :
    ¬∀ (address : String) (scheme : Scheme) (method : Method) (url : Url),
      endpoint address scheme method = .ok url →
        url.scheme = scheme ∧ url.host.text ≠ [] ∧ (∀ label ∈ splitOn '.' url.host.text, label ≠ []) ∧
          '/' :: method.endpointPath.toList <:+ url.pathText ∧ url.query = none ∧ url.fragment = none := by
  intro reached
  have accepted : endpoint "[::1]?x=1" .http .get =
      .ok { prefixedUrl with scheme := .http, port := none, path := [[]], query := some "x=1/i".toList } := by
    decide +kernel
  obtain ⟨-, -, -, -, query, -⟩ := reached _ _ _ _ accepted
  cases query

end Telemetry.Delivery

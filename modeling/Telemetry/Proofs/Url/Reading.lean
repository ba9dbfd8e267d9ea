import Mathlib.Data.List.TakeWhile
import Telemetry.Url.Reader

set_option autoImplicit false

namespace Telemetry.Url

open Delivery (Scheme)
open Text (splitOn splitOn_append)

theorem mem_dropWhile_iff {p : Char → Bool} {c : Char} (stop : p c = false) {cs : List Char} :
    c ∈ cs.dropWhile p ↔ c ∈ cs := by
  constructor
  · intro h
    exact (List.dropWhile_suffix p).mem h
  · intro h
    rw [← List.takeWhile_append_dropWhile (p := p) (l := cs), List.mem_append] at h
    refine h.resolve_left fun early => ?_
    exact Bool.false_ne_true (stop.symm.trans (List.mem_takeWhile_imp early))

def visible (text : List Char) : List Char := (text.filter (!isDropped ·)).dropWhile isSlash

def afterAuthority (text : List Char) : List Char := (visible text).dropWhile (!endsAuthority ·)

theorem mem_visible {mark : Char} (h : mark = '?' ∨ mark = '#') {text : List Char} :
    mark ∈ visible text ↔ mark ∈ text := by
  have plain : isSlash mark = false ∧ isDropped mark = false := by
    obtain rfl | rfl := h <;> decide
  rw [visible, mem_dropWhile_iff plain.1, List.mem_filter, plain.2]
  simp

theorem mem_afterAuthority {mark : Char} (h : mark = '?' ∨ mark = '#') {text : List Char} :
    mark ∈ afterAuthority text ↔ mark ∈ text := by
  have ends : (!endsAuthority mark) = false := by
    obtain rfl | rfl := h <;> decide
  rw [afterAuthority, mem_dropWhile_iff ends, mem_visible h]

theorem splitMark_of_not_mem {mark : Char} {cs : List Char} (h : mark ∉ cs) :
    splitMark mark cs = (cs, none) := by
  have all : cs.dropWhile (· != mark) = [] := by
    rw [List.dropWhile_eq_nil_iff]
    intro c hc
    rw [bne_iff_ne]
    rintro rfl
    exact h hc
  rw [splitMark, all]

theorem splitMark_eq_none_iff {mark : Char} {cs : List Char} :
    (splitMark mark cs).2 = none ↔ mark ∉ cs := by
  refine ⟨fun none found => ?_, fun h => by rw [splitMark_of_not_mem h]⟩
  have kept : mark ∈ cs.dropWhile (· != mark) := (mem_dropWhile_iff (by simp)).2 found
  rw [splitMark] at none
  split at none
  · rename_i nothing
    rw [nothing] at kept
    exact absurd kept List.not_mem_nil
  · cases none

/-- The parts of a URL that was read, but the credentials, the host and the port. -/
theorem ofAuthority_ok {scheme : Scheme} {text : List Char} {url : Url}
    (h : ofAuthority scheme text = .ok url) :
    url.scheme = scheme ∧
      url.path = readPath (splitMark '?' (splitMark '#' (afterAuthority text)).1).1 ∧
      url.query = (splitMark '?' (splitMark '#' (afterAuthority text)).1).2.map
        (Text.Percent.encode isPlainInQuery) ∧
      url.fragment = (splitMark '#' (afterAuthority text)).2.map
        (Text.Percent.encode isPlainInFragment) := by
  unfold ofAuthority at h
  simp only [bind, Except.bind] at h
  split at h
  · cases h
  · split at h
    · cases h
    · cases h
      exact ⟨rfl, rfl, rfl, rfl⟩

theorem splitMark_afterAuthority {mark : Char} (h : mark = '?' ∨ mark = '#') {text : List Char}
    (unmarked : mark ∉ text) : splitMark mark (afterAuthority text) = (afterAuthority text, none) :=
  splitMark_of_not_mem fun found => unmarked ((mem_afterAuthority h).1 found)

/-- A URL has neither a query nor a fragment exactly when its text has neither mark. -/
theorem unmarked_iff {scheme : Scheme} {text : List Char} {url : Url}
    (h : ofAuthority scheme text = .ok url) :
    url.query = none ∧ url.fragment = none ↔ '?' ∉ text ∧ '#' ∉ text := by
  obtain ⟨-, -, query, fragment⟩ := ofAuthority_ok h
  rw [query, fragment, Option.map_eq_none_iff, Option.map_eq_none_iff, splitMark_eq_none_iff,
    splitMark_eq_none_iff, mem_afterAuthority (.inr rfl)]
  apply and_congr_left
  intro noFragment
  rw [splitMark_afterAuthority (.inr rfl) noFragment, mem_afterAuthority (.inl rfl)]

theorem path_of_unmarked {scheme : Scheme} {text : List Char} {url : Url}
    (h : ofAuthority scheme text = .ok url) (noQuery : '?' ∉ text) (noFragment : '#' ∉ text) :
    url.path = readPath (afterAuthority text) := by
  obtain ⟨-, path, -, -⟩ := ofAuthority_ok h
  rw [splitMark_afterAuthority (.inr rfl) noFragment, splitMark_afterAuthority (.inl rfl) noQuery] at path
  exact path

/-- What was walked only shows in the path from which the rest of a walk starts. -/
theorem exists_walk_append (front path segments : List (List Char)) :
    ∃ start, walk path (front ++ segments) = walk start segments := by
  induction front generalizing path with
  | nil => exact ⟨path, rfl⟩
  | cons segment front ih =>
    rw [List.cons_append, walk]
    exact ih _

theorem walk_plain (path : List (List Char)) {segments : List (List Char)}
    (plain : ∀ segment ∈ segments, isSingleDot segment = false ∧ isDoubleDot segment = false) :
    walk path segments = path ++ segments := by
  induction segments generalizing path with
  | nil => exact (List.append_nil path).symm
  | cons segment rest ih =>
    obtain ⟨single, double⟩ := plain segment List.mem_cons_self
    have others := ih (path ++ [segment]) fun next h => plain next (List.mem_cons_of_mem _ h)
    rw [walk, single, double]
    simpa using others

def segmentsOf (cs : List Char) : List (List Char) :=
  (splitOn '/' (cs.map fun c => if c = '\\' then '/' else c)).map (Text.Percent.encode isPlainInPath)

/-- Whatever stands in front of them, segments without dots are the last ones of the path. -/
theorem segmentsOf_suffix_readPath (front : List Char) {back : List Char}
    (plain : ∀ segment ∈ segmentsOf back, isSingleDot segment = false ∧ isDoubleDot segment = false) :
    segmentsOf back <:+ readPath (front ++ '/' :: back) := by
  have segments : ∃ before, readPath (front ++ '/' :: back) = walk [] (before ++ segmentsOf back) := by
    cases front with
    | nil => exact ⟨[], rfl⟩
    | cons c front =>
      refine ⟨segmentsOf front, ?_⟩
      simp [readPath, segmentsOf, splitOn_append]
  obtain ⟨before, path⟩ := segments
  obtain ⟨start, walked⟩ := exists_walk_append before [] (segmentsOf back)
  rw [path, walked, walk_plain start plain]
  exact List.suffix_append start (segmentsOf back)

end Telemetry.Url

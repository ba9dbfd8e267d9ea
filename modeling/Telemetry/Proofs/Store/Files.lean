import Mathlib.Tactic.SplitIfs
import Telemetry.Proofs.Store.Queue
import Telemetry.Store.Files

set_option autoImplicit false

namespace Telemetry.Store.Files

def IsInner (place : Place) : Prop := ¬(place = [] ∨ place = ["/"])

variable {files after : Files} {place other : Place}

theorem find?_put (files : Files) (place : Place) (entry : Entry) (inner : IsInner other) :
    (files.put place entry).find? other = if other = place then some entry else files.find? other := by
  unfold IsInner at inner
  rw [find?, find?, if_neg inner, if_neg inner, put, List.find?_append]
  by_cases same : other = place
  · subst same
    have gone : (files.entries.filter (·.1 ≠ other)).find? (·.1 = other) = none := by
      simp [List.find?_eq_none]
    rw [gone, if_pos rfl, Option.none_or]
    simp
  · have apart : ¬place = other := Ne.symm same
    have kept : (files.entries.filter (·.1 ≠ place)).find? (·.1 = other) =
        files.entries.find? (·.1 = other) := by
      rw [List.find?_filter]
      congr 1
      funext entry
      by_cases here : entry.1 = other <;> simp [here, same]
    rw [kept, if_neg same]
    simp [apart]

theorem database_putDatabase (files : Files) (inner : IsInner place) (db : Database) :
    (files.putDatabase place db).database place = db := by
  rw [database, putDatabase, find?_put files place _ inner, if_pos rfl]

structure Opens (files : Files) (place : Place) (after : Files) : Prop where
  inner : IsInner place
  rows : (after.database place).rows = (files.database place).rows
  opened : (after.database place).isOpen

theorem Opens.trans {middle : Files} (h : files.Opens place middle) (next : middle.Opens place after) :
    files.Opens place after :=
  ⟨h.inner, next.rows.trans h.rows, next.opened⟩

theorem Opens.putDatabase {db : Database} (h : files.Opens place after)
    (same : db.events = (after.database place).events) : files.Opens place (after.putDatabase place db) := by
  have found := database_putDatabase after h.inner db
  refine ⟨h.inner, ?_, ?_⟩
  · rw [found, Database.rows_of_events same, h.rows]
  · rw [found, Database.isOpen, same]
    exact h.opened

end Telemetry.Store.Files

set_option autoImplicit false

namespace Telemetry.Dictionary

variable {α : Type}

/-- Put `value` under `key`, replacing what was there and keeping ascending order. -/
def insertEntry (key : String) (value : α) : List (String × α) → List (String × α)
  | [] => [(key, value)]
  | entry :: rest =>
    if key < entry.1 then (key, value) :: entry :: rest
    else if key = entry.1 then (key, value) :: rest
    else entry :: insertEntry key value rest

def lookup? (key : String) : List (String × α) → Option α
  | [] => none
  | entry :: rest => if key = entry.1 then some entry.2 else lookup? key rest

def Ascending (entries : List (String × α)) : Prop :=
  entries.Pairwise (fun a b => a.1 < b.1)

theorem mem_insertEntry {key : String} {value : α} {entries : List (String × α)}
    {entry : String × α} (h : entry ∈ insertEntry key value entries) :
    entry = (key, value) ∨ entry ∈ entries := by
  induction entries with
  | nil => simpa [insertEntry] using h
  | cons head rest ih =>
    unfold insertEntry at h
    split at h
    · simpa using h
    · split at h
      · rcases List.mem_cons.1 h with h | h
        · exact .inl h
        · exact .inr (List.mem_cons_of_mem _ h)
      · rcases List.mem_cons.1 h with h | h
        · exact .inr (h ▸ List.mem_cons_self)
        · exact (ih h).imp_right (List.mem_cons_of_mem _)

theorem insertEntry_ascending (key : String) (value : α) {entries : List (String × α)}
    (h : Ascending entries) : Ascending (insertEntry key value entries) := by
  induction entries with
  | nil => simp [insertEntry, Ascending]
  | cons head rest ih =>
    have hhead := (List.pairwise_cons.1 h).1
    have hrest : Ascending rest := (List.pairwise_cons.1 h).2
    unfold insertEntry
    split
    · rename_i hlt
      refine List.pairwise_cons.2 ⟨fun b hb => ?_, h⟩
      rcases List.mem_cons.1 hb with rfl | hb
      · exact hlt
      · exact String.lt_trans hlt (hhead b hb)
    · split
      · rename_i heq
        exact List.pairwise_cons.2 ⟨fun b hb => heq ▸ hhead b hb, hrest⟩
      · rename_i hlt hne
        refine List.pairwise_cons.2 ⟨fun b hb => ?_, ih hrest⟩
        rcases mem_insertEntry hb with rfl | hb
        · rcases String.le_total key head.1 with hle | hle
          · exact absurd (String.le_antisymm hle (String.not_lt.1 hlt)) hne
          · rcases Decidable.em (head.1 < key) with hgt | hgt
            · exact hgt
            · exact absurd (String.le_antisymm (String.not_lt.1 hgt) hle) hne
        · exact hhead b hb

theorem lookup?_insertEntry (key other : String) (value : α) (entries : List (String × α)) :
    lookup? other (insertEntry key value entries) =
      if other = key then some value else lookup? other entries := by
  induction entries with
  | nil => simp [insertEntry, lookup?]
  | cons head rest ih =>
    unfold insertEntry
    split
    · simp [lookup?]
    · split
      · rename_i heq
        subst heq
        by_cases h : other = head.1 <;> simp [lookup?, h]
      · rename_i hne
        by_cases h : other = head.1
        · subst h
          simp [lookup?, Ne.symm hne]
        · simp [lookup?, h, ih]

theorem insertEntry_last (key : String) (value : α) (entries : List (String × α))
    (h : ∀ entry ∈ entries, entry.1 < key) :
    insertEntry key value entries = entries ++ [(key, value)] := by
  induction entries with
  | nil => rfl
  | cons head rest ih =>
    have less : head.1 < key := h head List.mem_cons_self
    have notLess : ¬key < head.1 := fun hlt => String.lt_irrefl _ (String.lt_trans hlt less)
    have ne : key ≠ head.1 := fun heq => String.lt_irrefl _ (heq ▸ less)
    rw [insertEntry, if_neg notLess, if_neg ne, ih fun entry he => h entry (List.mem_cons_of_mem _ he)]
    rfl

end Telemetry.Dictionary

namespace Telemetry

structure Dictionary (α : Type) where
  entries : List (String × α)
  ascending : Dictionary.Ascending entries

namespace Dictionary

variable {α : Type}

def empty : Dictionary α := ⟨[], List.Pairwise.nil⟩

instance : Inhabited (Dictionary α) := ⟨empty⟩

def insert (d : Dictionary α) (key : String) (value : α) : Dictionary α :=
  ⟨insertEntry key value d.entries, insertEntry_ascending key value d.ascending⟩

def find? (d : Dictionary α) (key : String) : Option α := lookup? key d.entries

def contains (d : Dictionary α) (key : String) : Bool := (d.find? key).isSome

def size (d : Dictionary α) : Nat := d.entries.length

def ofList (pairs : List (String × α)) : Dictionary α :=
  pairs.foldl (fun d pair => d.insert pair.1 pair.2) empty

theorem ext {d e : Dictionary α} (h : d.entries = e.entries) : d = e := by
  cases d; cases e; simp_all

instance [DecidableEq α] : DecidableEq (Dictionary α) := fun d e =>
  decidable_of_iff (d.entries = e.entries) ⟨ext, fun h => h ▸ rfl⟩

@[simp] theorem find?_empty (key : String) : (empty : Dictionary α).find? key = none := rfl

theorem find?_insert (d : Dictionary α) (key other : String) (value : α) :
    (d.insert key value).find? other = if other = key then some value else d.find? other :=
  lookup?_insertEntry key other value d.entries

theorem foldl_insert_ascending (pairs : List (String × α)) (d : Dictionary α)
    (h : Ascending (d.entries ++ pairs)) :
    (pairs.foldl (fun d pair => d.insert pair.1 pair.2) d).entries = d.entries ++ pairs := by
  induction pairs generalizing d with
  | nil => rw [List.foldl_nil, List.append_nil]
  | cons pair rest ih =>
    have last : (d.insert pair.1 pair.2).entries = d.entries ++ [pair] :=
      insertEntry_last _ _ _ fun entry he =>
        (List.pairwise_append.1 h).2.2 entry he pair List.mem_cons_self
    rw [List.foldl_cons, ih _ (by rw [last]; simpa using h), last, List.append_assoc]
    rfl

theorem ofList_ascending {entries : List (String × α)} (h : Ascending entries) :
    (ofList entries).entries = entries := foldl_insert_ascending entries empty h

theorem ofList_entries (d : Dictionary α) : ofList d.entries = d :=
  ext (ofList_ascending d.ascending)

end Dictionary

end Telemetry

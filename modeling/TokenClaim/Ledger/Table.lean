/-!
Finite tables: each key stands for at most one value. A table is known by what it answers to
`find?`.
-/

set_option autoImplicit false

namespace TokenClaim

structure Table (κ ν : Type) where
  entries : List (κ × ν)
  distinct : (entries.map Prod.fst).Nodup

namespace Table

variable {κ ν : Type} [DecidableEq κ]

def empty : Table κ ν := ⟨[], List.nodup_nil⟩

/-- Put a value in the place of the key's old one, or at the end. -/
def setEntry (key : κ) (value : ν) : List (κ × ν) → List (κ × ν)
  | [] => [(key, value)]
  | entry :: rest =>
    if entry.1 = key then (key, value) :: rest else entry :: setEntry key value rest

theorem mem_keys_setEntry {key other : κ} {value : ν} {entries : List (κ × ν)} :
    other ∈ (setEntry key value entries).map Prod.fst ↔
      other = key ∨ other ∈ entries.map Prod.fst := by
  induction entries with
  | nil => simp [setEntry]
  | cons entry rest ih =>
    by_cases same : entry.1 = key
    · simp [setEntry, same]
    · simp only [setEntry, same, if_false, List.map_cons, List.mem_cons, ih]
      constructor
      · rintro (h | h | h) <;> simp [h]
      · rintro (h | h | h) <;> simp [h]

theorem nodup_keys_setEntry {key : κ} {value : ν} {entries : List (κ × ν)}
    (distinct : (entries.map Prod.fst).Nodup) :
    ((setEntry key value entries).map Prod.fst).Nodup := by
  induction entries with
  | nil => simp [setEntry]
  | cons entry rest ih =>
    rw [List.map_cons, List.nodup_cons] at distinct
    by_cases same : entry.1 = key
    · simp only [setEntry, same, if_true, List.map_cons, List.nodup_cons]
      exact ⟨same ▸ distinct.1, distinct.2⟩
    · simp only [setEntry, same, if_false, List.map_cons, List.nodup_cons, mem_keys_setEntry,
        false_or]
      exact ⟨distinct.1, ih distinct.2⟩

def find? (table : Table κ ν) (key : κ) : Option ν :=
  (table.entries.find? (·.1 = key)).map Prod.snd

def contains (table : Table κ ν) (key : κ) : Bool := (table.find? key).isSome

def insert (table : Table κ ν) (key : κ) (value : ν) : Table κ ν :=
  ⟨setEntry key value table.entries, nodup_keys_setEntry table.distinct⟩

def insertIfNew (table : Table κ ν) (key : κ) (value : ν) : Table κ ν :=
  if table.contains key then table else table.insert key value

theorem find?_insert (table : Table κ ν) (key other : κ) (value : ν) :
    (table.insert key value).find? other =
      if other = key then some value else table.find? other := by
  obtain ⟨entries, distinct⟩ := table
  simp only [find?, insert]
  clear distinct
  induction entries with
  | nil =>
    by_cases same : key = other
    · simp [setEntry, same]
    · simp [setEntry, same, Ne.symm same]
  | cons entry rest ih =>
    by_cases atKey : entry.1 = key
    · by_cases same : other = key
      · simp [setEntry, atKey, same]
      · have distinctKeys : ¬key = other := fun h => same h.symm
        have notHere : ¬entry.1 = other := fun h => distinctKeys (atKey.symm.trans h)
        simp [setEntry, atKey, same, distinctKeys]
    · by_cases here : entry.1 = other
      · have notKey : ¬other = key := fun h => atKey (here.trans h)
        simp [setEntry, here, notKey]
      · simpa [setEntry, atKey, here] using ih

end Table

end TokenClaim

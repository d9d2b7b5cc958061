/-!
# Lookup tables

A table of values by key, as a list of pairs.  `put` keeps every key to one
pair (`Apart.put`); `find?_put` and `find?_remove` say what a later look-up sees.
-/

namespace Provisioning

/-- Pairs of a key and its value. -/
abbrev Lookup (κ ν : Type) := List (κ × ν)

namespace Lookup

variable {κ ν : Type} [DecidableEq κ]

/-- The value of a key. -/
def find? (table : Lookup κ ν) (key : κ) : Option ν :=
  match table with
  | [] => none
  | (k, v) :: rest => if k = key then some v else find? rest key

/-- The table without a key. -/
def remove (table : Lookup κ ν) (key : κ) : Lookup κ ν :=
  table.filter fun entry => entry.1 ≠ key

/-- The table with a key's value replaced, or added at the end. -/
def put (table : Lookup κ ν) (key : κ) (value : ν) : Lookup κ ν :=
  remove table key ++ [(key, value)]

theorem find?_append_singleton (table : Lookup κ ν) (key k : κ) (value : ν) :
    find? (table ++ [(key, value)]) k =
      (find? table k).orElse fun _ => if key = k then some value else none := by
  induction table with
  | nil => simp [find?]
  | cons entry rest ih =>
    obtain ⟨k', v'⟩ := entry
    by_cases h : k' = k <;> simp [find?, h, ih]

theorem find?_remove (table : Lookup κ ν) (key k : κ) :
    find? (remove table key) k = if k = key then none else find? table k := by
  induction table with
  | nil => simp [remove, find?]
  | cons entry rest ih =>
    obtain ⟨k', v'⟩ := entry
    simp only [remove] at ih
    by_cases h : k' = key <;> by_cases h' : k' = k <;>
      simp_all [remove, find?]

/-- After a `put`, a look-up sees the new value at its key and the old values at
all others. -/
theorem find?_put (table : Lookup κ ν) (key k : κ) (value : ν) :
    find? (put table key value) k = if k = key then some value else find? table k := by
  rw [put, find?_append_singleton, find?_remove]
  by_cases h : k = key
  · simp [h]
  · have h' : ¬key = k := fun e => h e.symm
    simp [h, h']

/-- What holds of every pair holds of those that are left without a key. -/
theorem forall_remove {P : κ × ν → Prop} {table : Lookup κ ν} (h : ∀ entry ∈ table, P entry)
    (key : κ) : ∀ entry ∈ table.remove key, P entry :=
  fun entry hentry => h entry (List.mem_filter.mp hentry).1

/-- What holds of every pair, and of a new one, holds after a `put`. -/
theorem forall_put {P : κ × ν → Prop} {table : Lookup κ ν} (h : ∀ entry ∈ table, P entry)
    {key : κ} {value : ν} (new : P (key, value)) : ∀ entry ∈ table.put key value, P entry := by
  intro entry hentry
  rcases List.mem_append.mp hentry with hentry | hentry
  · exact forall_remove h key entry hentry
  · rw [List.mem_singleton.mp hentry]
    exact new

/-- A pair that is found is in the table. -/
theorem mem_of_find?_eq_some {table : Lookup κ ν} {key : κ} {value : ν}
    (h : table.find? key = some value) : (key, value) ∈ table := by
  induction table with
  | nil => cases h
  | cons entry rest ih =>
    obtain ⟨k, v⟩ := entry
    unfold find? at h
    split at h
    · rename_i heq
      cases h
      rw [heq]
      exact List.mem_cons_self
    · exact List.mem_cons_of_mem _ (ih h)

/-- Every key has one pair. -/
def Apart (table : Lookup κ ν) : Prop :=
  (table.map (·.1)).Nodup

omit [DecidableEq κ] in
theorem apart_nil : Apart ([] : Lookup κ ν) :=
  List.nodup_nil

theorem Apart.remove {table : Lookup κ ν} (h : table.Apart) (key : κ) :
    (table.remove key).Apart :=
  h.sublist (List.filter_sublist.map _)

theorem Apart.put {table : Lookup κ ν} (h : table.Apart) (key : κ) (value : ν) :
    (table.put key value).Apart := by
  unfold Apart Lookup.put
  rw [List.map_append, List.nodup_append]
  refine ⟨h.remove key, List.pairwise_singleton _ key, ?_⟩
  rintro earlier hearlier last hlast rfl
  obtain ⟨entry, hentry, rfl⟩ := List.mem_map.mp hearlier
  have hne : entry.1 ≠ key := by simpa using (List.mem_filter.mp hentry).2
  exact hne (by simpa using hlast)

/-- A look-up finds the pairs of a table that keeps its keys apart. -/
theorem Apart.find?_eq_some_iff {table : Lookup κ ν} (h : table.Apart) {key : κ} {value : ν} :
    table.find? key = some value ↔ (key, value) ∈ table := by
  induction table with
  | nil => simp [find?]
  | cons entry rest ih =>
    obtain ⟨k, v⟩ := entry
    obtain ⟨fresh, hrest⟩ := List.nodup_cons.mp h
    unfold find?
    split
    · rename_i heq
      subst heq
      have gone : (k, value) ∉ rest := fun hmem =>
        fresh (List.mem_map.mpr ⟨(k, value), hmem, rfl⟩)
      simp [gone, eq_comm]
    · rename_i hne
      rw [ih hrest]
      simp [Ne.symm hne]

end Lookup

end Provisioning

/-!
# Dictionaries

Values under distinct text keys, kept in the order of the keys. Keys are compared by their code
points, so two dictionaries with the same values under the same keys are equal.
-/

namespace FormScript

universe u

/-- Values under distinct keys, in ascending order of the keys. -/
structure Dictionary (α : Type u) where
  entries : List (String × α)
  sorted : entries.Pairwise fun a b => a.1 < b.1

namespace Dictionary

variable {α : Type u}

/-- No key at all. -/
def empty : Dictionary α := ⟨[], List.Pairwise.nil⟩

instance : Inhabited (Dictionary α) := ⟨empty⟩

instance : EmptyCollection (Dictionary α) := ⟨empty⟩

/-- The value under a key. -/
def get? (d : Dictionary α) (key : String) : Option α := d.entries.lookup key

/-- A value stands under this key. -/
def contains (d : Dictionary α) (key : String) : Bool := (d.get? key).isSome

/-- Number of keys. -/
def size (d : Dictionary α) : Nat := d.entries.length

/-- The keys in ascending order. -/
def keys (d : Dictionary α) : List String := d.entries.map (·.1)

/-- Sorted entries with one more; an entry under the same key gives way. -/
def insertEntry (key : String) (value : α) : List (String × α) → List (String × α)
  | [] => [(key, value)]
  | e :: rest =>
    if key < e.1 then (key, value) :: e :: rest
    else if key = e.1 then (key, value) :: rest
    else e :: insertEntry key value rest

/-- An entry of the result is the new one or an old one. -/
theorem fst_mem_insertEntry {key : String} {value : α} {entries : List (String × α)}
    {e : String × α} (h : e ∈ insertEntry key value entries) : e.1 = key ∨ e ∈ entries := by
  induction entries with
  | nil => simp only [insertEntry, List.mem_singleton] at h; simp [h]
  | cons x rest ih =>
    simp only [insertEntry] at h
    split at h
    · rcases List.mem_cons.1 h with h | h
      · exact .inl (by rw [h])
      · exact .inr h
    · split at h
      · rcases List.mem_cons.1 h with h | h
        · exact .inl (by rw [h])
        · exact .inr (List.mem_cons_of_mem _ h)
      · rcases List.mem_cons.1 h with h | h
        · exact .inr (h ▸ List.mem_cons_self)
        · exact (ih h).imp_right (List.mem_cons_of_mem _)

/-- Inserting keeps entries in the order of their keys. -/
theorem sorted_insertEntry {key : String} {value : α} {entries : List (String × α)}
    (h : entries.Pairwise fun a b => a.1 < b.1) :
    (insertEntry key value entries).Pairwise fun a b => a.1 < b.1 := by
  induction entries with
  | nil => simp [insertEntry]
  | cons x rest ih =>
    obtain ⟨hx, hr⟩ := List.pairwise_cons.1 h
    simp only [insertEntry]
    split
    · rename_i hlt
      refine List.pairwise_cons.2 ⟨fun e he => ?_, h⟩
      rcases List.mem_cons.1 he with he | he
      · rw [he]; exact hlt
      · exact String.lt_trans hlt (hx e he)
    · rename_i hlt
      split
      · rename_i heq
        exact List.pairwise_cons.2 ⟨fun e he => heq ▸ hx e he, hr⟩
      · rename_i hne
        refine List.pairwise_cons.2 ⟨fun e he => ?_, ih hr⟩
        rcases fst_mem_insertEntry he with he | he
        · rw [he]
          rcases String.le_total x.1 key with hle | hle
          · exact Classical.byContradiction fun hnot =>
              hne (String.le_antisymm (String.not_lt.1 hnot) hle)
          · exact Classical.byContradiction fun hnot =>
              hne (String.le_antisymm hle (String.not_lt.1 hlt))
        · exact hx e he

/-- The first entry is found under its key. -/
theorem lookup_cons_eq_ite (e : String × α) (rest : List (String × α)) (k : String) :
    (e :: rest).lookup k = if k = e.1 then some e.2 else rest.lookup k := by
  obtain ⟨key, value⟩ := e
  rw [List.lookup_cons]
  by_cases h : k = key
  · rw [beq_iff_eq.2 h, if_pos h]
  · rw [beq_eq_false_iff_ne.2 h, if_neg h]

/-- What is inserted is found under its key, and other keys find what they found before. -/
theorem lookup_insertEntry {key k : String} {value : α} {entries : List (String × α)} :
    (insertEntry key value entries).lookup k = if k = key then some value else entries.lookup k := by
  induction entries with
  | nil => exact lookup_cons_eq_ite ..
  | cons e rest ih =>
    simp only [insertEntry]
    split
    · exact lookup_cons_eq_ite ..
    · split
      · rename_i heq
        simp only [lookup_cons_eq_ite, ← heq]
        split <;> rfl
      · rename_i hne
        simp only [lookup_cons_eq_ite, ih]
        split
        · rename_i hk
          rw [if_neg fun h : k = key => hne (h ▸ hk)]
        · rfl

/-- The dictionary with this value under this key. -/
def insert (d : Dictionary α) (key : String) (value : α) : Dictionary α :=
  ⟨insertEntry key value d.entries, sorted_insertEntry d.sorted⟩

/-- The dictionary without a key. -/
def erase (d : Dictionary α) (key : String) : Dictionary α :=
  ⟨d.entries.filter (·.1 ≠ key), d.sorted.filter _⟩

/-- The dictionary of a list of pairs; of two values under one key the later stays. -/
def ofList (pairs : List (String × α)) : Dictionary α :=
  pairs.foldl (fun d p => d.insert p.1 p.2) empty

/-- A value that is put under a key is found under it, and what stands under other keys stays. -/
theorem get?_insert (d : Dictionary α) (key k : String) (value : α) :
    (d.insert key value).get? k = if k = key then some value else d.get? k :=
  lookup_insertEntry

/-- A key that is erased is gone, and what stands under other keys stays. -/
theorem get?_erase (d : Dictionary α) (key k : String) :
    (d.erase key).get? k = if k = key then none else d.get? k := by
  simp only [get?, erase]
  induction d.entries with
  | nil => simp
  | cons e rest ih =>
    by_cases he : e.1 = key
    · rw [List.filter_cons_of_neg (by simpa using he), ih, lookup_cons_eq_ite, he]
      split <;> rfl
    · rw [List.filter_cons_of_pos (by simpa using he), lookup_cons_eq_ite, ih, lookup_cons_eq_ite]
      split
      · rename_i hk
        rw [if_neg fun h : k = key => he (hk ▸ h)]
      · rfl

/-- Nothing stands under any key of the dictionary without keys. -/
theorem get?_empty (key : String) : (empty : Dictionary α).get? key = none := rfl

end Dictionary

end FormScript

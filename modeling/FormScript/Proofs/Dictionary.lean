import FormScript.Dictionary
import Mathlib.Data.List.Induction

/-!
# Dictionaries and their values

A dictionary is determined by the values under its keys, because its entries are in order.
-/

namespace FormScript.Dictionary

universe u

variable {α : Type u}

/-- A value that is found stands in an entry. -/
theorem mem_of_lookup {entries : List (String × α)} {key : String} {value : α}
    (h : entries.lookup key = some value) : (key, value) ∈ entries := by
  induction entries with
  | nil => cases h
  | cons e rest ih =>
    rw [lookup_cons_eq_ite] at h
    split at h
    · next hkey =>
      cases h
      rw [hkey]
      exact List.mem_cons_self
    · exact List.mem_cons_of_mem _ (ih h)

private theorem lookup_eq_none_of_lt {entries : List (String × α)} {key : String}
    (h : ∀ e ∈ entries, key < e.1) : entries.lookup key = none := by
  cases hfound : entries.lookup key with
  | none => rfl
  | some value => exact absurd (h _ (mem_of_lookup hfound)) (String.lt_irrefl key)

private theorem eq_of_lookup_eq {xs ys : List (String × α)} (hxs : xs.Pairwise fun a b => a.1 < b.1)
    (hys : ys.Pairwise fun a b => a.1 < b.1) (h : ∀ key, xs.lookup key = ys.lookup key) :
    xs = ys := by
  induction xs generalizing ys with
  | nil =>
    cases ys with
    | nil => rfl
    | cons y ys =>
      have hy := h y.1
      rw [lookup_cons_eq_ite, if_pos rfl] at hy
      cases hy
  | cons x xs ih =>
    cases ys with
    | nil =>
      have hx := h x.1
      rw [lookup_cons_eq_ite, if_pos rfl] at hx
      cases hx
    | cons y ys =>
      obtain ⟨hltx, hxs⟩ := List.pairwise_cons.1 hxs
      obtain ⟨hlty, hys⟩ := List.pairwise_cons.1 hys
      have hx : (y :: ys).lookup x.1 = some x.2 := by rw [← h, lookup_cons_eq_ite, if_pos rfl]
      have hy : (x :: xs).lookup y.1 = some y.2 := by rw [h, lookup_cons_eq_ite, if_pos rfl]
      have hkey : x.1 = y.1 := by
        rcases List.mem_cons.1 (mem_of_lookup hx) with hmem | hmem
        · rw [← hmem]
        rcases List.mem_cons.1 (mem_of_lookup hy) with hmem' | hmem'
        · rw [← hmem']
        exact absurd (String.lt_trans (hltx _ hmem') (hlty _ hmem)) (String.lt_irrefl _)
      have hhead : x = y := by
        rw [lookup_cons_eq_ite, if_pos hkey] at hx
        exact Prod.ext hkey (Option.some.inj hx).symm
      rw [hhead, ih hxs hys]
      intro key
      by_cases hk : key = x.1
      · rw [hk, lookup_eq_none_of_lt hltx, hkey, lookup_eq_none_of_lt hlty]
      · have hrest := h key
        rw [lookup_cons_eq_ite, if_neg hk, lookup_cons_eq_ite, if_neg (hkey ▸ hk)] at hrest
        exact hrest

/-- Dictionaries with the same values under the same keys are equal. -/
theorem ext_get? {d d' : Dictionary α} (h : ∀ key, d.get? key = d'.get? key) : d = d' := by
  obtain ⟨entries, hsorted⟩ := d
  obtain ⟨entries', hsorted'⟩ := d'
  have heq : entries = entries' := eq_of_lookup_eq hsorted hsorted' h
  subst heq
  rfl

private theorem insertEntry_of_lt {entries : List (String × α)} {key : String} {value : α}
    (h : ∀ e ∈ entries, e.1 < key) : insertEntry key value entries = entries ++ [(key, value)] := by
  induction entries with
  | nil => rfl
  | cons e rest ih =>
    have hlt : e.1 < key := h e List.mem_cons_self
    have hnot : ¬ key < e.1 := fun hgt => String.lt_irrefl key (String.lt_trans hgt hlt)
    have hne : key ≠ e.1 := fun heq => String.lt_irrefl key (heq ▸ hlt)
    rw [insertEntry, if_neg hnot, if_neg hne, ih fun e he => h e (List.mem_cons_of_mem _ he)]
    rfl

/-- Inserting brings in no other entry. -/
theorem mem_insertEntry {entries : List (String × α)} {key : String} {value : α} {e : String × α}
    (h : e ∈ insertEntry key value entries) : e = (key, value) ∨ e ∈ entries := by
  induction entries with
  | nil => exact .inl (List.mem_singleton.1 h)
  | cons x rest ih =>
    rw [insertEntry] at h
    split at h
    · exact List.mem_cons.1 h
    split at h
    · exact (List.mem_cons.1 h).imp_right (List.mem_cons_of_mem _)
    · rcases List.mem_cons.1 h with h | h
      · exact .inr (h ▸ List.mem_cons_self)
      · exact (ih h).imp_right (List.mem_cons_of_mem _)

private theorem ofList_concat (pairs : List (String × α)) (p : String × α) :
    ofList (pairs ++ [p]) = (ofList pairs).insert p.1 p.2 := by
  rw [ofList, List.foldl_append]
  rfl

/-- Of inserted pairs the last one under a key counts, and without one what was there before. -/
theorem get?_foldl_insert (d : Dictionary α) (pairs : List (String × α)) (key : String) :
    (pairs.foldl (fun d p => d.insert p.1 p.2) d).get? key =
      ((ofList pairs).get? key).or (d.get? key) := by
  induction pairs using List.reverseRecOn with
  | nil => rfl
  | append_singleton pairs p ih =>
    rw [List.foldl_append, List.foldl_cons, List.foldl_nil, get?_insert, ih, ofList_concat, get?_insert]
    split <;> rfl

/-- A dictionary of sorted pairs has these pairs as its entries. -/
theorem entries_ofList {pairs : List (String × α)} (h : pairs.Pairwise fun a b => a.1 < b.1) :
    (ofList pairs).entries = pairs := by
  induction pairs using List.reverseRecOn with
  | nil => rfl
  | append_singleton pairs p ih =>
    obtain ⟨hpairs, -, hlast⟩ := List.pairwise_append.1 h
    have hlt : ∀ e ∈ (ofList pairs).entries, e.1 < p.1 := fun e he =>
      hlast e (ih hpairs ▸ he) p List.mem_cons_self
    calc (ofList (pairs ++ [p])).entries
      _ = insertEntry p.1 p.2 (ofList pairs).entries := by rw [ofList_concat]; rfl
      _ = (ofList pairs).entries ++ [p] := insertEntry_of_lt hlt
      _ = pairs ++ [p] := by rw [ih hpairs]

/-- The entries of a dictionary of pairs are among the pairs. -/
theorem mem_of_mem_ofList {pairs : List (String × α)} {e : String × α}
    (h : e ∈ (ofList pairs).entries) : e ∈ pairs := by
  induction pairs using List.reverseRecOn with
  | nil => cases h
  | append_singleton pairs p ih =>
    rw [ofList_concat] at h
    rcases mem_insertEntry h with rfl | h
    · exact List.mem_append_right pairs List.mem_cons_self
    · exact List.mem_append_left [p] (ih h)

/-- A dictionary is the dictionary of its entries. -/
theorem ofList_entries (d : Dictionary α) : ofList d.entries = d :=
  ext_get? fun key => congrArg (·.lookup key) (entries_ofList d.sorted)

/-- No key stands twice. -/
theorem nodup_keys (d : Dictionary α) : d.keys.Nodup :=
  List.pairwise_map.2 (d.sorted.imp fun hlt => String.ne_of_lt hlt)

/-- A key has a value exactly if it is one of the keys. -/
theorem contains_iff_mem_keys {d : Dictionary α} {key : String} :
    d.contains key = true ↔ key ∈ d.keys := by
  simp [contains, get?, keys, List.lookup_isSome_iff]

/-- A key that stands in no entry has no value. -/
theorem lookup_eq_none_of_notMem {entries : List (String × α)} {key : String}
    (h : key ∉ entries.map (·.1)) : entries.lookup key = none := by
  rw [List.lookup_eq_none_iff]
  intro e he
  rw [bne_iff_ne]
  rintro rfl
  exact h (List.mem_map_of_mem he)

/-- Of pairs with distinct keys each is found. -/
theorem get?_ofList_of_nodup {pairs : List (String × α)} (h : (pairs.map (·.1)).Nodup) (key : String) :
    (ofList pairs).get? key = pairs.lookup key := by
  induction pairs using List.reverseRecOn with
  | nil => rfl
  | append_singleton pairs p ih =>
    rw [List.map_append, List.nodup_append] at h
    obtain ⟨hpairs, -, hlast⟩ := h
    rw [ofList_concat, get?_insert, ih hpairs, List.lookup_append, lookup_cons_eq_ite]
    split
    · next hkey =>
      have hnone : pairs.lookup key = none :=
        lookup_eq_none_of_notMem fun hmem => hlast key hmem p.1 (List.mem_singleton_self _) hkey
      rw [hnone, Option.none_or]
    · exact (Option.or_none ..).symm

end FormScript.Dictionary

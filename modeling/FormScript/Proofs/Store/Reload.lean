import Mathlib.Data.List.Forall2
import FormScript.Proofs.Json.Layout
import FormScript.Proofs.Store.Saving

/-!
# A saved sheet beside other sheets

A sheet that has been saved is loaded as it was, whatever stands in the other sheets of the workbook. A
number of theirs that is not read back may come back as another one, or keep the workbook from being
read at all, but no workbook is read from the text in which the sheet is another one.
-/

namespace FormScript

namespace Json.Tree

variable {α : Type} {write : α → Json} {read? : Tree → Option α} {R : String × α → α → Prop}

/-- The readings of fields keep the names and are in the relation. -/
def ReadsOnly (read? : Tree → Option α) (R : String × α → α → Prop) (fields : List (String × α))
    (ts : List (List Text.Quoted.Piece × Tree)) : Prop :=
  ∀ read, ts.mapM (readField read?) = some read →
    List.Forall₂ (fun f g => g.1 = f.1 ∧ R f g.2) fields read

private theorem readsOnly_nil : ReadsOnly read? R [] [] := by
  intro read hread
  cases hread
  exact .nil

private theorem ReadsOnly.cons {key : String} {a : α} {fields : List (String × α)} {t : Tree}
    {ts : List (List Text.Quoted.Piece × Tree)} (h : ∀ b, read? t = some b → R (key, a) b)
    (hrest : ReadsOnly read? R fields ts) :
    ReadsOnly read? R ((key, a) :: fields) ((key.toList.map .char, t) :: ts) := by
  intro read hread
  rw [List.mapM_cons, readField, text?_map_char] at hread
  simp only [Option.bind_eq_bind, Option.bind_some, Option.bind_eq_some_iff] at hread
  obtain ⟨g, ⟨b, hb, hg⟩, read', hread', heq⟩ := hread
  cases hg
  cases heq
  exact .cons ⟨rfl, h b hb⟩ (hrest read' hread')

/-- Each field is spelled, and its readings are in the relation. -/
def AllReadOnly (write : α → Json) (read? : Tree → Option α) (R : String × α → α → Prop)
    (fields : List (String × α)) : Prop :=
  ∀ f ∈ fields, ∃ t, Spells (write f.2) t ∧ ∀ a, read? t = some a → R f a

private theorem exists_spellsFields_readsOnly {fields : List (String × α)}
    (h : AllReadOnly write read? R fields) :
    ∃ ts, SpellsFields (fields.map fun f => (f.1, write f.2)) ts ∧ ReadsOnly read? R fields ts := by
  induction fields with
  | nil => exact ⟨[], spellsFields_nil, readsOnly_nil⟩
  | cons f fields ih =>
    obtain ⟨key, a⟩ := f
    obtain ⟨t, ht, hR⟩ := h (key, a) List.mem_cons_self
    obtain ⟨ts, hts, hrest⟩ := ih fun f hf => h f (List.mem_cons_of_mem _ hf)
    exact ⟨_, spellsFields_cons ht hts, .cons hR hrest⟩

/-- An object is spelled field by field, and what is told of the readings of each field is told of
every reading of all. -/
private theorem exists_spells_object_readsOnly {fields : List (String × α)}
    (h : AllReadOnly write read? R fields) :
    ∃ ts, Spells (.object (fields.map fun f => (f.1, write f.2))) (object ts) ∧
      ReadsOnly read? R fields ts := by
  cases fields with
  | nil => exact ⟨[], spells_object_nil, readsOnly_nil⟩
  | cons f fields =>
    obtain ⟨key, a⟩ := f
    obtain ⟨t, ht, hR⟩ := h (key, a) List.mem_cons_self
    obtain ⟨ts, hts, hrest⟩ :=
      exists_spellsFields_readsOnly fun f hf => h f (List.mem_cons_of_mem _ hf)
    exact ⟨_, spells_object_cons ht hts, .cons hR hrest⟩

end Json.Tree

namespace Dictionary

variable {α : Type} {R : String × α → α → Prop} {entries pairs : List (String × α)}

private theorem map_fst_of_forall₂
    (h : List.Forall₂ (fun f g => g.1 = f.1 ∧ R f g.2) entries pairs) :
    pairs.map (·.1) = entries.map (·.1) := by
  induction h with
  | nil => rfl
  | cons hfg _ ih => rw [List.map_cons, List.map_cons, hfg.1, ih]

/-- What stands under a key among the first entries is related to what stands there among the
others. -/
private theorem lookup_of_forall₂ (h : List.Forall₂ (fun f g => g.1 = f.1 ∧ R f g.2) entries pairs)
    {key : String} {value : α} (hvalue : entries.lookup key = some value) :
    ∃ value', pairs.lookup key = some value' ∧ R (key, value) value' := by
  induction h with
  | nil => cases hvalue
  | @cons f g _ _ hfg _ ih =>
    rw [lookup_cons_eq_ite] at hvalue
    rw [lookup_cons_eq_ite, hfg.1]
    split at hvalue
    · next hkey =>
      cases hvalue
      rw [if_pos hkey]
      subst hkey
      exact ⟨g.2, rfl, hfg.2⟩
    · next hkey =>
      rw [if_neg hkey]
      exact ih hvalue

private theorem get?_ofList_of_forall₂ {d : Dictionary α}
    (h : List.Forall₂ (fun f g => g.1 = f.1 ∧ R f g.2) d.entries pairs) {key : String} {value : α}
    (hvalue : d.get? key = some value) :
    ∃ value', (ofList pairs).get? key = some value' ∧ R (key, value) value' := by
  have hsorted : pairs.Pairwise fun a b => a.1 < b.1 := by
    have hkeys := d.sorted
    rw [← List.pairwise_map (f := Prod.fst), ← map_fst_of_forall₂ h] at hkeys
    exact List.pairwise_map.1 hkeys
  rw [get?, entries_ofList hsorted]
  exact lookup_of_forall₂ h hvalue

end Dictionary

namespace Workbook

open Json.Tree

variable {w : Workbook} {s : Sheet}

/-- The rows under a name are read as they are, if they are those of the sheet. -/
def ReadsSheet (s : Sheet) (f : String × List (List Json)) (read : List (List Json)) : Prop :=
  f = (s.name, s.rows.map (·.map .string)) → read = f.2

private theorem sheet_of_ofText?_toText {read : Workbook}
    (h : ofText? (w.insert s).toText = some read)
    (path : Path) : read.sheet path s.name = .ok s := by
  have hentries : AllReadOnly rowsToJson (rows? 2) (ReadsSheet s) (w.insert s).sheets.entries := by
    intro f _
    by_cases hf : f = (s.name, s.rows.map (·.map .string))
    · obtain ⟨t, ht, hread⟩ : ReadsAs rowsToJson (rows? 2) f.2 := by
        apply readsAs_rows
        rw [hf]
        intro row hrow v hv
        obtain ⟨cells, -, rfl⟩ := List.mem_map.1 hrow
        obtain ⟨cell, -, rfl⟩ := List.mem_map.1 hv
        exact .string cell
      refine ⟨t, ht, fun read hread' _ => ?_⟩
      rw [hread] at hread'
      exact (Option.some.inj hread').symm
    · obtain ⟨t, ht⟩ := exists_spells (rowsToJson f.2)
      exact ⟨t, ht, fun _ _ hf' => absurd hf' hf⟩
  obtain ⟨ts, hts, hreads⟩ := exists_spells_object_readsOnly hentries
  rw [ofText?_toText_of_spells hts] at h
  obtain ⟨sheets, hsheets, rfl⟩ := Option.map_eq_some_iff.1 h
  have hmapM : sheets? (.object ts) =
    (ts.mapM (readField (rows? 2))).bind fun sheets => some (.ofList sheets) := rfl
  rw [hmapM] at hsheets
  obtain ⟨pairs, hpairs, heq⟩ := Option.bind_eq_some_iff.1 hsheets
  cases heq
  obtain ⟨read, hread, hrows⟩ :=
    Dictionary.get?_ofList_of_forall₂ (hreads pairs hpairs) (get?_insert_self w s)
  rw [hrows rfl] at hread
  exact sheet_of_get? hread path

/-- A sheet that has been saved is loaded as it was, if the workbook is read at all. -/
theorem eq_of_load_saved {fs fs' : FileSystem} {source target : Path}
    (hsaved : fs.run (saveAs source target s) = (.ok (), fs')) {loaded : Sheet}
    (hloaded : (fs'.run (load target s.name)).1 = .ok loaded) : loaded = s := by
  obtain ⟨w, place, -, hplace, hnode, -, rfl⟩ := run_saveAs_eq_ok_iff.1 hsaved
  have htext := FileSystem.readText_put hnode hplace (w.insert s).toText
  rw [run_load, FileSystem.workbook, htext] at hloaded
  cases hread : ofText? (w.insert s).toText with
  | none =>
    simp only [hread] at hloaded
    cases hloaded
  | some read =>
    simp only [hread] at hloaded
    have hsheet := sheet_of_ofText?_toText hread target
    exact Except.ok.inj (hloaded.symm.trans hsheet)

end Workbook

end FormScript

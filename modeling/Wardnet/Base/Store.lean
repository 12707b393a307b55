/-
# Finite keyed stores

A store is a finite association list that carries the proof that no key occurs
twice. It is the common shape of a hash map and of an SQL table with a primary
key: lookup, insert-or-replace, `DELETE ... WHERE`, `UPDATE ... WHERE` and
`SELECT ... WHERE` are the operations, and `get?` is the observation every other
lemma is stated with.
-/

import Mathlib.Data.List.Nodup

namespace Wardnet.Base

open List

universe u v

/-- A finite map given by its entries, with no key occurring twice. -/
structure Store (κ : Type u) (ν : Type v) where
  /-- The entries, in insertion order. -/
  entries : List (κ × ν)
  /-- The primary-key constraint. -/
  nodup : (entries.map Prod.fst).Nodup
  deriving DecidableEq

namespace Store

variable {κ : Type u} {ν : Type v}

def empty : Store κ ν := ⟨[], List.nodup_nil⟩

instance : EmptyCollection (Store κ ν) := ⟨empty⟩

def size (s : Store κ ν) : ℕ := s.entries.length

/-- Keep the entries that satisfy `p` (`retain`, or `DELETE` with the negated
condition). -/
def retain (s : Store κ ν) (p : κ → ν → Bool) : Store κ ν where
  entries := s.entries.filter fun entry => p entry.1 entry.2
  nodup := s.nodup.sublist (List.filter_sublist.map Prod.fst)

/-- Rewrite the value of every entry; an `UPDATE` leaves the values alone that
do not meet its condition. -/
def modify (s : Store κ ν) (f : κ → ν → ν) : Store κ ν where
  entries := s.entries.map fun entry => (entry.1, f entry.1 entry.2)
  nodup := by simpa [Function.comp_def] using s.nodup

def select (s : Store κ ν) (p : κ → ν → Bool) : List (κ × ν) :=
  s.entries.filter fun entry => p entry.1 entry.2

/-- `UPDATE … WHERE p`: the number of entries that meet the condition, and the
store in which they are rewritten. -/
def updateWhere (s : Store κ ν) (p : κ → ν → Bool) (f : ν → ν) : ℕ × Store κ ν :=
  ((s.select p).length, s.modify fun k v => if p k v then f v else v)

/-- `DELETE … WHERE p`: the number of entries that meet the condition, and the
store without them. -/
def deleteWhere (s : Store κ ν) (p : κ → ν → Bool) : ℕ × Store κ ν :=
  ((s.select p).length, s.retain fun k v => !p k v)

variable [DecidableEq κ]

def get? (s : Store κ ν) (k : κ) : Option ν := s.entries.lookup k

def contains (s : Store κ ν) (k : κ) : Bool := (s.get? k).isSome

def erase (s : Store κ ν) (k : κ) : Store κ ν := s.retain fun k' _ => k' ≠ k

def insert (s : Store κ ν) (k : κ) (v : ν) : Store κ ν :=
  if h : k ∈ s.entries.map Prod.fst then
    s.modify fun k' v' => if k' = k then v else v'
  else
    ⟨s.entries ++ [(k, v)], by
      rw [List.map_append, List.nodup_append]
      refine ⟨s.nodup, by simp, ?_⟩
      rintro a ha b hb rfl
      simp only [List.map_cons, List.map_nil, List.mem_singleton] at hb
      exact h (hb ▸ ha)⟩

/-! ## Rewriting all values -/

omit [DecidableEq κ] in
theorem modify_modify (s : Store κ ν) (f g : κ → ν → ν) :
    (s.modify f).modify g = s.modify fun k v => g k (f k v) := by
  simp [modify, Function.comp_def]

variable {f : κ → ν → ν} {p : κ → ν → Bool} {k : κ} {v : ν} {s : Store κ ν}

omit [DecidableEq κ] in
theorem length_select_modify (s : Store κ ν) (hp : ∀ k v, p k (f k v) = p k v) :
    ((s.modify f).select p).length = (s.select p).length := by
  simp [select, modify, filter_map, Function.comp_def, hp]

/-! ## Lookup is membership -/

private theorem lookup_eq_some_iff {entries : List (κ × ν)}
    (hnodup : (entries.map Prod.fst).Nodup) :
    entries.lookup k = some v ↔ (k, v) ∈ entries := by
  induction entries with
  | nil => simp
  | cons entry rest ih =>
    obtain ⟨k', v'⟩ := entry
    simp only [map_cons, nodup_cons] at hnodup
    by_cases heq : k = k'
    · subst heq
      have hfresh : (k, v) ∉ rest := fun hmem =>
        hnodup.1 (mem_map.mpr ⟨(k, v), hmem, rfl⟩)
      simp [hfresh, eq_comm]
    · have hbeq : (k == k') = false := beq_false_of_ne heq
      simp [lookup_cons, hbeq, heq, ih hnodup.2]

theorem get?_eq_some_iff : s.get? k = some v ↔ (k, v) ∈ s.entries :=
  lookup_eq_some_iff s.nodup

theorem get?_eq_none_iff : s.get? k = none ↔ ∀ v, (k, v) ∉ s.entries := by
  simp only [Option.eq_none_iff_forall_ne_some, ne_eq, get?_eq_some_iff]

theorem mem_select_iff : (k, v) ∈ s.select p ↔ s.get? k = some v ∧ p k v = true := by
  simp [select, get?_eq_some_iff]

theorem length_select_pos_iff :
    0 < (s.select p).length ↔ ∃ k v, s.get? k = some v ∧ p k v = true := by
  rw [length_pos_iff_exists_mem]
  constructor
  · rintro ⟨⟨k, v⟩, hmem⟩
    exact ⟨k, v, mem_select_iff.mp hmem⟩
  · rintro ⟨k, v, hentry⟩
    exact ⟨(k, v), mem_select_iff.mpr hentry⟩

/-- An `UPDATE` affects a row exactly when some row meets its condition. -/
theorem updateWhere_pos_iff {f : ν → ν} :
    0 < (s.updateWhere p f).1 ↔ ∃ k v, s.get? k = some v ∧ p k v = true :=
  length_select_pos_iff

/-- A `DELETE` affects a row exactly when some row meets its condition. -/
theorem deleteWhere_pos_iff : 0 < (s.deleteWhere p).1 ↔ ∃ k v, s.get? k = some v ∧ p k v = true :=
  length_select_pos_iff

/-! ## What each operation does to a lookup -/

@[simp]
theorem get?_empty (k : κ) : (∅ : Store κ ν).get? k = none := rfl

@[simp]
theorem get?_retain (s : Store κ ν) (p : κ → ν → Bool) (k : κ) :
    (s.retain p).get? k = (s.get? k).filter (p k) := by
  ext v
  simp [get?_eq_some_iff, Option.filter_eq_some_iff, retain]

@[simp]
theorem get?_modify (s : Store κ ν) (f : κ → ν → ν) (k : κ) :
    (s.modify f).get? k = (s.get? k).map (f k) := by
  ext v
  simp only [get?_eq_some_iff, Option.map_eq_some_iff, modify, mem_map,
    Prod.mk.injEq, Prod.exists]
  constructor
  · rintro ⟨k', v', hmem, rfl, rfl⟩
    exact ⟨v', hmem, rfl⟩
  · rintro ⟨v', hmem, rfl⟩
    exact ⟨k, v', hmem, rfl, rfl⟩

theorem modify_eq_self (hf : ∀ k v, s.get? k = some v → f k v = v) : s.modify f = s := by
  have hentries : s.entries.map (fun entry => (entry.1, f entry.1 entry.2)) = s.entries := by
    conv_rhs => rw [← map_id s.entries]
    apply map_congr_left
    intro entry hentry
    rw [hf entry.1 entry.2 (get?_eq_some_iff.mpr hentry)]
    rfl
  cases s
  simpa [modify] using hentries

@[simp]
theorem get?_updateWhere (s : Store κ ν) (p : κ → ν → Bool) (f : ν → ν) (k : κ) :
    (s.updateWhere p f).2.get? k = (s.get? k).map fun v => if p k v then f v else v := by
  simp [updateWhere]

@[simp]
theorem get?_deleteWhere (s : Store κ ν) (p : κ → ν → Bool) (k : κ) :
    (s.deleteWhere p).2.get? k = (s.get? k).filter fun v => !p k v := by
  simp [deleteWhere]

@[simp]
theorem get?_erase (s : Store κ ν) (k k' : κ) :
    (s.erase k).get? k' = if k' = k then none else s.get? k' := by
  rw [erase, get?_retain]
  by_cases heq : k' = k <;> cases s.get? k' <;> simp [heq, Option.filter]

theorem get?_of_erase {k' : κ} (h : (s.erase k).get? k' = some v) :
    k' ≠ k ∧ s.get? k' = some v := by
  rw [get?_erase] at h
  split at h
  · cases h
  · exact ⟨‹_›, h⟩

@[simp]
theorem get?_insert (s : Store κ ν) (k k' : κ) (v : ν) :
    (s.insert k v).get? k' = if k' = k then some v else s.get? k' := by
  unfold insert
  split
  · rename_i hmem
    obtain ⟨⟨k₀, old⟩, hentry, rfl⟩ := mem_map.mp hmem
    have hold : s.get? k₀ = some old := get?_eq_some_iff.mpr hentry
    rw [get?_modify]
    by_cases heq : k' = k₀
    · simp [heq, hold]
    · cases s.get? k' <;> simp [heq]
  · rename_i hmem
    have hfresh : ∀ v', (k, v') ∉ s.entries := fun v' hentry =>
      hmem (mem_map.mpr ⟨(k, v'), hentry, rfl⟩)
    ext v'
    by_cases heq : k' = k
    · subst heq
      simp only [get?_eq_some_iff, mem_append, hfresh, false_or,
        mem_singleton, Prod.mk.injEq, true_and, if_true, Option.some.injEq]
      exact eq_comm
    · simp [get?_eq_some_iff, heq]

/-- A row that is found after an insert is the new one, or stands under another key. -/
theorem get?_of_insert {k' : κ} {v' : ν} (h : (s.insert k v).get? k' = some v') :
    k' = k ∧ v' = v ∨ k' ≠ k ∧ s.get? k' = some v' := by
  rw [get?_insert] at h
  split at h
  · exact .inl ⟨‹_›, (Option.some.inj h).symm⟩
  · exact .inr ⟨‹_›, h⟩

/-- A fresh entry that a rewrite leaves alone may be added before or after it. -/
theorem insert_modify (hfresh : s.get? k = none) (hv : f k v = v) :
    (s.modify f).insert k v = (s.insert k v).modify f := by
  have hmem : k ∉ s.entries.map Prod.fst := by
    intro hmem
    obtain ⟨⟨k', old⟩, hentry, rfl⟩ := mem_map.mp hmem
    exact get?_eq_none_iff.mp hfresh old hentry
  have hmem' : k ∉ (s.modify f).entries.map Prod.fst := by
    simpa [modify, Function.comp_def] using hmem
  rw [insert, insert, dif_neg hmem', dif_neg hmem]
  simp [modify, hv]

private theorem length_filter_replace_le {entries : List (κ × ν)}
    (hnodup : (entries.map Prod.fst).Nodup) (k : κ) (v : ν) (p : κ → ν → Bool) :
    ((entries.map fun entry => (entry.1, if entry.1 = k then v else entry.2)).filter
        fun entry => p entry.1 entry.2).length ≤
      (entries.filter fun entry => p entry.1 entry.2).length + if p k v then 1 else 0 := by
  induction entries with
  | nil => simp
  | cons entry rest ih =>
    obtain ⟨k', v'⟩ := entry
    simp only [map_cons, nodup_cons] at hnodup
    by_cases heq : k' = k
    · subst heq
      -- The key occurs once, so the tail is left alone.
      have hrest :
          rest.map (fun entry => (entry.1, if entry.1 = k' then v else entry.2)) = rest := by
        conv_rhs => rw [← map_id rest]
        apply map_congr_left
        intro entry hentry
        have hne : entry.1 ≠ k' := fun h => hnodup.1 (h ▸ mem_map_of_mem hentry)
        rw [if_neg hne]
        rfl
      simp only [map_cons, if_true, hrest, filter_cons]
      split <;> split <;> simp
    · have htail := ih hnodup.2
      simp only [map_cons, heq, if_false, filter_cons]
      split
      · simp only [length_cons]
        omega
      · exact htail

/-- An insert adds at most the new entry to the matches. -/
theorem length_select_insert_le (s : Store κ ν) (k : κ) (v : ν) (p : κ → ν → Bool) :
    ((s.insert k v).select p).length ≤ (s.select p).length + if p k v then 1 else 0 := by
  unfold insert
  split
  · exact length_filter_replace_le s.nodup k v p
  · simp only [select, filter_append, length_append, filter_cons, filter_nil]
    split <;> simp

theorem get?_insert_self (s : Store κ ν) (k : κ) (v : ν) : (s.insert k v).get? k = some v := by
  simp

theorem get?_insert_of_ne (s : Store κ ν) {k' : κ} (hne : k' ≠ k) (v : ν) :
    (s.insert k v).get? k' = s.get? k' := by
  simp [hne]

theorem insert_eq_self (h : s.get? k = some v) : s.insert k v = s := by
  have hmem : k ∈ s.entries.map Prod.fst := mem_map_of_mem (get?_eq_some_iff.mp h)
  rw [insert, dif_pos hmem]
  apply modify_eq_self
  intro k' v' hget
  split
  · rename_i heq
    subst heq
    exact Option.some.inj (h.symm.trans hget)
  · rfl

/-- Of several inserted entries of a key, one is found. -/
theorem get?_foldl_insert (entries : List (κ × ν)) (s : Store κ ν) (k : κ) :
    ((∀ v, (k, v) ∉ entries) ∧
        (entries.foldl (fun t entry => t.insert entry.1 entry.2) s).get? k = s.get? k) ∨
      ∃ v, (k, v) ∈ entries ∧
        (entries.foldl (fun t entry => t.insert entry.1 entry.2) s).get? k = some v := by
  induction entries generalizing s with
  | nil => exact .inl ⟨nofun, rfl⟩
  | cons entry entries ih =>
    rw [foldl_cons]
    rcases ih (s.insert entry.1 entry.2) with ⟨hnot, hget⟩ | ⟨v, hmem, hget⟩
    · rw [hget, get?_insert]
      split
      · rename_i heq
        subst heq
        exact .inr ⟨entry.2, mem_cons_self, rfl⟩
      · rename_i hne
        refine .inl ⟨fun v hv => ?_, rfl⟩
        rcases mem_cons.mp hv with rfl | hv
        · exact hne rfl
        · exact hnot v hv
    · exact .inr ⟨v, mem_cons_of_mem _ hmem, hget⟩

theorem contains_eq_true_iff : s.contains k = true ↔ ∃ v, s.get? k = some v := by
  simp [contains, Option.isSome_iff_exists]

/-! ## Which keys are present, and how many -/

theorem contains_erase (s : Store κ ν) (k k' : κ) :
    (s.erase k).contains k' = (s.contains k' && !decide (k' = k)) := by
  by_cases heq : k' = k <;> simp [contains, heq]

theorem contains_insert (s : Store κ ν) (k k' : κ) (v : ν) :
    (s.insert k v).contains k' = (decide (k' = k) || s.contains k') := by
  by_cases heq : k' = k <;> simp [contains, heq]

theorem contains_retain_key (s : Store κ ν) (p : κ → Bool) (k : κ) :
    (s.retain fun k' _ => p k').contains k = (s.contains k && p k) := by
  rw [contains, contains, get?_retain]
  cases s.get? k with
  | none => rfl
  | some v => cases p k <;> simp [Option.filter]

omit [DecidableEq κ] in
theorem size_retain_le (s : Store κ ν) (p : κ → ν → Bool) : (s.retain p).size ≤ s.size :=
  length_filter_le ..

theorem size_insert_le (s : Store κ ν) (k : κ) (v : ν) : (s.insert k v).size ≤ s.size + 1 := by
  unfold insert
  split
  · simp [size, modify]
  · simp [size]

end Store

end Wardnet.Base

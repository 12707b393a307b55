/-
# Tables under READ COMMITTED

A table is a list of row versions. A version is there for a reader if the transaction that
inserted it has committed and no committed transaction has deleted it. Each statement of a
transaction looks at the table through a snapshot of its own, and waits for a transaction
that is still running where both want the same row.

Every write marks some versions as deleted and adds some rows, and `edit` is that. While a
transaction runs, nobody else sees what it has written (`Writes`), and its commit shows all of
it at once, provided that it has deleted everything that was there (`liveRows_commit`).
-/

import Mathlib.Data.List.Basic

namespace Wardnet.Base.Mvcc

open List

variable {ρ κ : Type}

/-- The transactions: the next one to start, those that run, and those that have committed. All
others below the next one were rolled back. -/
structure Xacts where
  next : ℕ
  running : List ℕ
  committed : List ℕ
  deriving DecidableEq

namespace Xacts

def empty : Xacts := ⟨0, [], []⟩

def start (xs : Xacts) : Xacts := ⟨xs.next + 1, xs.next :: xs.running, xs.committed⟩

def commit (xs : Xacts) (x : ℕ) : Xacts :=
  ⟨xs.next, xs.running.filter (· ≠ x), x :: xs.committed⟩

def rollback (xs : Xacts) (x : ℕ) : Xacts :=
  ⟨xs.next, xs.running.filter (· ≠ x), xs.committed⟩

structure Ok (xs : Xacts) : Prop where
  running_lt : ∀ x ∈ xs.running, x < xs.next
  committed_lt : ∀ x ∈ xs.committed, x < xs.next
  disjoint : ∀ x ∈ xs.running, x ∉ xs.committed

variable {xs : Xacts} {x y : ℕ}

theorem Ok.empty : Xacts.empty.Ok where
  running_lt _ h := by cases h
  committed_lt _ h := by cases h
  disjoint _ h := by cases h

theorem Ok.start (h : xs.Ok) : xs.start.Ok where
  running_lt x hx := by
    rcases mem_cons.mp hx with rfl | hx
    · exact Nat.lt_succ_self _
    · exact Nat.lt_succ_of_lt (h.running_lt x hx)
  committed_lt x hx := Nat.lt_succ_of_lt (h.committed_lt x hx)
  disjoint x hx := by
    rcases mem_cons.mp hx with rfl | hx
    · exact fun hmem => Nat.lt_irrefl _ (h.committed_lt _ hmem)
    · exact h.disjoint x hx

theorem mem_running_filter : y ∈ xs.running.filter (· ≠ x) ↔ y ∈ xs.running ∧ y ≠ x := by
  simp

theorem Ok.commit (h : xs.Ok) (hx : x ∈ xs.running) : (xs.commit x).Ok where
  running_lt y hy := h.running_lt y (mem_running_filter.mp hy).1
  committed_lt y hy := by
    rcases mem_cons.mp hy with rfl | hy
    · exact h.running_lt y hx
    · exact h.committed_lt y hy
  disjoint y hy hmem := by
    obtain ⟨hrunning, hne⟩ := mem_running_filter.mp hy
    rcases mem_cons.mp hmem with rfl | hmem
    · exact hne rfl
    · exact h.disjoint y hrunning hmem

theorem Ok.rollback (h : xs.Ok) (x : ℕ) : (xs.rollback x).Ok where
  running_lt y hy := h.running_lt y (mem_running_filter.mp hy).1
  committed_lt := h.committed_lt
  disjoint y hy := h.disjoint y (mem_running_filter.mp hy).1

theorem rollback_of_not_mem (hx : x ∉ xs.running) : xs.rollback x = xs := by
  have hall : ∀ y ∈ xs.running, decide (y ≠ x) = true := by
    intro y hy
    apply decide_eq_true
    rintro rfl
    exact hx hy
  rw [rollback, filter_eq_self.mpr hall]

end Xacts

/-- A version of a row, with the transactions that inserted and deleted it. -/
structure Version (ρ : Type) where
  row : ρ
  insertedBy : ℕ
  deletedBy : Option ℕ
  deriving DecidableEq

abbrev Table (ρ : Type) := List (Version ρ)

namespace Version

def live (committed : List ℕ) (v : Version ρ) : Bool :=
  v.insertedBy ∈ committed ∧ ∀ d ∈ v.deletedBy, d ∉ committed

/-- The version is there for a statement of the transaction `own` with the snapshot. -/
def seen (snapshot : List ℕ) (own : ℕ) (v : Version ρ) : Bool :=
  (v.insertedBy = own ∨ v.insertedBy ∈ snapshot) ∧ ∀ d ∈ v.deletedBy, d ≠ own ∧ d ∉ snapshot

def locked (xs : Xacts) (own : ℕ) (v : Version ρ) : Bool :=
  ∃ d ∈ v.deletedBy, d ≠ own ∧ d ∈ xs.running

def gone (xs : Xacts) (v : Version ρ) : Bool := ∃ d ∈ v.deletedBy, d ∈ xs.committed

/-- The version stands against another row of the same key: it is neither rolled back nor
deleted. -/
def rivals (xs : Xacts) (own : ℕ) (v : Version ρ) : Bool :=
  (v.insertedBy = own ∨ v.insertedBy ∈ xs.running ∨ v.insertedBy ∈ xs.committed) ∧
    ∀ d ∈ v.deletedBy, d ≠ own ∧ d ∉ xs.committed

/-- It is not decided yet whether the version stays. -/
def undecided (xs : Xacts) (own : ℕ) (v : Version ρ) : Bool :=
  (v.insertedBy ≠ own ∧ v.insertedBy ∈ xs.running) ∨ v.locked xs own

end Version

def liveRows (committed : List ℕ) (table : Table ρ) : List ρ :=
  (table.filter (·.live committed)).map (·.row)

def edit (own : ℕ) (marks : Version ρ → Bool) (added : List ρ) (table : Table ρ) : Table ρ :=
  table.map (fun v => if marks v then { v with deletedBy := some own } else v) ++
    added.map (⟨·, own, none⟩)

/-- Delete all rows of the snapshot that are still there. The answer is `none` while another
transaction has yet to decide about one of them. -/
def deleteSeen (xs : Xacts) (own : ℕ) (snapshot : List ℕ) (table : Table ρ) : Option (Table ρ) :=
  if table.any fun v => v.seen snapshot own && v.locked xs own then none
  else some (edit own (fun v => v.seen snapshot own && !v.gone xs) [] table)

/-- Insert a row under a primary key. The answer is `none` while another transaction has yet
to decide about a row of the same key, and `some none` where there is one. -/
def insertRow [DecidableEq κ] (key : ρ → κ) (xs : Xacts) (own : ℕ) (row : ρ) (table : Table ρ) :
    Option (Option (Table ρ)) :=
  let rival := fun v : Version ρ => key v.row = key row && v.rivals xs own
  if table.any fun v => rival v && v.undecided xs own then none
  else if table.any rival then some none
  else some (some (edit own (fun _ => false) [row] table))

/-- Insert a row, or put it in the place of the one that is there. -/
def upsertRow [DecidableEq κ] (key : ρ → κ) (xs : Xacts) (own : ℕ) (row : ρ) (table : Table ρ) :
    Option (Table ρ) :=
  let rival := fun v : Version ρ => key v.row = key row && v.rivals xs own
  if table.any fun v => rival v && v.undecided xs own then none
  else some (edit own rival [row] table)

/-! ## What a transaction has written -/

def Known (next : ℕ) (table : Table ρ) : Prop :=
  ∀ v ∈ table, v.insertedBy < next ∧ ∀ d ∈ v.deletedBy, d < next

theorem Known.mono {table : Table ρ} {n m : ℕ} (h : Known n table) (hle : n ≤ m) : Known m table :=
  fun v hv => ⟨Nat.lt_of_lt_of_le (h v hv).1 hle,
    fun d hd => Nat.lt_of_lt_of_le ((h v hv).2 d hd) hle⟩

/-- The running transaction `x` has inserted `rows`, and has deleted all that was there if
`cleared`. -/
structure Writes (committed : List ℕ) (x : ℕ) (rows : List ρ) (cleared : Prop) (table : Table ρ) :
    Prop where
  own : (table.filter (·.insertedBy = x)).map (·.row) = rows
  undeleted : ∀ v ∈ table, v.insertedBy = x → v.deletedBy = none
  cleared : cleared → ∀ v ∈ table, v.live committed = true → v.deletedBy = some x

/-- The marked versions are none that another running transaction has inserted or deleted,
and none that is gone. -/
def Marks (xs : Xacts) (own : ℕ) (marks : Version ρ → Bool) (table : Table ρ) : Prop :=
  ∀ v ∈ table, marks v = true → (∀ x ∈ xs.running, x ≠ own → v.insertedBy ≠ x ∧
    v.deletedBy ≠ some x) ∧ ∀ d ∈ v.deletedBy, d ∉ xs.committed

section

variable {xs : Xacts} {own : ℕ} {marks : Version ρ → Bool} {added : List ρ} {table : Table ρ}

theorem mem_edit {v : Version ρ} (hv : v ∈ edit own marks added table) :
    (∃ u ∈ table, v.row = u.row ∧ v.insertedBy = u.insertedBy ∧
      v.deletedBy = if marks u then some own else u.deletedBy) ∨
    (v.insertedBy = own ∧ v.deletedBy = none) := by
  rcases mem_append.mp hv with hold | hnew
  · obtain ⟨u, hu, rfl⟩ := mem_map.mp hold
    refine .inl ⟨u, hu, ?_⟩
    split
    · exact ⟨rfl, rfl, rfl⟩
    · exact ⟨rfl, rfl, rfl⟩
  · obtain ⟨row, -, rfl⟩ := mem_map.mp hnew
    exact .inr ⟨rfl, rfl⟩

theorem known_edit (hown : own < xs.next) (h : Known xs.next table) :
    Known xs.next (edit own marks added table) := by
  intro v hv
  rcases mem_edit hv with ⟨u, hu, -, hinserted, hdeleted⟩ | ⟨hinserted, hdeleted⟩
  · obtain ⟨hlt, hdlt⟩ := h u hu
    refine ⟨hinserted ▸ hlt, fun d hd => ?_⟩
    rw [hdeleted] at hd
    split at hd
    · cases hd
      exact hown
    · exact hdlt d hd
  · rw [hinserted, hdeleted]
    exact ⟨hown, nofun⟩

/-- Nobody sees the writes of a running transaction. -/
theorem liveRows_edit (hown : own ∉ xs.committed) (hmarks : Marks xs own marks table) :
    liveRows xs.committed (edit own marks added table) = liveRows xs.committed table := by
  have hadded : (added.map fun row => (⟨row, own, none⟩ : Version ρ)).filter
      (·.live xs.committed) = [] := by
    simp [filter_eq_nil_iff, Version.live, hown]
  have hkept : ∀ v ∈ table, Version.live xs.committed
      (if marks v then { v with deletedBy := some own } else v) = v.live xs.committed := by
    intro v hv
    by_cases hmark : marks v = true
    · have hstays := (hmarks v hv hmark).2
      have hbefore : v.live xs.committed = decide (v.insertedBy ∈ xs.committed) := by
        simp only [Version.live]
        exact decide_eq_decide.mpr ⟨And.left, fun hinserted => ⟨hinserted, hstays⟩⟩
      rw [hbefore]
      simp [hmark, Version.live, hown]
    · simp [hmark]
  simp only [liveRows, edit, filter_append, hadded, append_nil, filter_map,
    map_map]
  rw [filter_congr (q := fun v => v.live xs.committed) fun v hv => by simpa using hkept v hv]
  apply map_congr_left
  intro v _
  by_cases hmark : marks v = true
  · simp [hmark]
  · simp [hmark]

theorem map_row_edit (x : ℕ) :
    ((edit own marks added table).filter (·.insertedBy = x)).map (·.row) =
      (table.filter (·.insertedBy = x)).map (·.row) ++ if own = x then added else [] := by
  have hkept : ∀ v : Version ρ,
      (if marks v then { v with deletedBy := some own } else v).insertedBy = v.insertedBy ∧
        (if marks v then { v with deletedBy := some own } else v).row = v.row := by
    intro v
    split
    · exact ⟨rfl, rfl⟩
    · exact ⟨rfl, rfl⟩
  simp only [edit, filter_append, map_append, filter_map, map_map,
    Function.comp_def, hkept]
  split
  · rename_i heq
    simp [heq]
  · rename_i hne
    simp [hne]

section

variable {x : ℕ} {rows : List ρ} {cleared : Prop}

/-- The writes of another transaction are left alone. -/
theorem Writes.edit_other (h : Writes xs.committed x rows cleared table)
    (hmarks : Marks xs own marks table) (hown : own ∉ xs.committed) (hx : x ∈ xs.running)
    (hne : x ≠ own) : Writes xs.committed x rows cleared (edit own marks added table) where
  own := by rw [map_row_edit, if_neg (Ne.symm hne), append_nil, h.own]
  undeleted v hv hinserted := by
    rcases mem_edit hv with ⟨u, hu, -, hinserted', hdeleted⟩ | ⟨hinserted', -⟩
    · rw [hinserted] at hinserted'
      rw [hdeleted, if_neg fun hmark => ((hmarks u hu hmark).1 x hx hne).1 hinserted'.symm]
      exact h.undeleted u hu hinserted'.symm
    · exact absurd (hinserted.symm.trans hinserted') hne
  cleared hcleared v hv hlive := by
    obtain ⟨hcommitted, -⟩ := of_decide_eq_true hlive
    rcases mem_edit hv with ⟨u, hu, -, hinserted, hdeleted⟩ | ⟨hinserted, -⟩
    · by_cases hmark : marks u = true
      · have hstays := (hmarks u hu hmark).2
        have hgone := h.cleared hcleared u hu (decide_eq_true ⟨hinserted ▸ hcommitted, hstays⟩)
        exact absurd hgone ((hmarks u hu hmark).1 x hx hne).2
      · rw [if_neg hmark] at hdeleted
        rw [hdeleted]
        apply h.cleared hcleared u hu
        rw [← hlive]
        simp [Version.live, hinserted, hdeleted]
    · rw [hinserted] at hcommitted
      exact absurd hcommitted hown

theorem Writes.edit_own {cleared' : Prop} (h : Writes xs.committed own rows cleared table)
    (hown : own ∉ xs.committed)
    (hmarks : ∀ v ∈ table, marks v = true → v.insertedBy ≠ own)
    (hcleared : cleared' → ∀ v ∈ table, v.live xs.committed = true →
      marks v = true ∨ v.deletedBy = some own) :
    Writes xs.committed own (rows ++ added) cleared' (edit own marks added table) where
  own := by rw [map_row_edit, if_pos rfl, h.own]
  undeleted v hv hinserted := by
    rcases mem_edit hv with ⟨u, hu, -, hinserted', hdeleted⟩ | ⟨-, hdeleted⟩
    · rw [hinserted] at hinserted'
      rw [hdeleted, if_neg fun hmark => hmarks u hu hmark hinserted'.symm]
      exact h.undeleted u hu hinserted'.symm
    · exact hdeleted
  cleared hcleared' v hv hlive := by
    obtain ⟨hcommitted, hstays⟩ := of_decide_eq_true hlive
    rcases mem_edit hv with ⟨u, hu, -, hinserted, hdeleted⟩ | ⟨hinserted, -⟩
    · by_cases hmark : marks u = true
      · rw [hdeleted, if_pos hmark]
      · rw [if_neg hmark] at hdeleted
        have hbefore : u.live xs.committed = true :=
          decide_eq_true ⟨hinserted ▸ hcommitted, hdeleted ▸ hstays⟩
        rcases hcleared hcleared' u hu hbefore with hmark' | hdeleted'
        · exact absurd hmark' hmark
        · rw [hdeleted, hdeleted']
    · rw [hinserted] at hcommitted
      exact absurd hcommitted hown

/-- A commit shows all that the transaction has written, and nothing else. -/
theorem Writes.liveRows_commit (h : Writes xs.committed x rows True table)
    (hx : x ∉ xs.committed) : liveRows (x :: xs.committed) table = rows := by
  rw [← h.own, liveRows]
  congr 1
  apply filter_congr
  intro v hv
  simp only [Version.live]
  apply decide_eq_decide.mpr
  constructor
  · rintro ⟨hinserted, hstays⟩
    rcases mem_cons.mp hinserted with heq | hcommitted
    · exact heq
    · have hdeleted := h.cleared trivial v hv
        (decide_eq_true ⟨hcommitted, fun d hd hmem => hstays d hd (mem_cons_of_mem x hmem)⟩)
      exact absurd mem_cons_self (hstays x hdeleted)
  · rintro rfl
    refine ⟨mem_cons_self, fun d hd => ?_⟩
    rw [h.undeleted v hv rfl] at hd
    cases hd

/-- A transaction that has deleted nothing is not affected by commits. -/
theorem Writes.commit_other {committed committed' : List ℕ}
    (h : Writes committed x rows False table) : Writes committed' x rows False table :=
  ⟨h.own, h.undeleted, False.elim⟩

theorem writes_fresh (h : Known xs.next table) : Writes xs.committed xs.next [] False table where
  own := by
    rw [map_eq_nil_iff, filter_eq_nil_iff]
    intro v hv heq
    have hlt := (h v hv).1
    rw [of_decide_eq_true heq] at hlt
    exact Nat.lt_irrefl _ hlt
  undeleted v hv heq := by
    have hlt := (h v hv).1
    rw [heq] at hlt
    exact absurd hlt (Nat.lt_irrefl _)
  cleared := False.elim

theorem Writes.not_own (h : Writes xs.committed x [] cleared table) {v : Version ρ}
    (hv : v ∈ table) : v.insertedBy ≠ x := by
  have hnone := filter_eq_nil_iff.mp (map_eq_nil_iff.mp h.own) v hv
  simpa using hnone

end

/-- What a statement of the transaction `own` leaves as it is. -/
structure Frame (xs : Xacts) (own : ℕ) (table table' : Table ρ) : Prop where
  known : Known xs.next table → Known xs.next table'
  live : liveRows xs.committed table' = liveRows xs.committed table
  others : ∀ {x rows cleared}, x ∈ xs.running → x ≠ own → Writes xs.committed x rows cleared table →
    Writes xs.committed x rows cleared table'

theorem Frame.refl : Frame xs own table table :=
  ⟨id, rfl, fun _ _ h => h⟩

theorem Frame.of_edit (hok : xs.Ok) (hown : own ∈ xs.running) (hmarks : Marks xs own marks table) :
    Frame xs own table (edit own marks added table) where
  known := known_edit (hok.running_lt own hown)
  live := liveRows_edit (hok.disjoint own hown) hmarks
  others hx hne h := h.edit_other hmarks (hok.disjoint own hown) hx hne

/-! ## The statements -/

section

variable {table' : Table ρ} {row : ρ} {snapshot : List ℕ} {cleared : Prop} {rows : List ρ}

/-- A delete with an up-to-date snapshot clears the table. -/
theorem deleteSeen_eq_some (hok : xs.Ok) (hown : own ∈ xs.running)
    (h : deleteSeen xs own xs.committed table = some table')
    (hwrites : Writes xs.committed own [] cleared table) :
    Frame xs own table table' ∧ Writes xs.committed own [] True table' := by
  unfold deleteSeen at h
  split at h
  · cases h
  rename_i hfree
  cases h
  constructor
  · apply Frame.of_edit hok hown
    intro v hv hmark
    simp only [Bool.and_eq_true, Bool.not_eq_true'] at hmark
    obtain ⟨hseen, hstays⟩ := hmark
    have hunlocked : v.locked xs own = false := by
      have hnone := any_eq_false.mp (Bool.eq_false_iff.mpr hfree) v hv
      simpa [hseen] using hnone
    refine ⟨fun x hx hne => ⟨?_, ?_⟩, ?_⟩
    · rintro rfl
      rcases (of_decide_eq_true hseen).1 with heq | hmem
      · exact hne heq
      · exact hok.disjoint _ hx hmem
    · intro heq
      exact of_decide_eq_false hunlocked ⟨x, heq, hne, hx⟩
    · intro d hd hmem
      exact of_decide_eq_false hstays ⟨d, hd, hmem⟩
  · refine hwrites.edit_own (hok.disjoint own hown) (fun v hv _ => hwrites.not_own hv) ?_
    intro _ v _ hlive
    obtain ⟨hcommitted, hstays⟩ := of_decide_eq_true hlive
    by_cases hdeleted : v.deletedBy = some own
    · exact .inr hdeleted
    · left
      have hseen : v.seen xs.committed own = true := by
        refine decide_eq_true ⟨.inr hcommitted, fun d hd => ⟨?_, hstays d hd⟩⟩
        rintro rfl
        exact hdeleted hd
      have hgone : v.gone xs = false := by
        apply decide_eq_false
        rintro ⟨d, hd, hmem⟩
        exact hstays d hd hmem
      simp [hseen, hgone]

theorem insertRow_eq_some [DecidableEq κ] {key : ρ → κ} (hok : xs.Ok) (hown : own ∈ xs.running)
    (h : insertRow key xs own row table = some (some table'))
    (hwrites : Writes xs.committed own rows cleared table) :
    Frame xs own table table' ∧ Writes xs.committed own (rows ++ [row]) cleared table' := by
  unfold insertRow at h
  dsimp only at h
  split at h
  · cases h
  split at h
  · cases h
  cases h
  constructor
  · exact Frame.of_edit hok hown nofun
  · refine hwrites.edit_own (hok.disjoint own hown) nofun ?_
    exact fun hcleared v hv hlive => .inr (hwrites.cleared hcleared v hv hlive)

theorem upsertRow_eq_some [DecidableEq κ] {key : ρ → κ} (hkey : ∀ a b : ρ, key a = key b)
    (hok : xs.Ok) (hown : own ∈ xs.running) (h : upsertRow key xs own row table = some table')
    (hwrites : Writes xs.committed own [] cleared table) :
    Frame xs own table table' ∧ Writes xs.committed own [row] True table' := by
  unfold upsertRow at h
  dsimp only at h
  split at h
  · cases h
  rename_i hfree
  cases h
  constructor
  · apply Frame.of_edit hok hown
    intro v hv hmark
    have hrival := (Bool.and_eq_true _ _ ▸ hmark).2
    have hdecided : v.undecided xs own = false := by
      have hnone := any_eq_false.mp (Bool.eq_false_iff.mpr hfree) v hv
      simpa [hmark] using hnone
    replace hdecided := of_decide_eq_false hdecided
    obtain ⟨-, hstays⟩ := of_decide_eq_true hrival
    refine ⟨fun x hx hne => ⟨?_, ?_⟩, fun d hd => (hstays d hd).2⟩
    · rintro rfl
      exact hdecided (.inl ⟨hne, hx⟩)
    · intro heq
      exact hdecided (.inr (decide_eq_true ⟨x, heq, hne, hx⟩))
  · refine hwrites.edit_own (hok.disjoint own hown) (fun v hv _ => hwrites.not_own hv) ?_
    intro _ v _ hlive
    obtain ⟨hcommitted, hstays⟩ := of_decide_eq_true hlive
    by_cases hdeleted : v.deletedBy = some own
    · exact .inr hdeleted
    · left
      have hrival : v.rivals xs own = true := by
        refine decide_eq_true ⟨.inr (.inr hcommitted), fun d hd => ⟨?_, hstays d hd⟩⟩
        rintro rfl
        exact hdeleted hd
      simp [hrival, hkey v.row row]

end

end

end Wardnet.Base.Mvcc

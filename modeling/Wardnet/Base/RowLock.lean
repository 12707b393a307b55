/-
# Row locks

Running transactions lock rows of a table, and mark some of them for deletion. A mark takes
effect when the transaction commits, and the locks are released when it ends. Nobody else locks,
changes or deletes a row that is locked.

The rows are divided into groups. A transaction that keeps a lock on one row of a group while it
deletes others leaves the group nonempty, whatever else happens (`Guarded.commit_nonempty`).
-/

import Mathlib.Logic.Function.Basic
import Mathlib.Data.List.Basic

namespace Wardnet.Base

open Option

/-- A lock on a row: whose it is, and whether the row is to be deleted. -/
structure RowLock where
  owner : ℕ
  doomed : Bool
  deriving DecidableEq

/-- The transactions, and the locks they hold. -/
structure RowLocks (κ : Type) where
  /-- The next transaction. -/
  next : ℕ
  running : List ℕ
  held : κ → Option RowLock

namespace RowLocks

variable {κ ρ τ : Type}

def start (l : RowLocks κ) : RowLocks κ :=
  { l with next := l.next + 1, running := l.next :: l.running }

def busy (l : RowLocks κ) (x : ℕ) (key : κ) : Bool := (l.held key).any (·.owner ≠ x)

def take [DecidableEq κ] (l : RowLocks κ) (x : ℕ) (key : κ) (doomed : Bool) : RowLocks κ :=
  let lock : RowLock := ⟨x, doomed || (l.held key).any (·.doomed)⟩
  { l with held := Function.update l.held key (some lock) }

def dooms (l : RowLocks κ) (x : ℕ) (key : κ) : Bool := l.held key = some ⟨x, true⟩

def finish (l : RowLocks κ) (x : ℕ) : RowLocks κ :=
  { l with
    running := l.running.filter (· ≠ x)
    held := fun key => (l.held key).filter (·.owner ≠ x) }

section

variable {l : RowLocks κ} {x y : ℕ} {key other : κ} {lock : RowLock} {doomed : Bool}

theorem mem_running_finish : y ∈ (l.finish x).running ↔ y ∈ l.running ∧ y ≠ x := by
  simp [finish]

theorem held_finish :
    (l.finish x).held key = some lock ↔ l.held key = some lock ∧ lock.owner ≠ x := by
  simp [finish, filter_eq_some_iff]

variable [DecidableEq κ]

theorem held_take_self :
    (l.take x key doomed).held key = some ⟨x, doomed || (l.held key).any (·.doomed)⟩ := by
  simp [take]

theorem held_take_ne (h : other ≠ key) : (l.take x key doomed).held other = l.held other := by
  simp [take, h]

end

/-! ## What others may do -/

variable (group : ρ → τ)

def Nonempty (g : τ) (rows : κ → Option ρ) : Prop := ∃ key row, rows key = some row ∧ group row = g

/-- What a statement of the transaction `x`, or one of no transaction, may do: the locks of the
others, while they run, and the groups of the rows that they hold are left as they are. -/
structure Respects (x : Option ℕ) (rows rows' : κ → Option ρ) (l l' : RowLocks κ) : Prop where
  next_le : l.next ≤ l'.next
  running : ∀ y ∈ l'.running, y < l.next → y ∈ l.running
  held : ∀ {key lock}, l.held key = some lock → x ≠ some lock.owner → lock.owner ∈ l'.running →
    l'.held key = some lock ∧
      ∀ row, rows key = some row → ∃ row', rows' key = some row' ∧ group row' = group row
  back : ∀ {key lock}, l'.held key = some lock → x ≠ some lock.owner → l.held key = some lock

/-- Every locked row exists, every lock is that of a running transaction, and next to a row that
it deletes a transaction holds another one of the same group. -/
structure Guarded (rows : κ → Option ρ) (l : RowLocks κ) : Prop where
  running : ∀ x ∈ l.running, x < l.next
  owner : ∀ {key lock}, l.held key = some lock → lock.owner ∈ l.running
  row : ∀ {key lock}, l.held key = some lock → ∃ row, rows key = some row
  kept : ∀ {key x row}, l.held key = some ⟨x, true⟩ → rows key = some row →
    ∃ other row', l.held other = some ⟨x, false⟩ ∧ rows other = some row' ∧ group row' = group row

def Clean (x : ℕ) (l : RowLocks κ) : Prop :=
  x < l.next ∧ ∀ key lock, l.held key = some lock → lock.owner = x → lock.doomed = false

/-- As long as the transaction runs, it holds a row of the group under some key, and does not
delete it. -/
def Holds (x : ℕ) (ok : κ → Prop) (g : τ) (rows : κ → Option ρ) (l : RowLocks κ) : Prop :=
  x < l.next ∧ (x ∈ l.running → ∃ key row, ok key ∧ l.held key = some ⟨x, false⟩ ∧
    rows key = some row ∧ group row = g)

section

variable {group} {x y : ℕ} {o : Option ℕ} {rows rows' : κ → Option ρ} {l l' : RowLocks κ}
  {ok : κ → Prop} {g : τ} {key : κ} {doomed : Bool}

theorem Clean.respects (h : Clean x l) (hrespects : Respects group o rows rows' l l')
    (hother : o ≠ some x) : Clean x l' := by
  refine ⟨Nat.lt_of_lt_of_le h.1 hrespects.next_le, ?_⟩
  rintro key lock hheld rfl
  exact h.2 key lock (hrespects.back hheld hother) rfl

theorem Holds.respects (h : Holds group x ok g rows l)
    (hrespects : Respects group o rows rows' l l') (hother : o ≠ some x) :
    Holds group x ok g rows' l' := by
  refine ⟨Nat.lt_of_lt_of_le h.1 hrespects.next_le, fun hrunning => ?_⟩
  obtain ⟨key, row, hok, hheld, hrow, hgroup⟩ := h.2 (hrespects.running x hrunning h.1)
  obtain ⟨hheld', hrows⟩ := hrespects.held hheld hother hrunning
  obtain ⟨row', hrow', hsame⟩ := hrows row hrow
  exact ⟨key, row', hok, hheld', hrow', hsame.trans hgroup⟩

/-! ## Starting and ending -/

theorem Respects.start : Respects group o rows rows l l.start where
  next_le := Nat.le_succ _
  running y hy hlt := by
    rcases List.mem_cons.mp hy with rfl | hy
    · exact absurd hlt (Nat.lt_irrefl _)
    · exact hy
  held hheld _ _ := ⟨hheld, fun row hrow => ⟨row, hrow, rfl⟩⟩
  back hheld _ := hheld

theorem Guarded.start (h : Guarded group rows l) : Guarded group rows l.start where
  running x hx := by
    rcases List.mem_cons.mp hx with rfl | hx
    · exact Nat.lt_succ_self _
    · exact Nat.lt_succ_of_lt (h.running x hx)
  owner hheld := List.mem_cons_of_mem _ (h.owner hheld)
  row := h.row
  kept := h.kept

theorem Guarded.clean_start (h : Guarded group rows l) : Clean l.next l.start := by
  refine ⟨Nat.lt_succ_self _, ?_⟩
  rintro key lock hheld howner
  have hlt := h.running _ (h.owner hheld)
  rw [howner] at hlt
  exact absurd hlt (Nat.lt_irrefl _)

theorem Respects.finish : Respects group o rows rows l (l.finish x) where
  next_le := Nat.le_refl _
  running _ hy _ := (mem_running_finish.mp hy).1
  held hheld _ hrunning :=
    ⟨held_finish.mpr ⟨hheld, (mem_running_finish.mp hrunning).2⟩, fun row hrow => ⟨row, hrow, rfl⟩⟩
  back hheld _ := (held_finish.mp hheld).1

theorem Guarded.finish (h : Guarded group rows l) (x : ℕ) : Guarded group rows (l.finish x) where
  running y hy := h.running y (mem_running_finish.mp hy).1
  owner hheld := mem_running_finish.mpr ⟨h.owner (held_finish.mp hheld).1, (held_finish.mp hheld).2⟩
  row hheld := h.row (held_finish.mp hheld).1
  kept hheld hrow := by
    obtain ⟨hheld, hne⟩ := held_finish.mp hheld
    obtain ⟨other, row', hother, hrow', hgroup⟩ := h.kept hheld hrow
    exact ⟨other, row', held_finish.mpr ⟨hother, hne⟩, hrow', hgroup⟩

/-! ## Statements outside of transactions -/

/-- Rows are added, and rows change within their group. -/
theorem Respects.of_rows (hrows : ∀ key row, rows key = some row →
    ∃ row', rows' key = some row' ∧ group row' = group row) : Respects group o rows rows' l l where
  next_le := Nat.le_refl _
  running _ hy _ := hy
  held hheld _ _ := ⟨hheld, hrows _⟩
  back hheld _ := hheld

theorem Guarded.of_rows (h : Guarded group rows l) (hrows : ∀ key row, rows key = some row →
    ∃ row', rows' key = some row' ∧ group row' = group row) : Guarded group rows' l where
  running := h.running
  owner := h.owner
  row hheld := by
    obtain ⟨row, hrow⟩ := h.row hheld
    obtain ⟨row', hrow', -⟩ := hrows _ row hrow
    exact ⟨row', hrow'⟩
  kept hheld hrow' := by
    obtain ⟨row, hrow⟩ := h.row hheld
    obtain ⟨_, hafter, hsame⟩ := hrows _ row hrow
    obtain rfl := some.inj (hafter.symm.trans hrow')
    obtain ⟨other, kept, hother, hkept, hgroup⟩ := h.kept hheld hrow
    obtain ⟨kept', hkept', hsame'⟩ := hrows other kept hkept
    exact ⟨other, kept', hother, hkept', (hsame'.trans hgroup).trans hsame.symm⟩

theorem Nonempty.of_rows (h : Nonempty group g rows) (hrows : ∀ key row, rows key = some row →
    ∃ row', rows' key = some row' ∧ group row' = group row) : Nonempty group g rows' := by
  obtain ⟨key, row, hrow, hgroup⟩ := h
  obtain ⟨row', hrow', hsame⟩ := hrows key row hrow
  exact ⟨key, row', hrow', hsame.trans hgroup⟩

/-! ## Locking and marking -/

section

variable [DecidableEq κ]

theorem Respects.take (hfree : l.busy x key = false) :
    Respects group (some x) rows rows l (l.take x key doomed) where
  next_le := Nat.le_refl _
  running _ hy _ := hy
  held {other lock} hheld hne _ := by
    refine ⟨?_, fun row hrow => ⟨row, hrow, rfl⟩⟩
    rw [held_take_ne]
    · exact hheld
    · rintro rfl
      simp only [busy, hheld, any_some, decide_eq_false_iff_not, not_not] at hfree
      exact hne (congrArg some hfree.symm)
  back {other lock} hheld hne := by
    by_cases heq : other = key
    · subst heq
      rw [held_take_self] at hheld
      cases hheld
      exact absurd rfl hne
    · rwa [held_take_ne heq] at hheld

theorem Clean.lock (h : Clean x l) (hfree : l.busy x key = false) :
    Clean x (l.take x key false) := by
  refine ⟨h.1, fun other lock hheld howner => ?_⟩
  by_cases heq : other = key
  · subst heq
    rw [held_take_self] at hheld
    cases hheld
    cases hlock : l.held other with
    | none => rfl
    | some lock =>
      simp only [busy, hlock, any_some, decide_eq_false_iff_not, not_not] at hfree
      simpa using h.2 other lock hlock hfree
  · rw [held_take_ne heq] at hheld
    exact h.2 other lock hheld howner

theorem Clean.held_lock (h : Clean x l) (hfree : l.busy x key = false) :
    (l.take x key false).held key = some ⟨x, false⟩ := by
  rw [held_take_self]
  exact congrArg some (congrArg (RowLock.mk x) ((h.lock hfree).2 key _ held_take_self rfl))

/-- A row is locked by a transaction that has marked nothing. -/
theorem Guarded.lock {row : ρ} (h : Guarded group rows l) (hclean : Clean x l)
    (hx : x ∈ l.running) (hfree : l.busy x key = false) (hrow : rows key = some row) :
    Guarded group rows (l.take x key false) := by
  have hheld := hclean.held_lock hfree
  refine ⟨h.running, fun {other lock} hlock => ?_, fun {other lock} hlock => ?_,
    fun {other y row'} hdoomed hrow' => ?_⟩
  · by_cases heq : other = key
    · subst heq
      rw [hheld] at hlock
      cases hlock
      exact hx
    · rw [held_take_ne heq] at hlock
      exact h.owner hlock
  · by_cases heq : other = key
    · subst heq
      exact ⟨row, hrow⟩
    · rw [held_take_ne heq] at hlock
      exact h.row hlock
  · have hne : other ≠ key := by
      rintro rfl
      rw [hheld] at hdoomed
      cases hdoomed
    rw [held_take_ne hne] at hdoomed
    obtain ⟨kept, krow, hkept, hkrow, hgroup⟩ := h.kept hdoomed hrow'
    refine ⟨kept, krow, ?_, hkrow, hgroup⟩
    by_cases heq : kept = key
    · subst heq
      -- the transaction of the mark is not the one that locks, which has marked nothing
      have hsame : y = x := by
        simpa [busy, hkept] using hfree
      subst hsame
      exact absurd (hclean.2 other _ hdoomed rfl) (by simp)
    · rwa [held_take_ne heq]

theorem Holds.take (h : Holds group x ok g rows l) (hkey : doomed = true → ¬ ok key) :
    Holds group x ok g rows (l.take x key doomed) := by
  refine ⟨h.1, fun hrunning => ?_⟩
  obtain ⟨other, row, hok, hheld, hrow, hgroup⟩ := h.2 hrunning
  refine ⟨other, row, hok, ?_, hrow, hgroup⟩
  by_cases heq : other = key
  · subst heq
    rw [held_take_self, hheld]
    cases doomed with
    | false => rfl
    | true => exact absurd hok (hkey rfl)
  · rwa [held_take_ne heq]

/-- A row is marked while another one of its group is held. -/
theorem Guarded.doom {row : ρ} (h : Guarded group rows l) (hx : x ∈ l.running)
    (hholds : Holds group x ok g rows l) (hkey : ¬ ok key) (hfree : l.busy x key = false)
    (hrow : rows key = some row) (hgroup : group row = g) :
    Guarded group rows (l.take x key true) := by
  have hheld : (l.take x key true).held key = some ⟨x, true⟩ := by rw [held_take_self]; rfl
  have htaken : Holds group x ok g rows (l.take x key true) := hholds.take fun _ => hkey
  obtain ⟨keeper, krow, -, hkheld, hkrow, hkgroup⟩ := htaken.2 hx
  refine ⟨h.running, fun {other lock} hlock => ?_, fun {other lock} hlock => ?_,
    fun {other y row'} hdoomed hrow' => ?_⟩
  · by_cases heq : other = key
    · subst heq
      rw [hheld] at hlock
      cases hlock
      exact hx
    · rw [held_take_ne heq] at hlock
      exact h.owner hlock
  · by_cases heq : other = key
    · subst heq
      exact ⟨row, hrow⟩
    · rw [held_take_ne heq] at hlock
      exact h.row hlock
  · by_cases heq : other = key
    · subst heq
      rw [hheld] at hdoomed
      cases hdoomed
      obtain rfl := some.inj (hrow.symm.trans hrow')
      exact ⟨keeper, krow, hkheld, hkrow, hkgroup.trans hgroup.symm⟩
    · rw [held_take_ne heq] at hdoomed
      obtain ⟨kept, krow', hkept, hkrow', hsame⟩ := h.kept hdoomed hrow'
      by_cases hmarked : kept = key
      · -- the row that was kept so far is marked now
        subst hmarked
        have hy : y = x := by simpa [busy, hkept] using hfree
        subst hy
        obtain rfl := some.inj (hrow.symm.trans hkrow')
        exact ⟨keeper, krow, hkheld, hkrow, (hkgroup.trans hgroup.symm).trans hsame⟩
      · exact ⟨kept, krow', by rwa [held_take_ne hmarked], hkrow', hsame⟩

end

/-! ## Commits -/

/-- The rows that are left when the transaction commits. -/
def survivors (l : RowLocks κ) (x : ℕ) (rows : κ → Option ρ) (key : κ) : Option ρ :=
  if l.dooms x key then none else rows key

theorem survivors_of_held {lock : RowLock} (hheld : l.held key = some lock)
    (hlock : lock ≠ ⟨x, true⟩) : survivors l x rows key = rows key := by
  refine if_neg fun hdooms => ?_
  rw [of_decide_eq_true hdooms] at hheld
  exact hlock (some.inj hheld).symm

theorem Respects.commit : Respects group (some x) rows (survivors l x rows) l (l.finish x) where
  next_le := Nat.le_refl _
  running _ hy _ := (mem_running_finish.mp hy).1
  held {key lock} hheld hne _ := by
    have hother : lock.owner ≠ x := fun heq => hne (congrArg some heq.symm)
    refine ⟨held_finish.mpr ⟨hheld, hother⟩, fun row hrow => ⟨row, ?_, rfl⟩⟩
    rw [survivors_of_held hheld, hrow]
    rintro rfl
    exact hother rfl
  back hheld _ := (held_finish.mp hheld).1

theorem Guarded.commit (h : Guarded group rows l) (x : ℕ) :
    Guarded group (survivors l x rows) (l.finish x) where
  running y hy := h.running y (mem_running_finish.mp hy).1
  owner hheld := mem_running_finish.mpr ⟨h.owner (held_finish.mp hheld).1, (held_finish.mp hheld).2⟩
  row {key lock} hheld := by
    obtain ⟨hheld, hne⟩ := held_finish.mp hheld
    rw [survivors_of_held hheld (by rintro rfl; exact hne rfl)]
    exact h.row hheld
  kept {key y row} hheld hrow := by
    obtain ⟨hheld, hne⟩ := held_finish.mp hheld
    rw [survivors_of_held hheld (by rintro ⟨⟩; exact hne rfl)] at hrow
    obtain ⟨other, row', hother, hrow', hgroup⟩ := h.kept hheld hrow
    refine ⟨other, row', held_finish.mpr ⟨hother, hne⟩, ?_, hgroup⟩
    rw [survivors_of_held hother (by rintro ⟨⟩), hrow']

/-- No commit empties a group. -/
theorem Guarded.commit_nonempty (h : Guarded group rows l) (x : ℕ)
    (hnonempty : Nonempty group g rows) : Nonempty group g (survivors l x rows) := by
  obtain ⟨key, row, hrow, hgroup⟩ := hnonempty
  by_cases hdooms : l.dooms x key = true
  · obtain ⟨other, row', hother, hrow', hsame⟩ := h.kept (of_decide_eq_true hdooms) hrow
    refine ⟨other, row', ?_, hsame.trans hgroup⟩
    rw [survivors_of_held hother (by rintro ⟨⟩), hrow']
  · exact ⟨key, row, by rw [survivors, if_neg hdooms, hrow], hgroup⟩

end

end RowLocks

end Wardnet.Base

/-
# Bounded channels

A multi-producer, single-consumer queue of fixed capacity with reference-counted
senders. A send waits exactly while the queue is full and fails once the
receiver is gone; a receive waits exactly while the queue is empty and some
sender is alive, and reports the end of the channel when none is. Waiting is
`none`: the operation is not enabled.
-/

import Mathlib.Data.Nat.Notation

namespace Wardnet.Base

universe u

/-- A channel that holds at most `capacity` items. -/
structure Chan (capacity : ℕ) (α : Type u) where
  queue : List α
  /-- The number of sender handles that are alive. -/
  senders : ℕ
  /-- Whether the receiver is alive. -/
  receiving : Bool
  bounded : queue.length ≤ capacity

namespace Chan

variable {capacity : ℕ} {α : Type u}

def new : Chan capacity α := ⟨[], 1, true, Nat.zero_le _⟩

def clone (c : Chan capacity α) : Chan capacity α := { c with senders := c.senders + 1 }

def dropSender (c : Chan capacity α) : Chan capacity α := { c with senders := c.senders - 1 }

/-- The receiver goes out of scope, and the queued items with it. -/
def dropReceiver (c : Chan capacity α) : Chan capacity α :=
  { c with queue := [], receiving := false, bounded := Nat.zero_le _ }

def Full (c : Chan capacity α) : Prop := c.queue.length = capacity

instance (c : Chan capacity α) : Decidable c.Full := inferInstanceAs (Decidable (_ = _))

def push (c : Chan capacity α) (item : α) (hroom : c.queue.length < capacity) :
    Chan capacity α :=
  { c with
    queue := c.queue ++ [item]
    bounded := by simpa using Nat.succ_le_of_lt hroom }

/-- Send an item: whether the receiver was there to take it, and the channel
after. -/
def send (c : Chan capacity α) (item : α) : Option (Bool × Chan capacity α) :=
  if c.receiving = false then some (false, c)
  else if hroom : c.queue.length < capacity then some (true, c.push item hroom)
  else none

def pop (c : Chan capacity α) : Chan capacity α :=
  { c with
    queue := c.queue.tail
    bounded := by
      rw [List.length_tail]
      exact Nat.le_trans (Nat.sub_le _ _) c.bounded }

def recv (c : Chan capacity α) : Option (Option α × Chan capacity α) :=
  match c.queue with
  | item :: _ => some (some item, c.pop)
  | [] => if c.senders = 0 then some (none, c) else none

/-! ## When the operations are enabled -/

variable {c c' : Chan capacity α} {item : α}

theorem send_of_room (item : α) (hopen : c.receiving = true) (hroom : c.queue.length < capacity) :
    c.send item = some (true, c.push item hroom) := by
  simp [send, hopen, hroom]

theorem recv_of_cons {rest : List α} (hqueue : c.queue = item :: rest) :
    c.recv = some (some item, c.pop) := by
  simp [recv, hqueue]

/-! ## What the operations keep -/

theorem senders_of_send {ok : Bool} (hsend : c.send item = some (ok, c')) :
    c'.senders = c.senders := by
  unfold send at hsend
  split at hsend
  · cases hsend
    rfl
  · split at hsend
    · cases hsend
      rfl
    · cases hsend

theorem senders_of_recv {item : Option α} (hrecv : c.recv = some (item, c')) :
    c'.senders = c.senders := by
  unfold recv at hrecv
  split at hrecv
  · cases hrecv
    rfl
  · split at hrecv
    · cases hrecv
      rfl
    · cases hrecv

theorem queue_of_send (hsend : c.send item = some (true, c')) :
    c'.queue = c.queue ++ [item] ∧ c.receiving = true ∧ c'.receiving = true := by
  unfold send at hsend
  split at hsend
  · cases hsend
  · rename_i hopen
    split at hsend
    · cases hsend
      exact ⟨rfl, eq_true_of_ne_false hopen, eq_true_of_ne_false hopen⟩
    · cases hsend

/-- A send fails only if there is no receiver. -/
theorem eq_of_send_false (hsend : c.send item = some (false, c')) :
    c' = c ∧ c.receiving = false := by
  unfold send at hsend
  split at hsend
  · rename_i hclosed
    cases hsend
    exact ⟨rfl, hclosed⟩
  · split at hsend
    · cases hsend
    · cases hsend

theorem receiving_of_send {ok : Bool} (hsend : c.send item = some (ok, c')) :
    c'.receiving = c.receiving := by
  cases ok with
  | true =>
    obtain ⟨-, hbefore, hafter⟩ := queue_of_send hsend
    rw [hbefore, hafter]
  | false => rw [(eq_of_send_false hsend).1]

theorem queue_of_recv (hrecv : c.recv = some (some item, c')) :
    c.queue = item :: c'.queue ∧ c'.receiving = c.receiving := by
  unfold recv at hrecv
  split at hrecv
  · rename_i hqueue
    cases hrecv
    exact ⟨by simp [pop, hqueue], rfl⟩
  · split at hrecv
    · cases hrecv
    · cases hrecv

/-- The end of the channel is received if nothing is queued and no sender is left. -/
theorem eq_of_recv_none (hrecv : c.recv = some (none, c')) :
    c' = c ∧ c.queue = [] ∧ c.senders = 0 := by
  unfold recv at hrecv
  split at hrecv
  · cases hrecv
  · rename_i hqueue
    split at hrecv
    · rename_i hsenders
      cases hrecv
      exact ⟨rfl, hqueue, hsenders⟩
    · cases hrecv

theorem not_full_of_recv (hrecv : c.recv = some (some item, c')) : ¬ c'.Full := by
  unfold recv at hrecv
  split at hrecv
  · rename_i first rest hqueue
    cases hrecv
    intro hfull
    have hbound := c.bounded
    have hrest : rest.length = capacity := by simpa [Full, pop, hqueue] using hfull
    rw [hqueue, List.length_cons, hrest] at hbound
    exact Nat.not_succ_le_self _ hbound
  · split at hrecv
    · cases hrecv
    · cases hrecv

end Chan

end Wardnet.Base

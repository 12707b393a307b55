/-
# One call that fails

A procedure that runs alone against a service with one answer for every call ends in one way.
To see what a single failing call does to it, the service is started with the number of calls
that it lets through. The call after those is refused and has no effect, and all later ones
are answered again.
-/

import Mathlib.Data.Nat.Notation
import Wardnet.Base.Prog

namespace Wardnet.Base.Prog

universe u v w

variable {C : Type u} {R : C → Type v} {α β ε : Type w} {σ : Type*}

def eval (answer : (c : C) → σ → R c × σ) : Prog C R α → σ → α × σ
  | ret value, s => (value, s)
  | call c next, s => (next (answer c s).1).eval answer (answer c s).2

variable {answer : (c : C) → σ → R c × σ} {s t : σ}

theorem eval_bind (p : Prog C R α) (f : α → Prog C R β) :
    (p.bind f).eval answer s = (f (p.eval answer s).1).eval answer (p.eval answer s).2 := by
  induction p generalizing s with
  | ret value => rfl
  | call c next ih => exact ih (answer c s).1

theorem eval_bind_of_eval {p : Prog C R α} {f : α → Prog C R β} {value : α}
    (h : p.eval answer s = (value, t)) : (p.bind f).eval answer s = (f value).eval answer t := by
  rw [eval_bind, h]

section

variable {p : ExceptT ε (Prog C R) α} {f : α → ExceptT ε (Prog C R) β} {value : α} {e : ε}

theorem eval_exceptBind_ok (h : p.run.eval answer s = (.ok value, t)) :
    (p >>= f).run.eval answer s = (f value).run.eval answer t :=
  eval_bind_of_eval h

theorem eval_exceptBind_error (h : p.run.eval answer s = (.error e, t)) :
    (p >>= f).run.eval answer s = (.error e, t) :=
  eval_bind_of_eval h

end

/-- A service that lets some calls through, refuses the next one and answers all others. -/
def faulty (refuse : (c : C) → R c) (answer : (c : C) → σ → R c × σ) (c : C) (s : σ × Option ℕ) :
    R c × (σ × Option ℕ) :=
  match s.2 with
  | none => ((answer c s.1).1, (answer c s.1).2, none)
  | some 0 => (refuse c, s.1, none)
  | some (n + 1) => ((answer c s.1).1, (answer c s.1).2, some n)

def after (k : ℕ) (n : Option ℕ) : Option ℕ := n.map (· + k)

theorem after_zero (n : Option ℕ) : after 0 n = n := by
  cases n with
  | none | some => rfl

theorem after_after (j k : ℕ) (n : Option ℕ) : after j (after k n) = after (k + j) n := by
  cases n with
  | none => rfl
  | some n => exact congrArg some (Nat.add_assoc n k j)

theorem eq_zero_or_after (n : Option ℕ) : n = some 0 ∨ ∃ m, n = after 1 m := by
  rcases n with - | - | n
  · exact .inr ⟨none, rfl⟩
  · exact .inl rfl
  · exact .inr ⟨some n, rfl⟩

theorem faulty_after {refuse : (c : C) → R c} {c : C} (k : ℕ) (n : Option ℕ) :
    faulty refuse answer c (s, after (k + 1) n) = ((answer c s).1, (answer c s).2, after k n) := by
  cases n with
  | none | some => rfl

end Wardnet.Base.Prog

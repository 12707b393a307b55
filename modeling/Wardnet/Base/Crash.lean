/-
# Procedures that are cut short

A procedure that runs alone may be stopped after any of its calls and started again from
the beginning. `Stops` says which states it may leave behind. `Wpc` is a precondition that
looks at every such state: a crash condition holds after each call, and the postcondition
holds at the end.

A crash condition that is strong enough to start again is kept by any number of attempts,
so the one that goes through ends as the first one would have.
-/

import Mathlib.Data.Nat.Notation
import Wardnet.Base.Prog

namespace Wardnet.Base.Prog

universe u v w

variable {C : Type u} {R : C → Type v} {α β ε : Type w} {σ : Type*}
  {step : (c : C) → σ → R c → σ → Prop}

variable (step) in
/-- Run a procedure alone, stop it somewhere, and find the state `s'`. -/
def Stops : Prog C R α → σ → σ → Prop
  | ret _, s, s' => s' = s
  | call c next, s, s' => s' = s ∨ ∃ r t, step c s r t ∧ (next r).Stops t s'

theorem Runs.stops {p : Prog C R α} {s s' : σ} {value : α} (h : p.Runs step s value s') :
    p.Stops step s s' := by
  induction p generalizing s with
  | ret value' => exact h.2
  | call c next ih =>
    obtain ⟨r, t, hcall, hnext⟩ := h
    exact .inr ⟨r, t, hcall, ih r hnext⟩

/-- Run a procedure alone with one answer for each call, and stop it after some calls. -/
def stopWith (answer : (c : C) → σ → Option (R c × σ)) : ℕ → Prog C R α → σ → Option σ
  | n + 1, call c next, s => (answer c s).bind fun out => stopWith answer n (next out.1) out.2
  | _, _, s => some s

theorem stops_of_stopWith {answer : (c : C) → σ → Option (R c × σ)}
    (hanswer : ∀ c s r s', answer c s = some (r, s') → step c s r s') {p : Prog C R α} {s s' : σ}
    {n : ℕ} (h : p.stopWith answer n s = some s') : p.Stops step s s' := by
  induction p generalizing n s with
  | ret value =>
    cases n with
    | zero | succ => exact (Option.some.inj h).symm
  | call c next ih =>
    cases n with
    | zero => exact .inl (Option.some.inj h).symm
    | succ n =>
      obtain ⟨⟨r, t⟩, hcall, hnext⟩ := Option.bind_eq_some_iff.mp h
      exact .inr ⟨r, t, hanswer c s r t hcall, ih r hnext⟩

variable (step) in
/-- From `s`, the procedure satisfies the crash condition `K` wherever it is stopped, and
returns with `Q`. -/
def Wpc (K : σ → Prop) (Q : α → σ → Prop) : Prog C R α → σ → Prop
  | ret value, s => K s ∧ Q value s
  | call c next, s => K s ∧ ∀ r t, step c s r t → (next r).Wpc K Q t

variable {K : σ → Prop} {Q : α → σ → Prop} {Q' : β → σ → Prop} {s t : σ}

namespace Wpc

variable {p : Prog C R α} {value : α}

theorem bind {f : α → Prog C R β} (hp : p.Wpc step K Q s)
    (hf : ∀ value t, Q value t → (f value).Wpc step K Q' t) : (p.bind f).Wpc step K Q' s := by
  induction p generalizing s with
  | ret value => exact hf value s hp.2
  | call c next ih => exact ⟨hp.1, fun r t hstep => ih r (hp.2 r t hstep)⟩

theorem exceptBind {p : ExceptT ε (Prog C R) α} {f : α → ExceptT ε (Prog C R) β}
    {Q : Except ε α → σ → Prop} {Q' : Except ε β → σ → Prop} (hp : p.run.Wpc step K Q s)
    (hok : ∀ value t, Q (.ok value) t → (f value).run.Wpc step K Q' t)
    (herror : ∀ e t, Q (.error e) t → K t ∧ Q' (.error e) t) :
    (p >>= f).run.Wpc step K Q' s := by
  apply bind hp
  intro r t hr
  cases r with
  | ok value => exact hok value t hr
  | error e => exact herror e t hr

/-- What every call of a procedure preserves is a crash condition of it. -/
theorem of_all {ok : C → Prop} (hstep : ∀ c s r t, ok c → step c s r t → K s → K t)
    (hall : p.All ok) (hK : K s) : p.Wpc step K (fun _ => K) s := by
  induction p generalizing s with
  | ret value => exact ⟨hK, hK⟩
  | call c next ih =>
    exact ⟨hK, fun r t hcall => ih r (hall.2 r) (hstep c s r t hall.1 hcall hK)⟩

theorem mono {K' : σ → Prop} {Q' : α → σ → Prop} (h : p.Wpc step K Q s) (hK : ∀ s, K s → K' s)
    (hQ : ∀ value s, Q value s → Q' value s) : p.Wpc step K' Q' s := by
  induction p generalizing s with
  | ret value => exact ⟨hK s h.1, hQ value s h.2⟩
  | call c next ih => exact ⟨hK s h.1, fun r t hcall => ih r (h.2 r t hcall)⟩

theorem of_perform {c : C} {Q : R c → σ → Prop} (hK : K s)
    (hstep : ∀ r t, step c s r t → K t ∧ Q r t) : (perform c : Prog C R (R c)).Wpc step K Q s :=
  ⟨hK, hstep⟩

/-- Wherever the procedure is stopped, the crash condition holds. -/
theorem of_stops (h : p.Wpc step K Q s) (hstops : p.Stops step s t) : K t := by
  induction p generalizing s with
  | ret value =>
    rw [show t = s from hstops]
    exact h.1
  | call c next ih =>
    rcases hstops with rfl | ⟨r, u, hstep, hnext⟩
    · exact h.1
    · exact ih r (h.2 r u hstep) hnext

theorem of_runs (h : p.Wpc step K Q s) (hruns : p.Runs step s value t) : Q value t := by
  induction p generalizing s with
  | ret value' =>
    obtain ⟨rfl, rfl⟩ := hruns
    exact h.2
  | call c next ih =>
    obtain ⟨r, u, hstep, hnext⟩ := hruns
    exact ih r (h.2 r u hstep) hnext

/-- Attempts that are cut short, and one that is not. -/
theorem retry {u : σ} (h : ∀ s, K s → p.Wpc step K Q s) (hK : K s)
    (hattempts : Relation.ReflTransGen (p.Stops step) s t) (hruns : p.Runs step t value u) :
    Q value u := by
  have hK' : K t := by
    clear hruns
    induction hattempts with
    | refl => exact hK
    | tail _ hstops ih => exact (h _ ih).of_stops hstops
  exact (h t hK').of_runs hruns

end Wpc

end Wardnet.Base.Prog

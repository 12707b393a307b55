/-
# One task among any others

Often one task of a pool matters and the others only as far as they may change the
state under its feet. `Watch.Wp` is the weakest precondition of the one procedure when
the state may move by a given preorder before each of its calls and after its last.
`Watch.Wp.run` carries it along a run of the whole pool.
-/

import Wardnet.Base.Pool

namespace Wardnet.Base

open World

/-- What the other tasks may do to the state, and what is assumed of each call of the
task itself. -/
structure Watch (W : World) where
  Rel : W.State → W.State → Prop
  refl : ∀ s, Rel s s
  trans : ∀ {s t u}, Rel s t → Rel t u → Rel s u
  Permits : W.State → W.Call → W.Choice → Prop

namespace Watch

variable {W : World} {A : Watch W} {α β : Type}

/-- However the others move, the procedure returns with a value and in a state that
satisfy `Q`. -/
def Wp (A : Watch W) (Q : α → W.State → Prop) : Prog W.Call W.Resp α → W.State → Prop
  | .ret value, s => ∀ t, A.Rel s t → Q value t
  | .call c next, s => ∀ t choice r t', A.Rel s t → A.Permits t c choice →
      W.exec choice c t = some (r, t') → Wp A Q (next r) t'

variable {Q : α → W.State → Prop} {p : Prog W.Call W.Resp α} {s : W.State}

theorem Wp.stable {t : W.State} (h : A.Wp Q p s) (hrel : A.Rel s t) : A.Wp Q p t := by
  cases p with
  | ret value => exact fun u hu => h u (A.trans hrel hu)
  | call c next => exact fun u choice r u' hu => h u choice r u' (A.trans hrel hu)

theorem Wp.bind {Q : β → W.State → Prop} {f : α → Prog W.Call W.Resp β}
    (h : A.Wp (fun value t => A.Wp Q (f value) t) p s) : A.Wp Q (p.bind f) s := by
  induction p generalizing s with
  | ret value => exact h s (A.refl s)
  | call c next ih =>
    exact fun t choice r t' hrel hperm hexec => ih r (h t choice r t' hrel hperm hexec)

theorem Wp.mono {Q' : α → W.State → Prop} (hQ : ∀ value t, Q value t → Q' value t)
    (h : A.Wp Q p s) : A.Wp Q' p s := by
  induction p generalizing s with
  | ret value => exact fun t hrel => hQ value t (h t hrel)
  | call c next ih =>
    exact fun t choice r t' hrel hperm hexec => ih r (h t choice r t' hrel hperm hexec)

theorem Wp.of_stable {P : W.State → Prop} (hrel : ∀ s t, A.Rel s t → P s → P t)
    (hown : ∀ s c choice r s', A.Permits s c choice → W.exec choice c s = some (r, s') → A.Rel s s')
    (p : Prog W.Call W.Resp α) (hs : P s) : A.Wp (fun _ => P) p s := by
  induction p generalizing s with
  | ret value => exact fun t hst => hrel s t hst hs
  | call c next ih =>
    intro t choice r t' hst hperm hexec
    exact ih r (hrel t t' (hown t c choice r t' hperm hexec) (hrel s t hst hs))

/-- Along a run in which the other tasks keep to the relation and the calls of task `i`
are permitted, the task keeps its weakest precondition. -/
theorem Wp.run {guard : W.Config → W.Action → Prop} {i : ℕ}
    (hother : ∀ cfg j choice th c next r s', guard cfg (.step j choice) → j ≠ i →
      cfg.threads[j]? = some th → th.prog = .call c next →
      W.exec choice c cfg.state = some (r, s') → A.Rel cfg.state s')
    (henv : ∀ cfg e s', guard cfg (.env e) → W.env e cfg.state = some s' → A.Rel cfg.state s')
    (hown : ∀ cfg choice th c next, guard cfg (.step i choice) → cfg.threads[i]? = some th →
      th.prog = .call c next → A.Permits cfg.state c choice)
    {Q : W.Result → W.State → Prop} {cfg cfg' : W.Config} {acts : List W.Action}
    (hinit : ∃ th, cfg.threads[i]? = some th ∧ A.Wp Q th.prog cfg.state)
    (halong : W.system.Along guard cfg acts) (hrun : W.system.run cfg acts = some cfg') :
    ∃ th, cfg'.threads[i]? = some th ∧ A.Wp Q th.prog cfg'.state := by
  suffices hstep : ∀ cfg a cfg', guard cfg a →
      (∃ th, cfg.threads[i]? = some th ∧ A.Wp Q th.prog cfg.state) →
      W.system.step cfg a = some cfg' →
      ∃ th, cfg'.threads[i]? = some th ∧ A.Wp Q th.prog cfg'.state from
    W.system.run_invariant_along hstep hinit halong hrun
  rintro cfg a cfg' hguard ⟨th, hth, hwp⟩ hstep
  have hi : i < cfg.threads.length := (List.getElem?_eq_some_iff.mp hth).1
  cases a with
  | spawn task =>
    cases hstep
    exact ⟨th, by rwa [List.getElem?_append_left hi], hwp⟩
  | env e =>
    obtain ⟨s', hs', rfl⟩ := Option.map_eq_some_iff.mp hstep
    exact ⟨th, hth, hwp.stable (henv cfg e s' hguard hs')⟩
  | step j choice =>
    obtain ⟨thj, th', s', hthj, hadv, rfl⟩ := Config.step_step_eq_some.mp hstep
    obtain ⟨c, next, r, hprog, hexec, rfl⟩ := Thread.advance_eq_some.mp hadv
    by_cases hj : j = i
    · subst hj
      obtain rfl := Option.some.inj (hth.symm.trans hthj)
      refine ⟨_, List.getElem?_set_self hi, ?_⟩
      rw [hprog] at hwp
      exact hwp cfg.state choice r s' (A.refl _) (hown cfg choice th c next hguard hth hprog) hexec
    · refine ⟨th, by rwa [List.getElem?_set_ne hj], hwp.stable ?_⟩
      exact hother cfg j choice thj c next r s' hguard hj hthj hprog hexec

theorem Wp.of_done {value : α} (h : A.Wp Q p s) (hret : p = .ret value) : Q value s := by
  subst hret
  exact h s (A.refl s)

end Watch

end Wardnet.Base

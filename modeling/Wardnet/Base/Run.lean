/-
# Runs of a labelled step function

A system is a partial deterministic step function on labels: `none` means that
the label is not enabled.  Every source of nondeterminism (which task moves,
which fresh identifier a service returns) is part of the label, so a run is a
list of labels and can be executed.

`Along` says that every step of a run meets a condition in the state in which
the step is taken. Conditional safety results are stated with it: an invariant
that one step preserves under the condition holds at the end of every run that
meets the condition throughout.
-/

import Mathlib.Logic.Relation

namespace Wardnet.Base

open Option

universe u v

/-- A labelled transition system with a partial, deterministic step. -/
structure System (σ : Type u) (ℓ : Type v) where
  /-- The state after a label, or `none` where the label is not enabled. -/
  step : σ → ℓ → Option σ

namespace System

variable {σ : Type u} {ℓ : Type v} (S : System σ ℓ)

def run (s : σ) : List ℓ → Option σ
  | [] => some s
  | l :: ls => (S.step s l).bind fun s' => run s' ls

/-- Every step of the run meets `guard` in the state in which it is taken. -/
def Along (guard : σ → ℓ → Prop) (s : σ) : List ℓ → Prop
  | [] => True
  | l :: ls => guard s l ∧
      match S.step s l with
      | some s' => Along guard s' ls
      | none => True

instance decidableAlong (guard : σ → ℓ → Prop) [∀ s l, Decidable (guard s l)] :
    ∀ (s : σ) (ls : List ℓ), Decidable (S.Along guard s ls)
  | _, [] => isTrue trivial
  | s, l :: ls =>
    match h : S.step s l with
    | some s' =>
      have := decidableAlong guard s' ls
      decidable_of_iff (guard s l ∧ S.Along guard s' ls) (by simp [Along, h])
    | none => decidable_of_iff (guard s l) (by simp [Along, h])

def Reachable (s t : σ) : Prop := ∃ ls, S.run s ls = some t

@[simp]
theorem run_nil (s : σ) : S.run s [] = some s := rfl

@[simp]
theorem run_cons (s : σ) (l : ℓ) (ls : List ℓ) :
    S.run s (l :: ls) = (S.step s l).bind fun s' => S.run s' ls := rfl

/-- The state a run ends in, or the first state where the run is not possible. -/
def runD (s : σ) (ls : List ℓ) : σ := (S.run s ls).getD s

variable {s t : σ} {ls first second : List ℓ} {l : ℓ} {guard : σ → ℓ → Prop}

/-- Whether a run is possible can be computed, and so can its last state. -/
theorem run_eq_some_runD (h : (S.run s ls).isSome) : S.run s ls = some (S.runD s ls) := by
  obtain ⟨t, ht⟩ := isSome_iff_exists.mp h
  rw [runD, ht, getD_some]

theorem run_append (s : σ) (first second : List ℓ) :
    S.run s (first ++ second) = (S.run s first).bind fun t => S.run t second := by
  induction first generalizing s with
  | nil => rfl
  | cons l ls ih =>
    cases hstep : S.step s l with
    | none => simp [hstep]
    | some s' => simp [hstep, ih]

/-- A computed run is a computed run of its first part, and a run of the rest. -/
theorem run_runD_append (h : (S.run s (first ++ second)).isSome) :
    S.run s first = some (S.runD s first) ∧
      S.run (S.runD s first) second = some (S.runD s (first ++ second)) := by
  have hall := S.run_eq_some_runD h
  rw [run_append] at hall
  obtain ⟨t, hfirst, hsecond⟩ := bind_eq_some_iff.mp hall
  have ht : S.runD s first = t := by rw [runD, hfirst, getD_some]
  exact ⟨hfirst.trans (congrArg some ht.symm), ht ▸ hsecond⟩

/-- The last step of a computed run. -/
theorem step_runD_concat (h : (S.run s (ls ++ [l])).isSome) :
    S.step (S.runD s ls) l = some (S.runD s (ls ++ [l])) := by
  have hlast := (S.run_runD_append h).2
  simpa using hlast

theorem run_concat_eq_some :
    S.run s (ls ++ [l]) = some t ↔ ∃ u, S.run s ls = some u ∧ S.step u l = some t := by
  simp [run_append, bind_eq_some_iff]

theorem Reachable.refl (s : σ) : S.Reachable s s := ⟨[], rfl⟩

theorem Reachable.trans {u : σ} (h : S.Reachable s t) (h' : S.Reachable t u) : S.Reachable s u := by
  obtain ⟨first, hfirst⟩ := h
  obtain ⟨second, hsecond⟩ := h'
  exact ⟨first ++ second, by rw [run_append, hfirst]; exact hsecond⟩

theorem Reachable.single (h : S.step s l = some t) : S.Reachable s t :=
  ⟨[l], by simp [h]⟩

theorem run_cons_eq_some : S.run s (l :: ls) = some t ↔
      ∃ s', S.step s l = some s' ∧ S.run s' ls = some t := by
  simp [bind_eq_some_iff]

variable {s' : σ} {guard' : σ → ℓ → Prop} {P Inv : σ → Prop}

theorem along_cons_of_step (hstep : S.step s l = some s') (halong : S.Along guard s (l :: ls)) :
    guard s l ∧ S.Along guard s' ls := by
  simpa [Along, hstep] using halong

theorem Along.mono (h : S.Along guard s ls) (hguard : ∀ s l, guard s l → guard' s l) :
    S.Along guard' s ls := by
  induction ls generalizing s with
  | nil => trivial
  | cons l ls ih =>
    refine ⟨hguard s l h.1, ?_⟩
    have hrest := h.2
    cases hstep : S.step s l with
    | none => trivial
    | some s' =>
      rw [hstep] at hrest
      exact ih hrest

theorem Along.and (h : S.Along guard s ls) (h' : S.Along guard' s ls) :
    S.Along (fun s l => guard s l ∧ guard' s l) s ls := by
  induction ls generalizing s with
  | nil => trivial
  | cons l ls ih =>
    refine ⟨⟨h.1, h'.1⟩, ?_⟩
    cases hstep : S.step s l with
    | none => trivial
    | some s' =>
      exact ih (S.along_cons_of_step hstep h).2 (S.along_cons_of_step hstep h').2

/-- A condition on the labels alone is met throughout. -/
theorem along_of_forall_mem (h : ∀ l ∈ ls, ∀ s, guard s l) : S.Along guard s ls := by
  induction ls generalizing s with
  | nil => trivial
  | cons l ls ih =>
    refine ⟨h l List.mem_cons_self s, ?_⟩
    cases hstep : S.step s l with
    | none => trivial
    | some s' => exact ih fun l' hl' => h l' (List.mem_cons_of_mem l hl')

/-- What no step can bring about held before every step of a run that ends with it. -/
theorem along_of_backward (hback : ∀ s l s', S.step s l = some s' → P s' → P s)
    (hrun : S.run s ls = some t) (ht : P t) :
    P s ∧ S.Along (fun s l => P s ∧ ∀ s', S.step s l = some s' → P s') s ls := by
  induction ls generalizing s with
  | nil =>
    cases hrun
    exact ⟨ht, trivial⟩
  | cons l ls ih =>
    obtain ⟨mid, hstep, hrest⟩ := S.run_cons_eq_some.mp hrun
    obtain ⟨hmid, halong⟩ := ih hrest
    refine ⟨hback s l mid hstep hmid, ⟨hback s l mid hstep hmid, fun s' hs' => ?_⟩, ?_⟩
    · cases hstep.symm.trans hs'
      exact hmid
    · rw [hstep]
      exact halong

/-- A condition is met throughout if it is met after every part of the run. -/
theorem along_of_forall_split
    (h : ∀ before l after t, ls = before ++ l :: after → S.run s before = some t → guard t l) :
    S.Along guard s ls := by
  induction ls generalizing s with
  | nil => trivial
  | cons l ls ih =>
    refine ⟨h [] l ls s rfl rfl, ?_⟩
    cases hstep : S.step s l with
    | none => trivial
    | some s' =>
      refine ih fun before l' after t hsplit hrun => ?_
      exact h (l :: before) l' after t (by rw [hsplit, List.cons_append])
        (S.run_cons_eq_some.mpr ⟨s', hstep, hrun⟩)

theorem along_append_left (halong : S.Along guard s (first ++ second)) : S.Along guard s first := by
  induction first generalizing s with
  | nil => trivial
  | cons l ls ih =>
    refine ⟨halong.1, ?_⟩
    cases hstep : S.step s l with
    | none => trivial
    | some s' =>
      have hrest := (S.along_cons_of_step hstep halong).2
      exact ih hrest

theorem along_append_right (halong : S.Along guard s (first ++ second))
    (hrun : S.run s first = some t) :
    S.Along guard t second := by
  induction first generalizing s with
  | nil =>
    cases hrun
    exact halong
  | cons l ls ih =>
    obtain ⟨s', hstep, hrest⟩ := S.run_cons_eq_some.mp hrun
    exact ih (S.along_cons_of_step hstep halong).2 hrest

theorem along_concat (halong : S.Along guard s ls) (hrun : S.run s ls = some t)
    (hguard : guard t l) :
    S.Along guard s (ls ++ [l]) := by
  induction ls generalizing s with
  | nil =>
    cases hrun
    refine ⟨hguard, ?_⟩
    split
    · trivial
    · trivial
  | cons l' ls ih =>
    obtain ⟨s', hstep, hrest⟩ := S.run_cons_eq_some.mp hrun
    obtain ⟨hguard', halong'⟩ := S.along_cons_of_step hstep halong
    refine ⟨hguard', ?_⟩
    rw [hstep]
    exact ih halong' hrest

/-- The invariant rule for runs that meet a condition throughout. -/
theorem run_invariant_along
    (hpreserved : ∀ s l s', guard s l → Inv s → S.step s l = some s' → Inv s') (hinit : Inv s)
    (halong : S.Along guard s ls) (hrun : S.run s ls = some t) : Inv t := by
  induction ls generalizing s with
  | nil =>
    cases hrun
    exact hinit
  | cons l ls ih =>
    obtain ⟨s', hstep, hrest⟩ := S.run_cons_eq_some.mp hrun
    obtain ⟨hguard, halong'⟩ := S.along_cons_of_step hstep halong
    exact ih (hpreserved s l s' hguard hinit hstep) halong' hrest

/-- A relation between the states of two systems that every pair of steps with one
label keeps is kept by two runs of one schedule. -/
theorem run_lockstep_along {τ : Type*} (T : System τ ℓ) (Rel : σ → τ → Prop)
    (hpreserved : ∀ s t l s' t', guard s l → Rel s t → S.step s l = some s' →
      T.step t l = some t' → Rel s' t') {t t' : τ} (hinit : Rel s t) (halong : S.Along guard s ls)
    (hrun : S.run s ls = some s') (hrun' : T.run t ls = some t') :
    Rel s' t' := by
  induction ls generalizing s t with
  | nil =>
    cases hrun
    cases hrun'
    exact hinit
  | cons l ls ih =>
    obtain ⟨u, hstep, hrest⟩ := S.run_cons_eq_some.mp hrun
    obtain ⟨v, hstep', hrest'⟩ := T.run_cons_eq_some.mp hrun'
    obtain ⟨hguard, halong'⟩ := S.along_cons_of_step hstep halong
    exact ih (hpreserved s t l u v hguard hinit hstep hstep') halong' hrest hrest'

/-- What a run brings about, one of its steps brings about. -/
theorem exists_step_of_run (hrun : S.run s ls = some t) (hbefore : ¬ P s) (hafter : P t) :
    ∃ before l after u v, ls = before ++ l :: after ∧ S.run s before = some u ∧
      S.step u l = some v ∧ ¬ P u ∧ P v := by
  induction ls generalizing s with
  | nil =>
    cases hrun
    exact absurd hafter hbefore
  | cons l ls ih =>
    obtain ⟨s', hstep, hrest⟩ := S.run_cons_eq_some.mp hrun
    by_cases hP : P s'
    · exact ⟨[], l, ls, s, s', rfl, rfl, hstep, hbefore, hP⟩
    · obtain ⟨before, l', after, u, v, rfl, hu, hv, hPu, hPv⟩ := ih hrest hP
      exact ⟨l :: before, l', after, u, v, rfl, by simp [hstep, hu], hv, hPu, hPv⟩

theorem run_invariant (hpreserved : ∀ s l s', Inv s → S.step s l = some s' → Inv s') (hinit : Inv s)
    (hrun : S.run s ls = some t) : Inv t := by
  induction ls generalizing s with
  | nil =>
    cases hrun
    exact hinit
  | cons l ls ih =>
    obtain ⟨s', hstep, hrest⟩ := S.run_cons_eq_some.mp hrun
    exact ih (hpreserved s l s' hinit hstep) hrest

end System

end Wardnet.Base

/-
# The states of a run

The states that a run passes through, in order, and what can be said of a quantity that goes
through given stages and never back: without repetitions, its values along the run are some
of the stages in their order. Where something can be seen of a step, a run has a list of what was
seen, and invariants may speak of this list and the state together.
-/

import Mathlib.Data.List.Destutter
import Mathlib.Data.List.Induction
import Wardnet.Base.Run

namespace Wardnet.Base

open List

namespace System

variable {σ ℓ : Type} (S : System σ ℓ)

def visits (s : σ) : List ℓ → List σ
  | [] => [s]
  | l :: ls => s :: match S.step s l with
    | some s' => visits s' ls
    | none => []

/-- What every step does under an invariant holds between any two states in a row. -/
theorem isChain_visits {Inv : σ → Prop} {R : σ → σ → Prop}
    (hpreserved : ∀ s l s', Inv s → S.step s l = some s' → R s s' ∧ Inv s') {s : σ} (hs : Inv s)
    (ls : List ℓ) : (S.visits s ls).IsChain R := by
  induction ls generalizing s with
  | nil => exact .singleton s
  | cons l ls ih =>
    unfold visits
    cases hstep : S.step s l with
    | none => exact .singleton s
    | some s' =>
      obtain ⟨hR, hs'⟩ := hpreserved s l s' hs hstep
      have htail := ih hs'
      cases ls with
      | nil | cons => exact .cons_cons hR htail

variable {ε : Type} {see : σ → ℓ → Option ε}

def observed (see : σ → ℓ → Option ε) (s : σ) : List ℓ → List ε
  | [] => []
  | l :: ls => (see s l).toList ++ match S.step s l with
    | some s' => observed see s' ls
    | none => []

theorem observed_append {s t : σ} {first : List ℓ} (hrun : S.run s first = some t)
    (second : List ℓ) :
    S.observed see s (first ++ second) = S.observed see s first ++ S.observed see t second := by
  induction first generalizing s with
  | nil =>
    cases hrun
    rfl
  | cons l ls ih =>
    obtain ⟨s', hstep, hrest⟩ := S.run_cons_eq_some.mp hrun
    simp only [cons_append, observed, hstep, ih hrest, append_assoc]

/-- What every step keeps of the state and of what was seen holds throughout a run. -/
theorem observed_invariant {I : List ε → σ → Prop}
    (hpreserved : ∀ events s l s', I events s → S.step s l = some s' →
      I (events ++ (see s l).toList) s')
    {s t : σ} {ls : List ℓ} (hinit : I [] s) (hrun : S.run s ls = some t) :
    I (S.observed see s ls) t := by
  induction ls using reverseRecOn generalizing t with
  | nil =>
    cases hrun
    exact hinit
  | append_singleton ls l ih =>
    obtain ⟨mid, hmid, hstep⟩ := S.run_concat_eq_some.mp hrun
    have hlast : S.observed see mid [l] = (see mid l).toList := by simp [observed, hstep]
    rw [S.observed_append hmid, hlast]
    exact hpreserved _ mid l t (ih hmid) hstep

end System

section

variable {σ α : Type} [DecidableEq α] {stages : List α} {rank : σ → ℕ} {f : σ → α}

/-- From the stage of the first element on. -/
theorem destutter'_sublist_drop {x : σ} {xs : List σ} (hmono : (x :: xs).IsChain (rank · ≤ rank ·))
    (hstage : ∀ y ∈ x :: xs, stages[rank y]? = some (f y)) :
    ((xs.map f).destutter' (· ≠ ·) (f x)).Sublist (stages.drop (rank x)) := by
  induction xs generalizing x with
  | nil =>
    obtain ⟨hlt, heq⟩ := List.getElem?_eq_some_iff.mp (hstage x List.mem_cons_self)
    rw [List.drop_eq_getElem_cons hlt, heq]
    exact (List.nil_sublist _).cons_cons _
  | cons y xs ih =>
    obtain ⟨hle, hchain⟩ := isChain_cons_cons.mp hmono
    have htail := ih hchain fun z hz => hstage z (mem_cons_of_mem x hz)
    rw [map_cons]
    by_cases heq : f x = f y
    · rw [destutter'_cons_neg _ (not_not_intro heq), heq]
      exact htail.trans (List.drop_sublist_drop_left stages hle)
    · rw [destutter'_cons_pos _ heq]
      -- Two values that differ are at two stages.
      have hlt : rank x < rank y := by
        apply Nat.lt_of_le_of_ne hle
        intro hrank
        have hx := hstage x List.mem_cons_self
        rw [hrank, hstage y (mem_cons_of_mem x List.mem_cons_self)] at hx
        exact heq (Option.some.inj hx).symm
      obtain ⟨hbound, hget⟩ := List.getElem?_eq_some_iff.mp (hstage x List.mem_cons_self)
      rw [List.drop_eq_getElem_cons hbound, hget]
      exact (htail.trans (List.drop_sublist_drop_left stages hlt)).cons_cons _

/-- The values along a list whose rank never falls are some of the stages, in their order. -/
theorem destutter_map_sublist {xs : List σ} (hmono : xs.IsChain (rank · ≤ rank ·))
    (hstage : ∀ x ∈ xs, stages[rank x]? = some (f x)) :
    ((xs.map f).destutter (· ≠ ·)).Sublist stages := by
  cases xs with
  | nil => exact List.nil_sublist _
  | cons x xs => exact (destutter'_sublist_drop hmono hstage).trans (drop_sublist _ _)

end

end Wardnet.Base

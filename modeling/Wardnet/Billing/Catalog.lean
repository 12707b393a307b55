/-
# What is kept of the catalog

The prices that Stripe lists become plans only if their metadata has a level and an entitlement.
A level that two such plans share drops both.
-/

import Mathlib.Data.List.Induction
import Wardnet.Base.Store
import Wardnet.Billing.Plans

namespace Wardnet.Billing

open Base List

structure PlanData where
  priceId : String
  productId : String
  name : String
  level : Option ℕ
  entitlement : Option Entitlement
  amountCents : Int
  currency : String
  interval : String
  deriving DecidableEq

/-- The plan, if it has a level and an entitlement. -/
def PlanData.plan? (p : PlanData) : Option CatalogPlan := do
  let level ← p.level
  let entitlement ← p.entitlement
  pure
    { priceId := p.priceId, productId := p.productId, name := p.name, level, entitlement
      amountCents := p.amountCents, currency := p.currency, interval := p.interval }

def byLevel (plans : List CatalogPlan) : Store ℕ ℕ :=
  plans.foldl (fun counts p => counts.insert p.level ((counts.get? p.level).getD 0 + 1)) ∅

def validatePlans (raw : List PlanData) : List CatalogPlan :=
  let wellFormed := raw.filterMap (·.plan?)
  wellFormed.filter fun p => ((byLevel wellFormed).get? p.level).getD 0 = 1

def CatalogPlan.listed (p : CatalogPlan) : PlanData where
  priceId := p.priceId
  productId := p.productId
  name := p.name
  level := some p.level
  entitlement := some p.entitlement
  amountCents := p.amountCents
  currency := p.currency
  interval := p.interval

theorem PlanData.plan?_eq_some_iff {p : PlanData} {plan : CatalogPlan} :
    p.plan? = some plan ↔ p = plan.listed := by
  obtain ⟨priceId, productId, name, level, entitlement, amountCents, currency, interval⟩ := p
  obtain ⟨priceId', productId', name', level', entitlement', amountCents', currency', interval'⟩ :=
    plan
  cases level with
  | none => simp [plan?, CatalogPlan.listed]
  | some level =>
    cases entitlement with
    | none | some => simp [plan?, CatalogPlan.listed]

theorem PlanData.plan?_eq_none_iff {p : PlanData} :
    p.plan? = none ↔ p.level = none ∨ p.entitlement = none := by
  unfold plan?
  cases p.level with
  | none => simp
  | some level =>
    cases p.entitlement with
    | none | some => simp

theorem get?_byLevel (plans : List CatalogPlan) (level : ℕ) :
    ((byLevel plans).get? level).getD 0 = plans.countP (·.level = level) := by
  induction plans using reverseRecOn with
  | nil => rfl
  | append_singleton plans p ih =>
    have hlast : byLevel (plans ++ [p]) =
        (byLevel plans).insert p.level (((byLevel plans).get? p.level).getD 0 + 1) := by
      rw [byLevel, foldl_append]
      rfl
    rw [hlast, countP_append, ← ih, Store.get?_insert]
    by_cases h : level = p.level
    · simp [h]
    · simp [h, Ne.symm h]

theorem level_plan? (p : PlanData) (level : ℕ) :
    (p.plan?.map fun plan => decide (plan.level = level)).getD false =
      decide (p.level = some level ∧ p.entitlement.isSome) := by
  unfold PlanData.plan?
  cases p.level with
  | none => simp
  | some n =>
    cases p.entitlement with
    | none | some => simp

theorem countP_level (raw : List PlanData) (level : ℕ) :
    (raw.filterMap (·.plan?)).countP (·.level = level) =
      raw.countP fun p => p.level = some level ∧ p.entitlement.isSome := by
  rw [countP_filterMap]
  exact countP_congr fun p _ => by rw [level_plan?]

theorem validatePlans_eq (raw : List PlanData) : validatePlans raw =
    (raw.filterMap (·.plan?)).filter fun plan =>
      (raw.filterMap (·.plan?)).countP (·.level = plan.level) = 1 := by
  simp only [validatePlans, get?_byLevel]

theorem map_listed_filter (keep : CatalogPlan → Bool) (raw : List PlanData) :
    ((raw.filterMap (·.plan?)).filter keep).map (·.listed) =
      raw.filter fun p => p.plan?.any keep := by
  induction raw with
  | nil => rfl
  | cons p raw ih =>
    cases hplan : p.plan? with
    | none => simp [hplan, ih]
    | some plan =>
      have hlisted := PlanData.plan?_eq_some_iff.mp hplan
      by_cases hkeep : keep plan = true
      · simp [hplan, hkeep, ih, ← hlisted]
      · simp [hplan, hkeep, ih]

theorem nodup_levels (raw : List PlanData) : ((validatePlans raw).map (·.level)).Nodup := by
  rw [nodup_iff_count_le_one]
  intro level
  rw [validatePlans_eq, count, countP_map, countP_filter]
  by_cases hone : (raw.filterMap (·.plan?)).countP (·.level = level) = 1
  · refine Nat.le_trans (countP_mono_left fun plan _ h => ?_) (Nat.le_of_eq hone)
    simp only [Function.comp, Bool.and_eq_true, beq_iff_eq] at h
    simp [h.1]
  · rw [countP_eq_zero.mpr]
    · exact Nat.zero_le 1
    · rintro plan - h
      simp only [Function.comp, Bool.and_eq_true, beq_iff_eq, decide_eq_true_eq] at h
      exact hone (h.1 ▸ h.2)

/-- The kept plans are those with a level and an entitlement whose level is that of no other such
plan; they have different levels; a plan without them changes nothing; and the order does not
matter. -/
theorem validation_exact : (∀ raw, (validatePlans raw).map (·.listed) = raw.filter fun p =>
      p.level.isSome ∧ p.entitlement.isSome ∧
        raw.countP (fun q => q.level = p.level ∧ q.entitlement.isSome) = 1) ∧
    (∀ raw, ((validatePlans raw).map (·.level)).Nodup) ∧
    (∀ before p after, p.level = none ∨ p.entitlement = none →
      validatePlans (before ++ p :: after) = validatePlans (before ++ after)) ∧
    ∀ raw raw' : List PlanData, raw.Perm raw' → (validatePlans raw).Perm (validatePlans raw') := by
  refine ⟨fun raw => ?_, nodup_levels, fun before p after hbad => ?_, fun raw raw' hperm => ?_⟩
  · rw [validatePlans_eq, map_listed_filter]
    refine filter_congr fun p _ => ?_
    cases hplan : p.plan? with
    | none =>
      rcases PlanData.plan?_eq_none_iff.mp hplan with h | h
      · simp [h]
      · simp [h]
    | some plan =>
      rw [PlanData.plan?_eq_some_iff.mp hplan, Option.any_some, countP_level]
      exact decide_eq_decide.mpr ⟨fun h => ⟨rfl, rfl, h⟩, fun h => h.2.2⟩
  · rw [validatePlans, validatePlans, filterMap_append, filterMap_append,
      filterMap_cons_none (PlanData.plan?_eq_none_iff.mpr hbad)]
  · rw [validatePlans_eq, validatePlans_eq]
    have hwellFormed := hperm.filterMap (·.plan?)
    simp only [hwellFormed.countP_eq]
    exact hwellFormed.filter _

end Wardnet.Billing

/-
# The promotion that is applied

Checkouts and upgrades apply the live promotion with the lowest resulting price. An amount off in
another currency is live and lowers nothing, so it is applied where no other promotion is live.
-/

import Wardnet.Billing.Plans

namespace Wardnet.Billing

structure PromoView where
  amountCentsAfter : Int
  label : String
  endsAt : Int
  deriving DecidableEq

structure PlanView where
  priceId : String
  name : String
  level : ℕ
  entitlement : Entitlement
  amountCents : Int
  currency : String
  interval : String
  promo : Option PromoView
  deriving DecidableEq

def planView (plan : CatalogPlan) (promos : List CatalogPromo) (now : Int) : PlanView where
  priceId := plan.priceId
  name := plan.name
  level := plan.level
  entitlement := plan.entitlement
  amountCents := plan.amountCents
  currency := plan.currency
  interval := plan.interval
  promo := (bestLivePromo plan promos now).map fun c =>
    ⟨discountedAmount plan.amountCents plan.currency c, c.name, c.redeemBy.getD now⟩

/-- The time is inside the window of the promotion, and it targets the product of the plan. -/
structure CatalogPromo.Live (c : CatalogPromo) (plan : CatalogPlan) (now : Int) : Prop where
  started : ∀ start, c.start = some start → start ≤ now
  notEnded : ∃ redeemBy, c.redeemBy = some redeemBy ∧ now ≤ redeemBy
  targets : c.appliesToProducts = [] ∨ plan.productId ∈ c.appliesToProducts

/-- The discount is positive, and large enough to change the price by a cent. -/
def CatalogPromo.Positive (c : CatalogPromo) (plan : CatalogPlan) : Prop :=
  match c.percentOff with
  | some percent => 0 < percent ∧ 1 ≤ roundAwayFromZero (plan.amountCents * percent / 100)
  | none => ∃ off, c.amountOff = some off ∧ 0 < off

def CatalogPromo.InCurrency (c : CatalogPromo) (plan : CatalogPlan) : Prop :=
  c.percentOff = none → c.currency = some plan.currency

abbrev CatalogPromo.price (c : CatalogPromo) (plan : CatalogPlan) : Int :=
  discountedAmount plan.amountCents plan.currency c

/-- The coupon for a plan applies and is the best, and its price is shown. -/
structure CouponApplies (snapshot : CatalogSnapshot) (plan : CatalogPlan) (now : Int) : Prop where
  applied : ∀ couponId, liveCouponForPrice snapshot plan.priceId now = some couponId →
    ∃ c ∈ snapshot.promos, c.couponId = couponId ∧ c.Live plan now ∧ c.InCurrency plan ∧
      c.price plan < plan.amountCents ∧
      (∀ other ∈ snapshot.promos, other.Live plan now → c.price plan ≤ other.price plan) ∧
      (planView plan snapshot.promos now).promo.map (·.amountCentsAfter) = some (c.price plan)
  unapplied : liveCouponForPrice snapshot plan.priceId now = none →
    (∀ other ∈ snapshot.promos, other.Live plan now → plan.amountCents ≤ other.price plan) ∧
      (planView plan snapshot.promos now).promo = none

section

variable {c : CatalogPromo} {plan : CatalogPlan} {promos : List CatalogPromo} {now : Int}

theorem promoIsLive_iff : promoIsLive c plan now = true ↔ c.Live plan now := by
  simp only [promoIsLive, Bool.and_eq_true, Bool.or_eq_true, Option.all_eq_true, decide_eq_true_eq,
    Option.any_eq_true, List.isEmpty_iff, List.any_eq_true, exists_eq_right]
  exact ⟨fun ⟨⟨hstarted, hended⟩, htargets⟩ => ⟨hstarted, hended, htargets⟩,
    fun ⟨hstarted, hended, htargets⟩ => ⟨⟨hstarted, hended⟩, htargets⟩⟩

/-- Positive discounts lower the price, unless they are in another currency. -/
theorem price_lt_iff (hprice : 0 < plan.amountCents) (hpositive : c.Positive plan) :
    c.price plan < plan.amountCents ↔ c.InCurrency plan := by
  unfold CatalogPromo.Positive at hpositive
  unfold CatalogPromo.price discountedAmount CatalogPromo.InCurrency
  cases hpercent : c.percentOff with
  | some percent =>
    rw [hpercent] at hpositive
    obtain ⟨-, hround⟩ := hpositive
    refine iff_of_true ?_ nofun
    exact Int.max_lt.mpr ⟨by omega, hprice⟩
  | none =>
    rw [hpercent] at hpositive
    obtain ⟨off, hoff, hpos⟩ := hpositive
    rw [hoff]
    dsimp only
    split
    · rename_i hcurrency
      exact iff_of_true (Int.max_lt.mpr ⟨by omega, hprice⟩) fun _ => hcurrency
    · rename_i hcurrency
      exact iff_of_false (Int.lt_irrefl _) fun h => hcurrency (h rfl)

theorem bestLivePromo_eq_some (h : bestLivePromo plan promos now = some c) :
    c ∈ promos ∧ c.Live plan now ∧
      ∀ other ∈ promos, other.Live plan now → c.price plan ≤ other.price plan := by
  obtain ⟨hmem, hlive⟩ := List.mem_filter.mp (List.minOn?_mem h)
  refine ⟨hmem, promoIsLive_iff.mp hlive, fun other hother hothers => ?_⟩
  have hfilter : other ∈ promos.filter (promoIsLive · plan now) :=
    List.mem_filter.mpr ⟨hother, promoIsLive_iff.mpr hothers⟩
  rw [← List.minOn_eq_of_minOn?_eq_some h]
  exact List.apply_minOn_le_of_mem hfilter

theorem bestLivePromo_eq_none (h : bestLivePromo plan promos now = none) :
    ∀ c ∈ promos, ¬ c.Live plan now := by
  intro c hmem hlive
  have hfilter : c ∈ promos.filter (promoIsLive · plan now) :=
    List.mem_filter.mpr ⟨hmem, promoIsLive_iff.mpr hlive⟩
  have hsome : (bestLivePromo plan promos now).isSome = true := List.isSome_minOn?_of_mem hfilter
  rw [h] at hsome
  cases hsome

end

/-- With positive discounts and a positive price, the coupon for a plan applies and is the best
just when some promotion that is live for the plan, if there is one, is a percentage or in the
currency of the plan. -/
theorem coupon_applies_iff (snapshot : CatalogSnapshot) (plan : CatalogPlan) (now : Int)
    (hplan : snapshot.plan? plan.priceId = some plan) (hprice : 0 < plan.amountCents)
    (hpositive : ∀ c ∈ snapshot.promos, c.Positive plan) :
    CouponApplies snapshot plan now ↔ ((∃ c ∈ snapshot.promos, c.Live plan now) →
      ∃ c ∈ snapshot.promos, c.Live plan now ∧ c.InCurrency plan) := by
  have hcoupon : liveCouponForPrice snapshot plan.priceId now =
      (bestLivePromo plan snapshot.promos now).map (·.couponId) := by
    rw [liveCouponForPrice, hplan]
    rfl
  cases hbest : bestLivePromo plan snapshot.promos now with
  | none =>
    have hnone := bestLivePromo_eq_none hbest
    refine iff_of_true ⟨?_, fun _ => ⟨?_, ?_⟩⟩ ?_
    · intro couponId hsome
      rw [hcoupon, hbest] at hsome
      cases hsome
    · exact fun c hc hlive => absurd hlive (hnone c hc)
    · rw [planView, hbest]
      rfl
    · exact fun ⟨c, hc, hlive⟩ => absurd hlive (hnone c hc)
  | some best =>
    obtain ⟨hmem, hlive, hlowest⟩ := bestLivePromo_eq_some hbest
    have hshown : (planView plan snapshot.promos now).promo.map (·.amountCentsAfter) =
        some (best.price plan) := by
      rw [planView, hbest]
      rfl
    constructor
    · rintro ⟨happlied, -⟩ -
      obtain ⟨c, hc, -, hclive, hcurrency, -⟩ :=
        happlied best.couponId (by rw [hcoupon, hbest]; rfl)
      exact ⟨c, hc, hclive, hcurrency⟩
    · intro hsome
      obtain ⟨c, hc, hclive, hcurrency⟩ := hsome ⟨best, hmem, hlive⟩
      -- The best promotion is at least as good as one that lowers the price.
      have hlower : best.price plan < plan.amountCents :=
        Int.lt_of_le_of_lt (hlowest c hc hclive)
          ((price_lt_iff hprice (hpositive c hc)).mpr hcurrency)
      have hbestCurrency := (price_lt_iff hprice (hpositive best hmem)).mp hlower
      constructor
      · intro couponId hid
        rw [hcoupon, hbest] at hid
        exact ⟨best, hmem, Option.some.inj hid, hlive, hbestCurrency, hlower, hlowest, hshown⟩
      · intro hnone
        rw [hcoupon, hbest] at hnone
        cases hnone

/-- A plan in one currency, and an amount off in another or the same one. -/
def samplePromotion (currency : String) : CatalogSnapshot where
  plans := [samplePlan]
  promos := [⟨"coupon-1", "Launch", none, some 500, some currency, [], none, some 100⟩]
  lastSyncedAt := some 0
where
  samplePlan : CatalogPlan :=
    ⟨"price-1", "product-1", "Home", 1, ⟨1, 1⟩, 1000, "usd", "month"⟩

theorem coupon_applies_iff_sample :
    CouponApplies (samplePromotion "usd") samplePromotion.samplePlan 50 := by
  refine (coupon_applies_iff _ _ _ rfl (by decide) ?_).mpr ?_
  · simp [samplePromotion, CatalogPromo.Positive]
  · rintro ⟨c, hc, hlive⟩
    refine ⟨c, hc, hlive, ?_⟩
    obtain rfl := List.mem_singleton.mp hc
    exact fun _ => rfl

/-- The coupon in another currency is applied, and the price stays as it is. -/
theorem coupon_applies_iff_counterexample :
    liveCouponForPrice (samplePromotion "eur") "price-1" 50 = some "coupon-1" ∧
      ∀ c ∈ (samplePromotion "eur").promos, c.price samplePromotion.samplePlan = 1000 := by
  decide

end Wardnet.Billing

/-
# Plans and promotions

The catalog as the services read it, and the promotion that is applied without being asked
for: the live one that gives the lowest price. Percentages are exact here, where the source
computes with floating point numbers.
-/

import Mathlib.Data.Rat.Init
import Wardnet.Contract

namespace Wardnet.Billing

structure CatalogPlan where
  priceId : String
  productId : String
  name : String
  level : ℕ
  entitlement : Entitlement
  amountCents : Int
  currency : String
  interval : String
  deriving DecidableEq

structure CatalogPromo where
  couponId : String
  name : String
  percentOff : Option ℚ
  amountOff : Option Int
  currency : Option String
  appliesToProducts : List String
  start : Option Int
  redeemBy : Option Int
  deriving DecidableEq

structure CatalogSnapshot where
  plans : List CatalogPlan
  promos : List CatalogPromo
  lastSyncedAt : Option Int
  deriving DecidableEq

def CatalogSnapshot.plan? (snapshot : CatalogSnapshot) (priceId : String) : Option CatalogPlan :=
  snapshot.plans.find? (·.priceId = priceId)

def promoIsLive (c : CatalogPromo) (plan : CatalogPlan) (now : Int) : Bool :=
  let started := c.start.all (· ≤ now)
  let notEnded := c.redeemBy.any (now ≤ ·)
  let targeted := c.appliesToProducts.isEmpty || c.appliesToProducts.any (· = plan.productId)
  started && notEnded && targeted

/-- `f64::round`: to the nearest integer, halves away from zero. -/
def roundAwayFromZero (x : ℚ) : Int :=
  if 0 ≤ x then (x + 1 / 2).floor else -(-x + 1 / 2).floor

def discountedAmount (amountCents : Int) (currency : String) (c : CatalogPromo) : Int :=
  match c.percentOff, c.amountOff with
  | some percent, _ => max (amountCents - roundAwayFromZero (amountCents * percent / 100)) 0
  | none, some off => if c.currency = some currency then max (amountCents - off) 0 else amountCents
  | none, none => amountCents

/-- `best_live_promo`: the first among the live ones with the lowest resulting price. -/
def bestLivePromo (plan : CatalogPlan) (promos : List CatalogPromo) (now : Int) :
    Option CatalogPromo :=
  (promos.filter (promoIsLive · plan now)).minOn? (discountedAmount plan.amountCents plan.currency)

def liveCouponForPrice (snapshot : CatalogSnapshot) (priceId : String) (now : Int) :
    Option String := do
  let plan ← snapshot.plan? priceId
  (bestLivePromo plan snapshot.promos now).map (·.couponId)

end Wardnet.Billing

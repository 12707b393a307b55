/-
# Plan changes

`change_plan` resolves the request, releases a pending change and then acts: it upgrades at
once, or schedules a downgrade by two requests. Where the act fails it schedules the pending
change again. That takes the same two requests, and Stripe refuses the first of them while a
schedule is attached. So a pending change is lost when the act itself got as far as attaching
one.
-/

import Wardnet.Base.Fault
import Wardnet.Billing.Stripe

namespace Wardnet.Billing

open Base

inductive BillingError
  | invalidRequest (message : String)
  | promoUnavailable (actualAmountCents : Int) (currency : String)
  | internal (e : CallError)
  deriving DecidableEq

inductive PlanChangeEffect
  | upgraded
  | downgradeScheduled
  | downgradeCanceled
  deriving DecidableEq

structure ChangePlanResponse where
  effect : PlanChangeEffect
  effectiveAt : Option Int
  currentPriceId : Option String
  deriving DecidableEq

def promoAwareError (e : CallError) (snapshot : CatalogSnapshot) (priceId : String) :
    BillingError :=
  match e, snapshot.plan? priceId with
  | .couponRejected, some plan => .promoUnavailable plan.amountCents plan.currency
  | _, _ => .internal e

abbrev Operation := ExceptT BillingError PlanProc

def internal {α : Type} (p : Gateway α) : Operation α :=
  ExceptT.mk (p.run.bind fun out => .ret (out.mapError .internal))

def orInvalid {α : Type} (value : Option α) (message : String) : Operation α :=
  match value with
  | some value => pure value
  | none => throw (.invalidRequest message)

/-- `restore_pending`. A failure is only logged. -/
def restorePending (subscriptionId currentPriceId : String) (prior : Option ScheduledChange)
    (boundary : Int) : PlanProc Unit :=
  match prior with
  | none => .ret ()
  | some prior =>
    (scheduleDowngrade subscriptionId currentPriceId prior.priceId boundary).run.bind
      fun _ => .ret ()

structure Resolved where
  subscriptionId : String
  snapshot : CatalogSnapshot
  target : CatalogPlan
  details : SubscriptionDetails
  current : CatalogPlan
  deriving DecidableEq

/-- The first part of `change_plan`: find the subscription and the two plans. -/
def resolve (tenantId priceId : String) : Operation Resolved := do
  let ref ← internal (request (send (.billingRef tenantId)))
  let subscriptionId ← orInvalid
    (ref.bind (·.stripeSubscriptionId)) "no paid subscription to change"
  let snapshot ← internal (request (send .readCatalog))
  let target ← orInvalid (snapshot.plan? priceId) "unknown plan"
  let details ← internal (getSubscription subscriptionId)
  let current ← orInvalid (snapshot.plan? details.priceId) "current plan not in catalog"
  pure { subscriptionId, snapshot, target, details, current }

/-- The second part: read the pending change of an attached schedule, and release the
schedule. -/
def releasePending (details : SubscriptionDetails) : Operation (Option ScheduledChange) :=
  match details.scheduleId with
  | none => pure none
  | some scheduleId => do
      let prior ← internal (pendingScheduledChange scheduleId details.currentPeriodEnd)
      internal (releaseSchedule scheduleId)
      pure prior

/-- The last part: compare the levels and act; restore the pending change if that fails. -/
def act (r : Resolved) (priceId : String) (acceptFullPrice : Bool) (now : Int)
    (prior : Option ScheduledChange) : Operation ChangePlanResponse :=
  match compare r.target.level r.current.level with
  | .eq =>
    if r.details.scheduleId.isSome then
      pure ⟨.downgradeCanceled, none, some r.details.priceId⟩
    else throw (.invalidRequest "already on this plan")
  | .gt =>
    let coupon := if acceptFullPrice then none else liveCouponForPrice r.snapshot priceId now
    orRestore
      (upgradeSubscription r.subscriptionId r.details.itemId priceId coupon r.details.trialing)
      (fun _ => ⟨.upgraded, none, some priceId⟩) (promoAwareError · r.snapshot priceId)
  | .lt =>
    orRestore
      (scheduleDowngrade r.subscriptionId r.details.priceId priceId r.details.currentPeriodEnd)
      (fun effectiveAt => ⟨.downgradeScheduled, some effectiveAt, some r.details.priceId⟩)
      .internal
where
  /-- Answer, or restore the pending change and fail. -/
  orRestore {α : Type} (p : Gateway α) (response : α → ChangePlanResponse)
      (error : CallError → BillingError) : Operation ChangePlanResponse :=
    ExceptT.mk (p.run.bind fun
      | .ok value => .ret (.ok (response value))
      | .error e => (restorePending r.subscriptionId r.details.priceId prior
          r.details.currentPeriodEnd).bind fun _ => .ret (.error (error e)))

/-- `BillingService::change_plan`, with the time that it reads. -/
def changePlan (tenantId priceId : String) (acceptFullPrice : Bool) (now : Int) :
    Operation ChangePlanResponse := do
  let r ← resolve tenantId priceId
  let prior ← releasePending r.details
  act r priceId acceptFullPrice now prior

end Wardnet.Billing

/-
# A subscription at Stripe

A plan change works on one subscription: its items with their prices, and at most one
schedule that is attached to it. The requests are those of the gateway, one for each round
trip. Stripe attaches a schedule only where there is none, and a released schedule is gone
with what it had planned.
-/

import Wardnet.Billing.Gateway
import Wardnet.Billing.Plans
import Wardnet.Billing.Repository
import Wardnet.Base.Prog

namespace Wardnet.Billing

open Base

/-- Why a request to Stripe or the database gave no answer. -/
inductive CallError
  | couponRejected
  | failed
  | malformed (message : String)
  deriving DecidableEq

/-- A phase of a schedule: when it starts, and the prices of its items. -/
structure SchedulePhase where
  startDate : Option Int
  items : List (Option String)
  deriving DecidableEq

structure SubscriptionSchedule where
  id : String
  phases : List SchedulePhase
  deriving DecidableEq

structure SubscriptionItem where
  id : Option String
  price : Option String
  currentPeriodEnd : Option Int
  deriving DecidableEq

/-- A subscription at Stripe, in a period that has a length. -/
structure LiveSubscription where
  id : String
  status : String
  currentPeriodStart : Int
  currentPeriodEnd : Option Int
  items : List SubscriptionItem
  schedule : Option SubscriptionSchedule
  period : ∀ periodEnd, currentPeriodEnd.or (items.head?.bind (·.currentPeriodEnd)) =
    some periodEnd → currentPeriodStart < periodEnd

structure SubscriptionDetails where
  itemId : String
  priceId : String
  currentPeriodEnd : Int
  scheduleId : Option String
  trialing : Bool
  deriving DecidableEq

structure ScheduledChange where
  priceId : String
  effectiveAt : Int
  deriving DecidableEq

def orMalformed {α : Type} (value : Option α) (message : String) : Except CallError α :=
  match value with
  | some value => .ok value
  | none => .error (.malformed message)

/-- What `get_subscription` makes of the answer. -/
def LiveSubscription.details (sub : LiveSubscription) : Except CallError SubscriptionDetails := do
  let item ← orMalformed sub.items.head? "Stripe subscription has no items"
  let itemId ← orMalformed item.id "Stripe subscription item has no id"
  let priceId ← orMalformed item.price "Stripe subscription item has no price"
  let periodEnd ← orMalformed (sub.currentPeriodEnd.or item.currentPeriodEnd)
    "Stripe subscription has no current_period_end"
  let currentPeriodEnd ← orMalformed (timestampOpt periodEnd)
    "invalid current_period_end timestamp"
  pure
    { itemId, priceId, currentPeriodEnd, scheduleId := sub.schedule.map (·.id)
      trialing := sub.status = "trialing" }

/-- What `pending_scheduled_change` makes of the answer: the first phase that does not start
before the end of the period. -/
def SubscriptionSchedule.pendingChange (schedule : SubscriptionSchedule) (currentPeriodEnd : Int) :
    Option ScheduledChange := do
  let phase ← schedule.phases.find? (·.startDate.any (currentPeriodEnd ≤ ·))
  let priceId ← phase.items.head?.join
  let effectiveAt ← phase.startDate.bind timestampOpt
  pure { priceId, effectiveAt }

def LiveSubscription.price (sub : LiveSubscription) : Option String :=
  sub.items.head?.bind (·.price)

def LiveSubscription.pending (sub : LiveSubscription) : Option ScheduledChange := do
  let schedule ← sub.schedule
  schedule.pendingChange (← sub.currentPeriodEnd.or (sub.items.head?.bind (·.currentPeriodEnd)))

/-! ## Requests -/

inductive PlanCall
  | billingRef (tenantId : String)
  | readCatalog
  | getSubscription (subscriptionId : String)
  | getSchedule (scheduleId : String)
  | createSchedule (fromSubscription : String)
  | updateSchedule (scheduleId : String) (phases : List SchedulePhase)
  | releaseSchedule (scheduleId : String)
  | updateSubscription (subscriptionId itemId priceId : String) (coupon : Option String)
      (endTrial : Bool)

def PlanCall.Resp : PlanCall → Type
  | .billingRef _ => Except CallError (Option BillingRow)
  | .readCatalog => Except CallError CatalogSnapshot
  | .getSubscription _ => Except CallError LiveSubscription
  | .getSchedule _ | .createSchedule _ => Except CallError SubscriptionSchedule
  | .updateSchedule .. | .releaseSchedule _ | .updateSubscription .. => Except CallError Unit

/-- What plan changes read and write. -/
structure Account where
  billing : BillingTable
  catalog : CatalogSnapshot
  stripe : LiveSubscription

namespace LiveSubscription

def withSchedule (sub : LiveSubscription) (schedule : Option SubscriptionSchedule) :
    LiveSubscription :=
  { sub with schedule }

/-- The schedule that Stripe makes of a subscription: one phase, which started with the
period. -/
def seeded (sub : LiveSubscription) (scheduleId : String) : SubscriptionSchedule :=
  ⟨scheduleId, [⟨some sub.currentPeriodStart, sub.items.map (·.price)⟩]⟩

def withPrice (sub : LiveSubscription) (itemId priceId : String) (endTrial : Bool) :
    LiveSubscription where
  id := sub.id
  status := if endTrial then "active" else sub.status
  currentPeriodStart := sub.currentPeriodStart
  currentPeriodEnd := sub.currentPeriodEnd
  items := sub.items.map fun item =>
    if item.id = some itemId then { item with price := some priceId } else item
  schedule := sub.schedule
  period := by
    intro periodEnd hend
    apply sub.period periodEnd
    rw [← hend]
    cases sub.items with
    | nil => rfl
    | cons item items =>
      simp only [List.map_cons, List.head?_cons, Option.bind_some]
      split
      · rfl
      · rfl

end LiveSubscription

namespace Account

def withStripe (s : Account) (stripe : LiveSubscription) : Account := { s with stripe }

def schedule? (s : Account) (scheduleId : String) : Option SubscriptionSchedule :=
  s.stripe.schedule.filter (·.id = scheduleId)

/-- The answers of the database and of Stripe. A request about something that is not there is
refused. -/
def answer (newId : String) : (c : PlanCall) → Account → c.Resp × Account
  | .billingRef tenantId, s => (.ok (s.billing.get? tenantId), s)
  | .readCatalog, s => (.ok s.catalog, s)
  | .getSubscription subscriptionId, s =>
    if subscriptionId = s.stripe.id then (.ok s.stripe, s) else (.error .failed, s)
  | .getSchedule scheduleId, s =>
    match s.schedule? scheduleId with
    | some schedule => (.ok schedule, s)
    | none => (.error .failed, s)
  | .createSchedule fromSubscription, s =>
    if fromSubscription = s.stripe.id ∧ s.stripe.schedule = none then
      (.ok (s.stripe.seeded newId),
        s.withStripe (s.stripe.withSchedule (some (s.stripe.seeded newId))))
    else (.error .failed, s)
  | .updateSchedule scheduleId phases, s =>
    match s.schedule? scheduleId with
    | some schedule =>
      (.ok (), s.withStripe (s.stripe.withSchedule (some { schedule with phases })))
    | none => (.error .failed, s)
  | .releaseSchedule scheduleId, s =>
    match s.schedule? scheduleId with
    | some _ => (.ok (), s.withStripe (s.stripe.withSchedule none))
    | none => (.error .failed, s)
  | .updateSubscription subscriptionId itemId priceId _ endTrial, s =>
    if subscriptionId = s.stripe.id ∧ s.stripe.items.any (·.id = some itemId) then
      (.ok (), s.withStripe (s.stripe.withPrice itemId priceId endTrial))
    else (.error .failed, s)

/-- A request that fails. Only one that applies a coupon can fail for the coupon. -/
def refuse (couponRejected : Bool) : (c : PlanCall) → c.Resp
  | .billingRef _ | .readCatalog | .getSubscription _ | .getSchedule _ | .createSchedule _
  | .updateSchedule .. | .releaseSchedule _ => .error .failed
  | .updateSubscription _ _ _ coupon _ =>
    .error (if couponRejected ∧ coupon.isSome then .couponRejected else .failed)

end Account

/-! ## The gateway -/

abbrev PlanProc := Prog PlanCall PlanCall.Resp

abbrev Gateway := ExceptT CallError PlanProc

abbrev send (c : PlanCall) : PlanProc c.Resp := Base.perform c

abbrev request {α : Type} (p : PlanProc (Except CallError α)) : Gateway α := ExceptT.mk p

def getSubscription (subscriptionId : String) : Gateway SubscriptionDetails := do
  let sub ← request (send (.getSubscription subscriptionId))
  ExceptT.mk (pure sub.details)

def pendingScheduledChange (scheduleId : String) (currentPeriodEnd : Int) :
    Gateway (Option ScheduledChange) := do
  let schedule ← request (send (.getSchedule scheduleId))
  pure (schedule.pendingChange currentPeriodEnd)

def upgradeSubscription (subscriptionId itemId newPriceId : String) (coupon : Option String)
    (endTrial : Bool) : Gateway Unit :=
  request (send (.updateSubscription subscriptionId itemId newPriceId coupon endTrial))

/-- `StripeClient::schedule_downgrade`: keep the current price until the end of the period. -/
def scheduleDowngrade (subscriptionId currentPriceId newPriceId : String)
    (currentPeriodEnd : Int) : Gateway Int := do
  let created ← request (send (.createSchedule subscriptionId))
  let phase0Start ← ExceptT.mk (pure (orMalformed (created.phases.head?.bind (·.startDate))
    "Stripe schedule has no seeded phase"))
  request (send (.updateSchedule created.id
    [⟨some phase0Start, [some currentPriceId]⟩, ⟨some currentPeriodEnd, [some newPriceId]⟩]))
  pure currentPeriodEnd

def releaseSchedule (scheduleId : String) : Gateway Unit :=
  request (send (.releaseSchedule scheduleId))

end Wardnet.Billing

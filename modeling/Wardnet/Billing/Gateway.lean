/-
# Stripe webhook events

The gateway turns a webhook event into the normalized event that billing applies.
An event object is JSON; it is modelled by what each of the three shapes the
gateway reads finds in it. An object that lacks the expected shape is an error,
so that Stripe delivers the event again.
-/

import Wardnet.Base.Decimal
import Wardnet.Contract

namespace Wardnet.Billing

open Base

abbrev Metadata := List (String × String)

structure StripePrice where
  id : String
  metadata : Metadata
  deriving DecidableEq

structure StripeSubscriptionItem where
  price : Option StripePrice
  currentPeriodEnd : Option Int
  deriving DecidableEq

structure StripeSubscription where
  id : String
  customer : String
  status : String
  currentPeriodEnd : Option Int
  metadata : Metadata
  items : List StripeSubscriptionItem
  deriving DecidableEq

/-- A Stripe `Invoice` object: the subscription at the top level, or under
`parent.subscription_details`. -/
structure StripeInvoice where
  subscription : Option String
  parentSubscription : Option String
  deriving DecidableEq

def StripeInvoice.subscriptionId (invoice : StripeInvoice) : Option String :=
  invoice.subscription.or invoice.parentSubscription

structure CheckoutSessionObject where
  mode : Option String
  customer : Option String
  setupIntent : Option String
  deriving DecidableEq

/-- What each of the three shapes reads from an event object. -/
structure WebhookObject where
  subscription : Option StripeSubscription
  invoice : Option StripeInvoice
  session : Option CheckoutSessionObject
  deriving DecidableEq

structure WebhookEvent where
  id : String
  eventType : String
  object : WebhookObject
  deriving DecidableEq

structure SubscriptionData where
  tenantId : Option String
  stripeSubscriptionId : String
  stripeCustomerId : String
  priceId : Option String
  entitlement : Option Entitlement
  status : SubscriptionStatus
  currentPeriodEnd : Option Int
  deriving DecidableEq

/-- The cases the billing lifecycle cares about. -/
inductive StripeEventKind
  | subscriptionUpsert (data : SubscriptionData)
  | subscriptionDeleted (stripeSubscriptionId : String)
  | paymentFailed (stripeSubscriptionId : String)
  | cardSetupCompleted (stripeCustomerId setupIntentId : String)
  | catalogChanged
  | ignored
  deriving DecidableEq

/-- A normalized webhook event; its id is the idempotency key. -/
structure StripeEvent where
  id : String
  kind : StripeEventKind
  deriving DecidableEq

/-- `map_status`: unknown states are closed to canceled. -/
def mapStatus (status : String) : SubscriptionStatus :=
  if status = "active" ∨ status = "trialing" then .active
  else if status = "past_due" ∨ status = "unpaid" then .pastDue
  else .canceled

/-- `entitlement_from_meta`: both limits, or nothing. -/
def entitlementFromMeta (metadata : Metadata) : Option Entitlement := do
  let maxNetworks ← (metadata.lookup "max_networks").bind parseU32
  let maxDaemons ← (metadata.lookup "max_daemons").bind parseU32
  some ⟨maxNetworks, maxDaemons⟩

/-- `Utc.timestamp_opt`: the seconds that denote a representable time. -/
def timestampOpt (seconds : Int) : Option Int :=
  if -8334601228800 ≤ seconds ∧ seconds ≤ 8210266876799 then some seconds else none

def mapSubscription (sub : StripeSubscription) : SubscriptionData :=
  let firstItem := sub.items.head?
  let price := firstItem.bind (·.price)
  let periodEnd := sub.currentPeriodEnd.or (firstItem.bind (·.currentPeriodEnd))
  { tenantId := sub.metadata.lookup "tenant_id"
    stripeSubscriptionId := sub.id
    stripeCustomerId := sub.customer
    priceId := price.map (·.id)
    entitlement := price.bind fun p => entitlementFromMeta p.metadata
    status := mapStatus sub.status
    currentPeriodEnd := periodEnd.bind timestampOpt }

def isCatalogEvent (eventType : String) : Bool :=
  ["price.", "product.", "coupon.", "promotion_code."].any fun family =>
    family.toList.isPrefixOf eventType.toList

/-- The object of a handled event does not have the expected shape. -/
inductive MalformedObject
  | malformed (eventType : String)
  deriving DecidableEq

def parseObject {α : Type} (object : Option α) (eventType : String) :
    Except MalformedObject α :=
  object.elim (.error (.malformed eventType)) .ok

def normalizeEvent (event : WebhookEvent) : Except MalformedObject StripeEvent := do
  let kind ←
    if event.eventType = "customer.subscription.created" ∨
        event.eventType = "customer.subscription.updated" then do
      let sub ← parseObject event.object.subscription event.eventType
      pure (.subscriptionUpsert (mapSubscription sub))
    else if event.eventType = "customer.subscription.deleted" then do
      let sub ← parseObject event.object.subscription event.eventType
      pure (.subscriptionDeleted sub.id)
    else if event.eventType = "invoice.payment_failed" then do
      let invoice ← parseObject event.object.invoice event.eventType
      pure (match invoice.subscriptionId with
        | some id => .paymentFailed id
        | none => .ignored)
    else if event.eventType = "checkout.session.completed" then do
      let session ← parseObject event.object.session event.eventType
      pure (match session.mode, session.customer, session.setupIntent with
        | some "setup", some customer, some setupIntent => .cardSetupCompleted customer setupIntent
        | _, _, _ => .ignored)
    else if isCatalogEvent event.eventType then pure .catalogChanged
    else pure .ignored
  pure ⟨event.id, kind⟩

/-- The gateway never reports the status of the managed trial. -/
theorem mapStatus_ne_trialing (status : String) : mapStatus status ≠ .trialing := by
  unfold mapStatus
  split
  · exact nofun
  · split
    · exact nofun
    · exact nofun

theorem except_bind_eq_ok {ε α β : Type} {x : Except ε α} {f : α → Except ε β} {value : β}
    (h : x >>= f = .ok value) : ∃ a, x = .ok a ∧ f a = .ok value := by
  cases x with
  | error e => cases h
  | ok a => exact ⟨a, rfl, h⟩

variable {webhook : WebhookEvent} {event : StripeEvent} {data : SubscriptionData}

/-- A subscription that the gateway reports was mapped from one of Stripe. -/
theorem eq_mapSubscription_of_normalizeEvent (hevent : normalizeEvent webhook = .ok event)
    (hkind : event.kind = .subscriptionUpsert data) : ∃ sub, data = mapSubscription sub := by
  simp only [normalizeEvent] at hevent
  split at hevent
  · obtain ⟨sub, -, hsub⟩ := except_bind_eq_ok hevent
    cases hsub
    cases hkind
    exact ⟨sub, rfl⟩
  split at hevent
  · obtain ⟨sub, -, hsub⟩ := except_bind_eq_ok hevent
    cases hsub
    cases hkind
  split at hevent
  · obtain ⟨invoice, -, hinvoice⟩ := except_bind_eq_ok hevent
    cases hinvoice
    dsimp only at hkind
    split at hkind
    · cases hkind
    · cases hkind
  split at hevent
  · obtain ⟨session, -, hsession⟩ := except_bind_eq_ok hevent
    cases hsession
    dsimp only at hkind
    split at hkind
    · cases hkind
    · cases hkind
  split at hevent
  · cases hevent
    cases hkind
  · cases hevent
    cases hkind

theorem status_ne_trialing_of_normalizeEvent (hevent : normalizeEvent webhook = .ok event)
    (hkind : event.kind = .subscriptionUpsert data) : data.status ≠ .trialing := by
  obtain ⟨sub, rfl⟩ := eq_mapSubscription_of_normalizeEvent hevent hkind
  exact mapStatus_ne_trialing sub.status

end Wardnet.Billing

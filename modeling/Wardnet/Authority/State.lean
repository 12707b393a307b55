/-
# The state of the authority

The tables of the Tenants deployable, which composes the tenant, license and
billing aggregates over one database, and the atomic calls on them: one
repository statement or transaction, one request to Stripe, one published event.
Every table that refers to tenants refuses a row of a missing tenant.
-/

import Wardnet.Base.Pool
import Wardnet.Billing.Gateway
import Wardnet.Billing.Repository
import Wardnet.Subscriptions.Table
import Wardnet.Tenants.Accounts

namespace Wardnet.Authority

open Base Billing Subscriptions Tenants

inductive DomainEvent
  | tenantCreated (tenantId : String)
  | tenantDeregistered (tenantId : String)
  | subscriptionDeactivated (tenantId : String)
  deriving DecidableEq

/-- The database, and the events published so far, oldest first. -/
structure Database where
  tenants : TenantTable
  subscriptions : SubscriptionTable
  fleet : Fleet
  identities : IdentityTable
  sessions : Store String Session
  billing : BillingTable
  /-- `processed_stripe_events`. -/
  processed : List String
  published : List DomainEvent

def Database.empty : Database := ⟨.empty, .empty, ⟨∅, ∅, ∅⟩, ∅, ∅, ∅, [], []⟩

inductive Failure
  | failed
  deriving DecidableEq

inductive Call
  | utcNow
  | createTrial (sub : Subscription)
  | findCurrent (tenantId : String)
  | convertTrialToPaid (tenantId : String) (paid : Subscription)
  | updateCurrent (tenantId : String) (status : SubscriptionStatus) (entitlement : Entitlement)
      (currentPeriodEnd : Option Int)
  | markPastDueCurrent (tenantId : String)
  | cancelCurrent (tenantId : String)
  | listOverdue (trialCutoff paymentCutoff : Int)
  | isEventProcessed (eventId : String)
  | recordEvent (eventId : String)
  | tenantForSubscription (stripeSubscriptionId : String)
  | subscriptionForCustomer (stripeCustomerId : String)
  | upsertSubscription (tenantId stripeCustomerId stripeSubscriptionId : String)
      (priceId : Option String)
  | setDefaultPaymentMethod (stripeCustomerId : String) (subscriptionId : Option String)
      (setupIntentId : String)
  | notifyCatalogResync
  | createTenant (id email : String)
  | findTenant (id : String)
  | findTenantByEmail (email : String)
  | listLiveIds
  | setDeregistered (id : String)
  | deleteTombstonedEmpty
  | setDeprovisioningForTenant (tenantId : String)
  | registerNetwork (networkId : String) (row : NetworkRow) (publicKey : String)
      (maxNetworks maxDaemons : ℕ)
  | findIdentity (provider subject : String)
  | insertIdentity (provider subject : String) (identity : TenantIdentity)
  | deleteSessionsForTenant (tenantId : String)
  | deleteIdentitiesForTenant (tenantId : String)
  | publish (event : DomainEvent)
  deriving DecidableEq

@[reducible]
def Call.Resp : Call → Type
  | .utcNow => Int
  | .createTrial _ => Except Failure Bool
  | .findCurrent _ => Except Failure (Option Subscription)
  | .convertTrialToPaid .. => Except Failure Unit
  | .updateCurrent .. => Except Failure Bool
  | .markPastDueCurrent _ => Except Failure Bool
  | .cancelCurrent _ => Except Failure Bool
  | .listOverdue .. => Except Failure (List String)
  | .isEventProcessed _ => Except Failure Bool
  | .recordEvent _ => Except Failure Unit
  | .tenantForSubscription _ => Except Failure (Option String)
  | .subscriptionForCustomer _ => Except Failure (Option String)
  | .upsertSubscription .. => Except Failure Unit
  | .setDefaultPaymentMethod .. => Except Failure Unit
  | .notifyCatalogResync => Unit
  | .createTenant .. => Except Failure CreateTenantOutcome
  | .findTenant _ => Except Failure (Option Tenant)
  | .findTenantByEmail _ => Except Failure (Option String)
  | .listLiveIds => Except Failure (List String)
  | .setDeregistered _ => Except Failure Bool
  | .deleteTombstonedEmpty => Except Failure ℕ
  | .setDeprovisioningForTenant _ => Except Failure ℕ
  | .registerNetwork .. => Except Failure RegisterNetworkOutcome
  | .findIdentity .. => Except Failure (Option TenantIdentity)
  | .insertIdentity .. => Except Failure InsertIdentityOutcome
  | .deleteSessionsForTenant _ => Except Failure ℕ
  | .deleteIdentitiesForTenant _ => Except Failure ℕ
  | .publish _ => Except Failure Unit

/-- What a call leaves open: the clock, whether it fails, which of several rows a
lookup returns, and the order of an unordered listing. -/
structure Choice where
  now : Int
  fails : Bool
  pick : String
  order : List String

namespace Database

def tenantExists (s : Database) (tenantId : String) : Bool :=
  (s.tenants.findById tenantId).isSome

def sweepable (s : Database) : List String :=
  s.tenants.tombstoned fun id => (s.fleet.networks.select fun _ row => row.tenantId = id).isEmpty

/-- `delete_tombstoned_empty`: delete the tombstoned tenants without networks, and
with them everything that refers to them. -/
def sweep (s : Database) : ℕ × Database :=
  let ids := s.sweepable
  (ids.length,
    { s with
      tenants := s.tenants.remove ids
      subscriptions := s.subscriptions.deleteTenants ids
      fleet := ⟨s.fleet.networks, s.fleet.daemons.retain fun _ row => row.tenantId ∉ ids,
        s.fleet.pending.retain fun _ row => row.tenantId ∉ ids⟩
      identities := s.identities.retain fun _ row => row.tenantId ∉ ids
      sessions := s.sessions.retain fun _ row => row.tenantId ∉ ids
      billing := s.billing.retain fun id _ => id ∉ ids })

/-- Write a row of a tenant, unless the tenant is missing. -/
def ifTenant {α : Type} (s : Database) (tenantId : String) (out : α × Database) :
    Except Failure α × Database :=
  if s.tenantExists tenantId then (.ok out.1, out.2) else (.error .failed, s)

def pickOne {α : Type} (pick : String) (found : List (String × α)) : Option (Option α) :=
  if found = [] then some none else (found.lookup pick).map some

/-- The effect of a call that does not fail by itself; `none` where the choice is
not possible. -/
def perform (choice : Choice) : (c : Call) → Database → Option (c.Resp × Database)
  | .utcNow, s => some (choice.now, s)
  | .createTrial sub, s =>
    let out := s.subscriptions.createTrial sub
    if out.1 then some (s.ifTenant sub.tenantId (true, { s with subscriptions := out.2 }))
    else some (.ok false, s)
  | .findCurrent tenantId, s => some (.ok (s.subscriptions.findCurrent tenantId), s)
  | .convertTrialToPaid tenantId paid, s =>
    some (s.ifTenant paid.tenantId
      ((), { s with subscriptions := s.subscriptions.convertTrialToPaid tenantId paid }))
  | .updateCurrent tenantId status entitlement currentPeriodEnd, s =>
    let out := s.subscriptions.updateCurrent tenantId status entitlement currentPeriodEnd
    some (.ok out.1, { s with subscriptions := out.2 })
  | .markPastDueCurrent tenantId, s =>
    let out := s.subscriptions.markPastDueCurrent tenantId
    some (.ok out.1, { s with subscriptions := out.2 })
  | .cancelCurrent tenantId, s =>
    let out := s.subscriptions.cancelCurrent tenantId
    some (.ok out.1, { s with subscriptions := out.2 })
  | .listOverdue trialCutoff paymentCutoff, s =>
    if choice.order.Perm (s.subscriptions.listOverdue trialCutoff paymentCutoff) then
      some (.ok choice.order, s)
    else none
  | .isEventProcessed eventId, s => some (.ok (s.processed.contains eventId), s)
  | .recordEvent eventId, s =>
    some (.ok (), { s with processed := s.processed.insert eventId })
  | .tenantForSubscription stripeSubscriptionId, s =>
    let found := s.billing.tenantsForSubscription stripeSubscriptionId
    (pickOne choice.pick (found.map fun id => (id, id))).map fun id => (.ok id, s)
  | .subscriptionForCustomer stripeCustomerId, s =>
    (pickOne choice.pick (s.billing.subscriptionsForCustomer stripeCustomerId)).map
      fun sub => (.ok sub.join, s)
  | .upsertSubscription tenantId stripeCustomerId stripeSubscriptionId priceId, s =>
    some (s.ifTenant tenantId
      ((), { s with billing :=
        s.billing.upsertSubscription tenantId stripeCustomerId stripeSubscriptionId priceId }))
  | .setDefaultPaymentMethod .., s => some (.ok (), s)
  | .notifyCatalogResync, s => some ((), s)
  | .createTenant id email, s =>
    match s.tenants.create id email with
    | some out => some (.ok out.1, { s with tenants := out.2 })
    | none => some (.error .failed, s)
  | .findTenant id, s => some (.ok (s.tenants.findById id), s)
  | .findTenantByEmail email, s => some (.ok ((s.tenants.findByEmail email).map Prod.fst), s)
  | .listLiveIds, s =>
    if choice.order.Perm s.tenants.liveIds then some (.ok choice.order, s) else none
  | .setDeregistered id, s =>
    let out := s.tenants.setDeregistered id choice.now
    some (.ok out.1, { s with tenants := out.2 })
  | .deleteTombstonedEmpty, s => some (.ok s.sweep.1, s.sweep.2)
  | .setDeprovisioningForTenant tenantId, s =>
    let out := s.fleet.networks.setDeprovisioningForTenant tenantId
    some (.ok out.1, { s with fleet := { s.fleet with networks := out.2 } })
  | .registerNetwork networkId row publicKey maxNetworks maxDaemons, s =>
    match s.fleet.registerNetwork networkId row publicKey maxNetworks maxDaemons with
    | some (.created, fleet) => some (s.ifTenant row.tenantId (.created, { s with fleet }))
    -- The network was inserted before the daemon clashed.
    | some (.daemonExists, _) => some (s.ifTenant row.tenantId (.daemonExists, s))
    | some (outcome, _) => some (.ok outcome, s)
    | none => some (.error .failed, s)
  | .findIdentity provider subject, s => some (.ok (s.identities.get? (provider, subject)), s)
  | .insertIdentity provider subject identity, s =>
    match s.identities.insertIdentity provider subject identity with
    | (.created, identities) =>
      some (s.ifTenant identity.tenantId (.created, { s with identities }))
    | (.alreadyExists, _) => some (.ok .alreadyExists, s)
  | .deleteSessionsForTenant tenantId, s =>
    let out := s.sessions.deleteWhere fun _ row => row.tenantId = tenantId
    some (.ok out.1, { s with sessions := out.2 })
  | .deleteIdentitiesForTenant tenantId, s =>
    let out := s.identities.deleteWhere fun _ row => row.tenantId = tenantId
    some (.ok out.1, { s with identities := out.2 })
  | .publish event, s => some (.ok (), { s with published := s.published ++ [event] })

def refuse : (c : Call) → Option c.Resp
  | .utcNow | .notifyCatalogResync => none
  | .createTrial _ | .findCurrent _ | .convertTrialToPaid .. | .updateCurrent ..
  | .markPastDueCurrent _ | .cancelCurrent _ | .listOverdue .. | .isEventProcessed _
  | .recordEvent _ | .tenantForSubscription _ | .subscriptionForCustomer _
  | .upsertSubscription .. | .setDefaultPaymentMethod .. | .createTenant .. | .findTenant _
  | .findTenantByEmail _ | .listLiveIds | .setDeregistered _ | .deleteTombstonedEmpty
  | .setDeprovisioningForTenant _ | .registerNetwork .. | .findIdentity ..
  | .insertIdentity .. | .deleteSessionsForTenant _ | .deleteIdentitiesForTenant _
  | .publish _ => some (.error .failed)

def exec (choice : Choice) (c : Call) (s : Database) : Option (c.Resp × Database) :=
  if choice.fails then (refuse c).map fun r => (r, s) else perform choice c s

def Step (c : Call) (s : Database) (r : c.Resp) (s' : Database) : Prop :=
  ∃ choice, exec choice c s = some (r, s')

end Database

end Wardnet.Authority

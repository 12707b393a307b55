/-
# The authority at work

The license, billing, tenant and identity services of the Tenants deployable, the
reactors that turn domain events into service calls, and the periodic passes,
written against the atomic calls of the database. Any number of them run at once,
in any number of replicas.
-/

import Wardnet.Authority.State
import Wardnet.Base.Text

namespace Wardnet.Authority

open Base Billing Subscriptions Tenants

structure TrialPolicy where
  trialDays : Int
  trialGraceDays : Int
  paymentGraceDays : Int

/-- What a deployment fixes: the policy, the regions of the fleet, and the
lower-casing of text. -/
structure Config where
  policy : TrialPolicy
  regions : List String
  toLowercase : String → String

def days (n : Int) : Int := 86400 * n

abbrev Proc := Prog Call Call.Resp

abbrev issue (c : Call) : Proc c.Resp := Base.perform c

abbrev Service := ExceptT Failure Proc

abbrev attempt {α : Type} (p : Proc (Except Failure α)) : Service α := ExceptT.mk p

/-- Publish a domain event after the fact. A failed publish is only logged. -/
def publish {ε : Type} (event : DomainEvent) : ExceptT ε Proc Unit :=
  ExceptT.lift ((issue (.publish event)).bind fun _ => .ret ())

/-! ## The license service -/

def createTrial (config : Config) (tenantId : String) : Service Bool := do
  let now ← (issue .utcNow : Proc Int)
  attempt (issue (.createTrial
    { tenantId, status := .trialing, entitlement := .default
      trialExpiresAt := some (now + days config.policy.trialDays)
      currentPeriodEnd := none }))

/-- `SubscriptionService::cancel`: the single cancel path. -/
def cancel (tenantId : String) : Service Unit := do
  if ← attempt (issue (.cancelCurrent tenantId)) then
    publish (.subscriptionDeactivated tenantId)

def cancelAll : List String → Service Unit
  | [] => pure ()
  | tenantId :: tenantIds => do
      cancel tenantId
      cancelAll tenantIds

def expireOverdue (config : Config) : Service ℕ := do
  let now ← (issue .utcNow : Proc Int)
  let tenantIds ← attempt (issue (.listOverdue (now - days config.policy.trialGraceDays)
    (now - days config.policy.paymentGraceDays)))
  cancelAll tenantIds
  pure tenantIds.length

def convertTrialToPaid (tenantId : String) (status : SubscriptionStatus)
    (entitlement : Entitlement) (currentPeriodEnd : Option Int) : Service Unit :=
  attempt (issue (.convertTrialToPaid tenantId
    { tenantId, status, entitlement, trialExpiresAt := none, currentPeriodEnd }))

def updatePaid (tenantId : String) (status : SubscriptionStatus) (entitlement : Entitlement)
    (currentPeriodEnd : Option Int) : Service Bool :=
  attempt (issue (.updateCurrent tenantId status entitlement currentPeriodEnd))

def markPastDue (tenantId : String) : Service Bool :=
  attempt (issue (.markPastDueCurrent tenantId))

/-! ## The billing service -/

def recordRef (tenantId : String) (data : SubscriptionData) : Service Unit :=
  attempt (issue (.upsertSubscription tenantId data.stripeCustomerId data.stripeSubscriptionId
    data.priceId))

/-- The second half of `apply_upsert`: drive the license of the tenant to the
reported state. The answer of the in-place update is not looked at. -/
def grant (tenantId : String) (data : SubscriptionData) : Service Unit := do
  let current ← attempt (issue (.findCurrent tenantId))
  match current with
  | some sub =>
    if sub.status = .active ∨ sub.status = .pastDue then
      let entitlement := data.entitlement.getD sub.entitlement
      recordRef tenantId data
      let _ ← updatePaid tenantId data.status entitlement data.currentPeriodEnd
    else convert
  | none => convert
where
  /-- (Re)create the paid license, if the price tells what it grants. -/
  convert : Service Unit := do
    match data.entitlement with
    | none => pure ()
    | some entitlement =>
      recordRef tenantId data
      convertTrialToPaid tenantId data.status entitlement data.currentPeriodEnd

/-- `apply_upsert`: the recorded tenant of the subscription first, else the one in
the checkout metadata; only a recorded subscription can be canceled. -/
def applyUpsert (data : SubscriptionData) : Service Unit := do
  let known ← attempt (issue (.tenantForSubscription data.stripeSubscriptionId))
  match known.or data.tenantId with
  | none => pure ()
  | some tenantId =>
    if data.status = .canceled then
      match known with
      | some known => cancel known
      | none => pure ()
    else grant tenantId data

/-- Apply `act` to the tenant for whom the subscription is recorded, if there is
one. -/
def forRecorded (stripeSubscriptionId : String) (act : String → Service Unit) : Service Unit := do
  match ← attempt (issue (.tenantForSubscription stripeSubscriptionId)) with
  | some tenantId => act tenantId
  | none => pure ()

def applyEventKind : StripeEventKind → Service Unit
  | .subscriptionUpsert data => applyUpsert data
  | .subscriptionDeleted stripeSubscriptionId => forRecorded stripeSubscriptionId cancel
  | .paymentFailed stripeSubscriptionId => forRecorded stripeSubscriptionId fun tenantId => do
      let _ ← markPastDue tenantId
  | .cardSetupCompleted stripeCustomerId setupIntentId => do
      let subscriptionId ← attempt (issue (.subscriptionForCustomer stripeCustomerId))
      attempt (issue (.setDefaultPaymentMethod stripeCustomerId subscriptionId setupIntentId))
  | .catalogChanged => do
      let _ ← (issue .notifyCatalogResync : Proc Unit)
  | .ignored => pure ()

/-- `apply_event`: the event id is recorded only after a successful apply. -/
def applyEvent (event : StripeEvent) : Service Unit := do
  if ← attempt (issue (.isEventProcessed event.id)) then pure () else
    applyEventKind event.kind
    attempt (issue (.recordEvent event.id))

/-! ## The tenant service -/

inductive TenantsError
  | notFound (message : String)
  | conflict (message : String)
  | entitlementExceeded (message : String)
  | forbidden (message : String)
  | badRequest (message : String)
  | badCode (message : String)
  | rateLimited (message : String)
  | internal
  deriving DecidableEq

def orInternal {α : Type} (p : Proc (Except Failure α)) : ExceptT TenantsError Proc α :=
  ExceptT.mk (p.bind fun r => .ret (r.mapError fun _ => TenantsError.internal))

def normalizeEmail (config : Config) (email : String) : Except TenantsError String :=
  let e := config.toLowercase (trim email)
  if e.utf8ByteSize < 3 ∨ '@' ∉ e.toList then .error (.badRequest "invalid email") else .ok e

def reservedNames : List String :=
  ["www", "mail", "api", "ddns", "my", "admin", "bridge", "static", "wildcard", "wardnet",
    "support", "help", "ns", "ns1", "ns2", "ftp", "smtp", "imap", "pop3", "us", "eu"]

def isValidName (name : String) : Bool :=
  let chars := name.toList
  3 ≤ name.utf8ByteSize ∧ name.utf8ByteSize ≤ 32 ∧ chars.head? ≠ some '-' ∧
    chars.getLast? ≠ some '-' ∧
    chars.all (fun c => ('a' ≤ c ∧ c ≤ 'z') ∨ ('0' ≤ c ∧ c ≤ '9') ∨ c = '-') ∧
    name ∉ reservedNames

/-- `register_tenant`, with the id it draws. -/
def registerTenant (config : Config) (id email : String) : ExceptT TenantsError Proc String := do
  let email ← ExceptT.mk (.ret (normalizeEmail config email))
  match ← orInternal (issue (.createTenant id email)) with
  | .created =>
    publish (.tenantCreated id)
    pure id
  | .emailTaken => throw (.conflict "a tenant already exists for that email")

/-- `deregister_tenant`: whether it newly tombstoned the tenant. -/
def deregisterTenant (tenantId : String) : ExceptT TenantsError Proc Bool := do
  if (← orInternal (issue (.findTenant tenantId))).isNone then
    throw (.notFound "no such tenant")
  if ← orInternal (issue (.setDeregistered tenantId)) then
    publish (.tenantDeregistered tenantId)
    pure true
  else pure false

def deprovisionNetworksFor (tenantId : String) : ExceptT TenantsError Proc Unit := do
  let _ ← orInternal (issue (.setDeprovisioningForTenant tenantId))

/-- The network that `register_network` inserts. Its display name is the slug when none is given
or only white space. -/
def newNetwork (tenantId slug : String) (displayName : Option String) (region : String) :
    NetworkRow :=
  ⟨tenantId, slug, ((displayName.map trim).filter (· ≠ "")).getD slug, region, .provisioning⟩

/-- `register_network`, with the id it draws. -/
def registerNetwork (config : Config) (networkId tenantId publicKey slug : String)
    (displayName : Option String) (region : String) : ExceptT TenantsError Proc Unit := do
  if !isValidName slug then
    throw (.badRequest "slug must be 3-32 chars of [a-z0-9-], not reserved")
  let region := trim region
  if region ∉ config.regions then
    throw (.badRequest ("unknown region '" ++ region ++ "'"))
  if (← orInternal (issue (.findTenant tenantId))).isNone then
    throw (.notFound "no such tenant")
  match ← orInternal (issue (.findCurrent tenantId)) with
  | none => throw (.forbidden "tenant has no active subscription")
  | some sub =>
    let row := newNetwork tenantId slug displayName region
    match ← orInternal (issue (.registerNetwork networkId row publicKey
      sub.entitlement.maxNetworks sub.entitlement.maxDaemons)) with
    | .created => pure ()
    | .slugTaken => throw (.conflict ("'" ++ slug ++ "' is already taken"))
    | .networkLimit => throw (.entitlementExceeded "tenant has reached its network limit")
    | .daemonLimit => throw (.entitlementExceeded "tenant has reached its daemon limit")
    | .daemonExists => throw (.conflict "this daemon is already registered")

/-! ## The identity service -/

structure VerifiedIdentity where
  provider : String
  subject : String
  email : String
  emailVerified : Bool
  deriving DecidableEq

/-- `IdentitiesError`, as far as login resolution returns it. -/
inductive IdentitiesError
  | unauthorized (message : String)
  | tenants (error : TenantsError)
  | internal
  deriving DecidableEq

def orTenantsError {α : Type} (p : ExceptT TenantsError Proc α) :
    ExceptT IdentitiesError Proc α :=
  ExceptT.mk (p.run.bind fun r => .ret (r.mapError IdentitiesError.tenants))

def findTenantByEmail (config : Config) (email : String) :
    ExceptT TenantsError Proc (Option String) := do
  let email ← ExceptT.mk (.ret (normalizeEmail config email))
  orInternal (issue (.findTenantByEmail email))

/-- The tenant of a proven email: the live one, or a fresh signup. A signup that
loses a race takes the tenant that won it. -/
def resolveTenant (config : Config) (id email : String) : ExceptT IdentitiesError Proc String := do
  match ← orTenantsError (findTenantByEmail config email) with
  | some tenantId => pure tenantId
  | none =>
    match ← (registerTenant config id email).run with
    | .ok tenantId => pure tenantId
    | .error (.conflict _) =>
      match ← orTenantsError (findTenantByEmail config email) with
      | some tenantId => pure tenantId
      | none => throw .internal
    | .error e => throw (.tenants e)

/-- `resolve_identity`: the tenant, and whether the login method was there
already. -/
def resolveIdentity (config : Config) (id : String) (verified : VerifiedIdentity)
    (secretHash : Option String) : ExceptT IdentitiesError Proc (String × Bool) := do
  match ← orTenantsError (orInternal
    (issue (.findIdentity verified.provider verified.subject))) with
  | some existing => pure (existing.tenantId, true)
  | none =>
    if !verified.emailVerified then
      throw (.unauthorized "provider did not verify the email")
    let email ← ExceptT.mk (.ret ((normalizeEmail config verified.email).mapError
      IdentitiesError.tenants))
    let tenantId ← resolveTenant config id email
    let _ ← orTenantsError (orInternal (issue (.insertIdentity verified.provider
      verified.subject ⟨tenantId, secretHash, email⟩)))
    pure (tenantId, false)

def purgeFor (tenantId : String) : Service Unit := do
  let _ ← attempt (issue (.deleteSessionsForTenant tenantId))
  let _ ← attempt (issue (.deleteIdentitiesForTenant tenantId))

/-! ## Reactors and passes -/

def applyToSubscription (config : Config) : DomainEvent → Proc Unit
  | .tenantCreated tenantId => do
      let _ ← (createTrial config tenantId).run
  | .tenantDeregistered tenantId => do
      let _ ← (cancel tenantId).run
  | .subscriptionDeactivated _ => pure ()

def applyToNetwork : DomainEvent → Proc Unit
  | .subscriptionDeactivated tenantId => do
      let _ ← (deprovisionNetworksFor tenantId).run
  | .tenantCreated _ | .tenantDeregistered _ => pure ()

def applyToIdentities : DomainEvent → Proc Unit
  | .tenantDeregistered tenantId => do
      let _ ← (purgeFor tenantId).run
  | .tenantCreated _ | .subscriptionDeactivated _ => pure ()

/-- One tenant of a reconcile pass: open a missing trial, else deprovision the
networks of a tenant without a license. -/
def reconcileTenant (config : Config) (tenantId : String) : Service Unit := do
  if (← attempt (issue (.findCurrent tenantId))).isSome then pure () else
    if ← createTrial config tenantId then pure () else
      let _ ← attempt (issue (.setDeprovisioningForTenant tenantId))

def reconcileAll (config : Config) : List String → Service Unit
  | [] => pure ()
  | tenantId :: tenantIds => do
      reconcileTenant config tenantId
      reconcileAll config tenantIds

def reconcile (config : Config) : Service Unit := do
  reconcileAll config (← attempt (issue .listLiveIds))

inductive Task
  | expireOverdue
  | applyEvent (event : StripeEvent)
  | cancel (tenantId : String)
  | applyToSubscription (event : DomainEvent)
  | applyToNetwork (event : DomainEvent)
  | applyToIdentities (event : DomainEvent)
  | registerTenant (id email : String)
  | resolveIdentity (id : String) (verified : VerifiedIdentity) (secretHash : Option String)
  | deregisterTenant (tenantId : String)
  | registerNetwork (networkId tenantId publicKey slug : String) (displayName : Option String)
      (region : String)
  | reconcile
  | sweepDeregistered
  deriving DecidableEq

def discard {α : Type} (p : Proc α) : Proc Unit := p.bind fun _ => .ret ()

def Task.body (config : Config) : Task → Proc Unit
  | .expireOverdue => discard (Authority.expireOverdue config).run
  | .applyEvent event => discard (Authority.applyEvent event).run
  | .cancel tenantId => discard (Authority.cancel tenantId).run
  | .applyToSubscription event => Authority.applyToSubscription config event
  | .applyToNetwork event => Authority.applyToNetwork event
  | .applyToIdentities event => Authority.applyToIdentities event
  | .registerTenant id email => discard (Authority.registerTenant config id email).run
  | .resolveIdentity id verified secretHash =>
    discard (Authority.resolveIdentity config id verified secretHash).run
  | .deregisterTenant tenantId => discard (Authority.deregisterTenant tenantId).run
  | .registerNetwork networkId tenantId publicKey slug displayName region =>
    discard (Authority.registerNetwork config networkId tenantId publicKey slug displayName
      region).run
  | .reconcile => discard (Authority.reconcile config).run
  | .sweepDeregistered => discard (issue .deleteTombstonedEmpty)

@[reducible]
def world (config : Config) : World where
  State := Database
  Call := Call
  Resp := Call.Resp
  Choice := Choice
  exec := Database.exec
  Task := Task
  Result := Unit
  body := Task.body config
  Env := Empty
  env e _ := e.elim

/-! ## Sample runs -/

/-- Two weeks of trial, three days of grace for it and a week for payments. -/
def sampleConfig : Config := ⟨⟨14, 3, 7⟩, ["eu"], id⟩

/-- Task number `i` performs its next `n` calls on the one tenant there is, all of
which succeed at time `now`. -/
def calls (i n : ℕ) (now : Int) : List (world sampleConfig).Action :=
  List.replicate n (.step i ⟨now, false, "tenant-1", ["tenant-1"]⟩)

def signup : List (world sampleConfig).Action :=
  .spawn (.registerTenant "tenant-1" "ada@example.org") :: calls 0 2 0 ++
    .spawn (.applyToSubscription (.tenantCreated "tenant-1")) :: calls 1 2 0

/-- Stripe reports the paid subscription of the tenant, paid up to
`periodEnd`. -/
def samplePaid (eventId : String) (periodEnd : Int) : StripeEvent :=
  ⟨eventId, .subscriptionUpsert
    ⟨some "tenant-1", "sub-1", "cus-1", some "price-1", some ⟨5, 5⟩, .active, some periodEnd⟩⟩

end Wardnet.Authority

/-
# Which task issues which call

The license is rewritten by the handlers of subscription upserts only, never into
a canceled one, and the idempotency ledger is written by the handler of the event
that is recorded. Everything here is read off the procedures; no state is
involved.
-/

import Wardnet.Authority.World

namespace Wardnet.Authority

open Base Billing Subscriptions Tenants Prog All

/-- A reported subscription that grants a license: not canceled, with a tenant and
an entitlement. -/
def Granting (data : SubscriptionData) : Prop :=
  data.status ≠ .canceled ∧ data.tenantId ≠ none ∧ data.entitlement ≠ none

instance : DecidablePred Granting := fun _ => inferInstanceAs (Decidable (_ ∧ _ ∧ _))

/-- The reported subscription that a task applies, if it is the handler of an
upsert. -/
def Task.upsert : Task → Option SubscriptionData
  | .applyEvent ⟨_, .subscriptionUpsert data⟩ => some data
  | _ => none

/-- The calls that no task issues outside the handlers of Stripe events. -/
def Call.isBilling : Call → Bool
  | .convertTrialToPaid .. | .updateCurrent .. | .recordEvent _ => true
  | _ => false

def Task.Issues (task : Task) : Call → Prop
  | .convertTrialToPaid tenantId paid => paid.tenantId = tenantId ∧ ∃ data,
      task.upsert = some data ∧ data.status ≠ .canceled ∧ paid.status = data.status ∧
        data.entitlement = some paid.entitlement
  | .updateCurrent _ status _ _ => ∃ data,
      task.upsert = some data ∧ data.status ≠ .canceled ∧ status = data.status
  | .recordEvent eventId => ∃ event, task = .applyEvent event ∧ event.id = eventId
  | _ => True

def Call.Plain (c : Call) : Prop := c.isBilling = false

/-- The calls of the tenant and identity services that touch neither licenses nor
networks. -/
def Call.Account : Call → Prop
  | .createTenant .. | .findTenant _ | .findTenantByEmail _ | .setDeregistered _
  | .findIdentity .. | .insertIdentity .. | .deleteSessionsForTenant _
  | .deleteIdentitiesForTenant _ | .publish _ => True
  | _ => False

/-- Those of them with which login resolution works. -/
def Call.Resolves : Call → Prop
  | .createTenant .. | .findTenantByEmail _ | .findIdentity .. | .insertIdentity ..
  | .publish _ => True
  | _ => False

def Call.isDeactivation : Call → Bool
  | .publish (.subscriptionDeactivated _) => true
  | _ => false

variable {c : Call} {ok : Call → Prop} {tenantId : String}

theorem Call.Resolves.account (h : c.Resolves) : c.Account := by
  cases c with
  | createTenant | findTenantByEmail | findIdentity | insertIdentity | publish => trivial
  | _ => cases h

theorem Call.Account.plain (h : c.Account) : c.Plain := by
  cases c with
  | convertTrialToPaid | updateCurrent | recordEvent => cases h
  | _ => rfl

theorem Call.Plain.issues (h : c.Plain) (task : Task) : task.Issues c := by
  cases c with
  | convertTrialToPaid | updateCurrent | recordEvent => cases h
  | _ => trivial

/-! ## Procedures that leave billing alone -/

theorem all_publish {ε : Type} {event : DomainEvent} (hpublish : ok (.publish event)) :
    (publish event : ExceptT ε Proc Unit).run.All ok :=
  ⟨hpublish, fun _ => trivial⟩

theorem all_orInternal {α : Type} {p : Proc (Except Failure α)} (hp : p.All ok) :
    (orInternal p).run.All ok :=
  hp.bind fun _ => trivial

theorem all_orTenantsError {α : Type} {p : ExceptT TenantsError Proc α} (hp : p.run.All ok) :
    (orTenantsError p).run.All ok :=
  hp.bind fun _ => trivial

theorem all_createTrial {config : Config} (hnow : ok .utcNow)
    (hcreate : ∀ sub : Subscription, sub.tenantId = tenantId → ok (.createTrial sub)) :
    (createTrial config tenantId).run.All ok :=
  ⟨hnow, fun _ => ⟨hcreate _ rfl, fun _ => trivial⟩⟩

theorem createTrial_plain (config : Config) (tenantId : String) :
    (createTrial config tenantId).run.All Call.Plain :=
  all_createTrial rfl fun _ _ => rfl

theorem all_cancel (hcancel : ok (.cancelCurrent tenantId))
    (hpublish : ok (.publish (.subscriptionDeactivated tenantId))) :
    (cancel tenantId).run.All ok := by
  apply exceptBind
  · exact ⟨hcancel, fun _ => trivial⟩
  · intro canceled
    cases canceled with
    | true => exact ⟨hpublish, fun _ => trivial⟩
    | false => trivial

theorem cancel_plain (tenantId : String) : (cancel tenantId).run.All Call.Plain :=
  all_cancel rfl rfl

theorem all_cancelAll (tenantIds : List String) : (cancelAll tenantIds).run.All Call.Plain := by
  induction tenantIds with
  | nil => trivial
  | cons tenantId tenantIds ih => exact (cancel_plain tenantId).exceptBind fun _ => ih

theorem all_expireOverdue (config : Config) : (expireOverdue config).run.All Call.Plain := by
  refine ⟨rfl, fun now => ?_⟩
  apply exceptBind
  · exact ⟨rfl, fun _ => trivial⟩
  · intro tenantIds
    exact (all_cancelAll tenantIds).exceptBind fun _ => trivial

section

/-! Login resolution sticks to a few calls and announces no end of a license. -/

variable {ok : Call → Prop} (hok : ∀ c : Call, c.Resolves → c.isDeactivation = false → ok c)

include hok

theorem all_registerTenant (config : Config) (id email : String) :
    (registerTenant config id email).run.All ok := by
  apply exceptBind
  · trivial
  intro email
  apply exceptBind
  · exact all_orInternal ⟨hok _ trivial rfl, fun _ => trivial⟩
  intro outcome
  cases outcome with
  | created => exact (all_publish (hok _ trivial rfl)).exceptBind fun _ => trivial
  | emailTaken => trivial

theorem all_findTenantByEmail (config : Config) (email : String) :
    (findTenantByEmail config email).run.All ok := by
  apply exceptBind
  · trivial
  · intro email
    exact all_orInternal ⟨hok _ trivial rfl, fun _ => trivial⟩

theorem all_resolveTenant (config : Config) (id email : String) :
    (resolveTenant config id email).run.All ok := by
  apply exceptBind
  · exact all_orTenantsError (all_findTenantByEmail hok config email)
  intro found
  cases found with
  | some tenantId => trivial
  | none =>
    apply exceptBind
    · exact (all_registerTenant hok config id email).bind fun _ => trivial
    intro registered
    split
    · trivial
    · apply exceptBind
      · exact all_orTenantsError (all_findTenantByEmail hok config email)
      intro winner
      cases winner with
      | some | none => trivial
    · trivial

theorem all_resolveIdentity (config : Config) (id : String) (verified : VerifiedIdentity)
    (secretHash : Option String) :
    (resolveIdentity config id verified secretHash).run.All ok := by
  apply exceptBind
  · exact all_orTenantsError (all_orInternal ⟨hok _ trivial rfl, fun _ => trivial⟩)
  intro existing
  cases existing with
  | some existing => trivial
  | none =>
    dsimp only
    split
    · trivial
    apply exceptBind
    · trivial
    intro email
    apply (all_resolveTenant hok config id email).exceptBind
    intro tenantId
    apply exceptBind
    · exact all_orTenantsError (all_orInternal ⟨hok _ trivial rfl, fun _ => trivial⟩)
    · intro _
      trivial

end

section

/-! The tenant and identity services stick to the calls of accounts and announce no
end of a license. -/

variable {ok : Call → Prop} (hok : ∀ c : Call, c.Account → c.isDeactivation = false → ok c)

include hok

theorem all_deregisterTenant (tenantId : String) : (deregisterTenant tenantId).run.All ok := by
  apply exceptBind
  · exact all_orInternal ⟨hok _ trivial rfl, fun _ => trivial⟩
  intro tenant
  cases tenant with
  | none => trivial
  | some tenant =>
    apply exceptBind
    · exact all_orInternal ⟨hok _ trivial rfl, fun _ => trivial⟩
    intro stamped
    cases stamped with
    | true => exact (all_publish (hok _ trivial rfl)).exceptBind fun _ => trivial
    | false => trivial

theorem all_purgeFor (tenantId : String) : (purgeFor tenantId).run.All ok := by
  apply exceptBind
  · exact ⟨hok _ trivial rfl, fun _ => trivial⟩
  intro _
  apply exceptBind
  · exact ⟨hok _ trivial rfl, fun _ => trivial⟩
  · intro _
    trivial

end

theorem all_deprovisionNetworksFor (tenantId : String) :
    (deprovisionNetworksFor tenantId).run.All Call.Plain := by
  apply exceptBind
  · exact all_orInternal ⟨rfl, fun _ => trivial⟩
  · intro _
    trivial

theorem all_registerNetwork {config : Config} {networkId publicKey slug region : String}
    {displayName : Option String}
    (htenant : ok (.findTenant tenantId)) (hcurrent : ok (.findCurrent tenantId))
    (hregister : ∀ (row : NetworkRow) (maxNetworks maxDaemons : ℕ), row.tenantId = tenantId →
      ok (.registerNetwork networkId row publicKey maxNetworks maxDaemons)) :
    (registerNetwork config networkId tenantId publicKey slug displayName region).run.All ok := by
  unfold registerNetwork
  split
  · trivial
  dsimp only [pure_bind]
  split
  · trivial
  apply exceptBind
  · exact all_orInternal ⟨htenant, fun _ => trivial⟩
  intro tenant
  cases tenant with
  | none => trivial
  | some tenant =>
    apply exceptBind
    · exact all_orInternal ⟨hcurrent, fun _ => trivial⟩
    intro current
    cases current with
    | none => trivial
    | some sub =>
      apply exceptBind
      · exact all_orInternal ⟨hregister _ _ _ rfl, fun _ => trivial⟩
      intro outcome
      cases outcome with
      | created | slugTaken | networkLimit | daemonLimit | daemonExists => trivial

theorem all_reconcileTenant (config : Config) (tenantId : String) :
    (reconcileTenant config tenantId).run.All Call.Plain := by
  apply exceptBind
  · exact ⟨rfl, fun _ => trivial⟩
  intro current
  cases current with
  | some sub => trivial
  | none =>
    apply (createTrial_plain config tenantId).exceptBind
    intro opened
    cases opened with
    | true => trivial
    | false =>
      apply exceptBind
      · exact ⟨rfl, fun _ => trivial⟩
      · intro _
        trivial

theorem all_reconcileAll (config : Config) (tenantIds : List String) :
    (reconcileAll config tenantIds).run.All Call.Plain := by
  induction tenantIds with
  | nil => trivial
  | cons tenantId tenantIds ih =>
    exact (all_reconcileTenant config tenantId).exceptBind fun _ => ih

theorem all_reconcile (config : Config) : (reconcile config).run.All Call.Plain := by
  apply exceptBind
  · exact ⟨rfl, fun _ => trivial⟩
  · exact all_reconcileAll config

/-! ## The handlers -/

section

variable {ok : Call → Prop} {data : SubscriptionData}

theorem all_recordRef {tenantId : String} (href : ok (.upsertSubscription tenantId
    data.stripeCustomerId data.stripeSubscriptionId data.priceId)) :
    (recordRef tenantId data).run.All ok :=
  ⟨href, fun _ => trivial⟩

theorem all_grant_convert {tenantId : String}
    (href : ok (.upsertSubscription tenantId data.stripeCustomerId data.stripeSubscriptionId
      data.priceId))
    (hconvert : ∀ entitlement, data.entitlement = some entitlement →
      ok (.convertTrialToPaid tenantId
        ⟨tenantId, data.status, entitlement, none, data.currentPeriodEnd⟩)) :
    (grant.convert tenantId data).run.All ok := by
  unfold grant.convert
  split
  · trivial
  · rename_i entitlement hentitlement
    apply (all_recordRef href).exceptBind
    intro _
    exact ⟨hconvert entitlement hentitlement, fun _ => trivial⟩

theorem all_grant {tenantId : String} (hread : ok (.findCurrent tenantId))
    (href : ok (.upsertSubscription tenantId data.stripeCustomerId data.stripeSubscriptionId
      data.priceId))
    (hpatch : ∀ entitlement,
      ok (.updateCurrent tenantId data.status entitlement data.currentPeriodEnd))
    (hconvert : ∀ entitlement, data.entitlement = some entitlement →
      ok (.convertTrialToPaid tenantId
        ⟨tenantId, data.status, entitlement, none, data.currentPeriodEnd⟩)) :
    (grant tenantId data).run.All ok := by
  apply exceptBind
  · exact ⟨hread, fun _ => trivial⟩
  intro current
  cases current with
  | none => exact all_grant_convert href hconvert
  | some sub =>
    dsimp only
    split
    · apply (all_recordRef href).exceptBind
      intro _
      apply exceptBind
      · exact ⟨hpatch _, fun _ => trivial⟩
      · intro _
        trivial
    · exact all_grant_convert href hconvert

theorem all_applyUpsert (hread : ok (.tenantForSubscription data.stripeSubscriptionId))
    (hcancel : ∀ tenantId, (cancel tenantId).run.All ok)
    (hgrant : data.status ≠ .canceled → ∀ tenantId, (grant tenantId data).run.All ok) :
    (applyUpsert data).run.All ok := by
  apply exceptBind
  · exact ⟨hread, fun _ => trivial⟩
  intro known
  split
  · trivial
  · rename_i tenantId htenant
    split
    · cases known with
      | none => trivial
      | some known => exact hcancel known
    · rename_i hlive
      exact hgrant hlive tenantId

theorem all_forRecorded {stripeSubscriptionId : String} {act : String → Service Unit}
    (hread : ok (.tenantForSubscription stripeSubscriptionId))
    (hact : ∀ tenantId, (act tenantId).run.All ok) :
    (forRecorded stripeSubscriptionId act).run.All ok := by
  apply exceptBind
  · exact ⟨hread, fun _ => trivial⟩
  intro known
  cases known with
  | none => trivial
  | some tenantId => exact hact tenantId

theorem all_markPastDue {tenantId : String} (hmark : ok (.markPastDueCurrent tenantId)) :
    (do let _ ← markPastDue tenantId : Service Unit).run.All ok := by
  apply exceptBind
  · exact ⟨hmark, fun _ => trivial⟩
  · intro _
    trivial

theorem all_applyEvent (event : StripeEvent) (hread : ok (.isEventProcessed event.id))
    (hkind : (applyEventKind event.kind).run.All ok) (hrecord : ok (.recordEvent event.id)) :
    (applyEvent event).run.All ok := by
  apply exceptBind
  · exact ⟨hread, fun _ => trivial⟩
  intro processed
  cases processed with
  | true => trivial
  | false =>
    apply hkind.exceptBind
    intro _
    exact ⟨hrecord, fun _ => trivial⟩

theorem applyEventKind_issues (event : StripeEvent) :
    (applyEventKind event.kind).run.All (Task.applyEvent event).Issues := by
  cases hkind : event.kind with
  | subscriptionUpsert data =>
    have htask : (Task.applyEvent event).upsert = some data := by
      cases event
      cases hkind
      rfl
    apply all_applyUpsert trivial (fun _ => all_cancel trivial trivial)
    intro hlive tenantId
    apply all_grant trivial trivial (fun _ => ⟨data, htask, hlive, rfl⟩)
    intro entitlement hentitlement
    exact ⟨rfl, data, htask, hlive, rfl, hentitlement⟩
  | subscriptionDeleted id => exact all_forRecorded trivial fun _ => all_cancel trivial trivial
  | paymentFailed id => exact all_forRecorded trivial fun _ => all_markPastDue trivial
  | cardSetupCompleted customer setupIntent =>
    apply exceptBind
    · exact ⟨trivial, fun _ => trivial⟩
    · intro _
      exact ⟨trivial, fun _ => trivial⟩
  | catalogChanged => exact ⟨trivial, fun _ => trivial⟩
  | ignored => trivial

end

/-- Every task issues the calls it may issue. -/
theorem Task.body_issues (config : Config) (task : Task) : (task.body config).All task.Issues := by
  have plain : ∀ {α : Type} {p : Proc α}, p.All Call.Plain → (discard p).All task.Issues :=
    fun hp => (hp.mono fun c h => h.issues task).bind fun _ => trivial
  have account : ∀ c : Call, c.Account → c.isDeactivation = false → c.Plain :=
    fun _ h _ => h.plain
  have resolves : ∀ c : Call, c.Resolves → c.isDeactivation = false → c.Plain :=
    fun c hc => account c hc.account
  cases task with
  | expireOverdue => exact plain (all_expireOverdue config)
  | applyEvent event =>
    exact (all_applyEvent event trivial (applyEventKind_issues event) ⟨event, rfl, rfl⟩).bind
      fun _ => trivial
  | cancel tenantId => exact plain (cancel_plain tenantId)
  | applyToSubscription event =>
    cases event with
    | tenantCreated tenantId => exact plain (createTrial_plain config tenantId)
    | tenantDeregistered tenantId => exact plain (cancel_plain tenantId)
    | subscriptionDeactivated tenantId => trivial
  | applyToNetwork event =>
    cases event with
    | subscriptionDeactivated tenantId => exact plain (all_deprovisionNetworksFor tenantId)
    | tenantCreated | tenantDeregistered => trivial
  | applyToIdentities event =>
    cases event with
    | tenantDeregistered tenantId => exact plain (all_purgeFor account tenantId)
    | tenantCreated | subscriptionDeactivated => trivial
  | registerTenant id email => exact plain (all_registerTenant resolves config id email)
  | resolveIdentity id verified secretHash =>
    exact plain (all_resolveIdentity resolves config id verified secretHash)
  | deregisterTenant tenantId => exact plain (all_deregisterTenant account tenantId)
  | registerNetwork =>
    exact plain (all_registerNetwork rfl rfl fun _ _ _ _ => rfl)
  | reconcile => exact plain (all_reconcile config)
  | sweepDeregistered => exact ⟨trivial, fun _ => trivial⟩

end Wardnet.Authority

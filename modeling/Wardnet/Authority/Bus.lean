/-
# Operations and event deliveries

The operations on tenants run one at a time, and the events they publish reach the
reactors at any later time. A schedule says what happens in which order, and which
deliveries are lost. It is run twice: the lossy run skips the lost deliveries, the
complete run makes them all. Both runs see the same clock, and no call fails.
-/

import Wardnet.Authority.World

namespace Wardnet.Authority

open Base Billing Subscriptions Tenants

/-- The operations: tenant creation, by an administrator or by the first login,
deregistration, the cancel of a subscription, and network registration. -/
inductive Op
  | registerTenant (id email : String)
  | resolveIdentity (id : String) (verified : VerifiedIdentity) (secretHash : Option String)
  | deregisterTenant (tenantId : String)
  | cancel (tenantId : String)
  | registerNetwork (networkId tenantId publicKey slug : String) (displayName : Option String)
      (region : String)

def Op.task : Op → Task
  | .registerTenant id email => .registerTenant id email
  | .resolveIdentity id verified secretHash => .resolveIdentity id verified secretHash
  | .deregisterTenant tenantId => .deregisterTenant tenantId
  | .cancel tenantId => .cancel tenantId
  | .registerNetwork networkId tenantId publicKey slug displayName region =>
    .registerNetwork networkId tenantId publicKey slug displayName region

def DomainEvent.tenantId : DomainEvent → String
  | .tenantCreated tenantId => tenantId
  | .tenantDeregistered tenantId => tenantId
  | .subscriptionDeactivated tenantId => tenantId

def react (config : Config) (event : DomainEvent) : Proc Unit := do
  applyToSubscription config event
  applyToNetwork event
  applyToIdentities event

/-- One entry of a schedule. The choices answer what the calls leave open. -/
inductive Item
  | op (op : Op) (choices : Call → Choice)
  | deliver (event : DomainEvent) (kept : Bool) (choices : Call → Choice)

def answer (choices : Call → Choice) (c : Call) (s : Database) : Option (c.Resp × Database) :=
  Database.perform (choices c) c s

/-- The run that skips the lost deliveries, with the events lost so far. -/
def lossy (config : Config) : System (List DomainEvent × Database) Item where
  step
    | (dropped, s), .op op choices =>
      ((op.task.body config).runWith (answer choices) s).map fun out => (dropped, out.2)
    | (dropped, s), .deliver event true choices =>
      -- A run in which earlier events were lost may not have published this one.
      if event ∈ s.published then
        ((react config event).runWith (answer choices) s).map fun out => (dropped, out.2)
      else some (dropped, s)
    | (dropped, s), .deliver event false _ => some (event :: dropped, s)

/-- The run that makes every delivery, with the events delivered so far. Only what
was published can be delivered, and only once. -/
def complete (config : Config) : System (List DomainEvent × Database) Item where
  step
    | (delivered, s), .op op choices =>
      ((op.task.body config).runWith (answer choices) s).map fun out => (delivered, out.2)
    | (delivered, s), .deliver event _ choices =>
      if event ∈ s.published ∧ event ∉ delivered then
        ((react config event).runWith (answer choices) s).map
          fun out => (event :: delivered, out.2)
      else none

theorem runs_discard {α : Type} {p : Proc α}
    {step : (c : Call) → Database → c.Resp → Database → Prop} {s s' : Database} {result : Unit}
    (hrun : (discard p).Runs step s result s') : ∃ value, p.Runs step s value s' := by
  obtain ⟨value, _, hp, -, rfl⟩ := (Prog.runs_bind _).mp hrun
  exact ⟨value, hp⟩

section

variable {step : (c : Call) → Database → c.Resp → Database → Prop} {config : Config}
  {tenantId : String} {s s' : Database} {result : Unit}

theorem runs_react_tenantCreated
    (hrun : (react config (.tenantCreated tenantId)).Runs step s result s') :
    ∃ value, (createTrial config tenantId).run.Runs step s value s' := by
  obtain ⟨_, _, htrial, -, rfl⟩ := (Prog.runs_bind _).mp hrun
  exact runs_discard htrial

theorem runs_react_tenantDeregistered
    (hrun : (react config (.tenantDeregistered tenantId)).Runs step s result s') :
    ∃ value t value', (cancel tenantId).run.Runs step s value t ∧
      (purgeFor tenantId).run.Runs step t value' s' := by
  obtain ⟨_, t, hcancel, hpurge⟩ := (Prog.runs_bind _).mp hrun
  obtain ⟨value, hcancel⟩ := runs_discard hcancel
  obtain ⟨value', hpurge⟩ := runs_discard hpurge
  exact ⟨value, t, value', hcancel, hpurge⟩

theorem runs_react_subscriptionDeactivated
    (hrun : (react config (.subscriptionDeactivated tenantId)).Runs step s result s') :
    ∃ value, (deprovisionNetworksFor tenantId).run.Runs step s value s' := by
  obtain ⟨_, _, ⟨-, rfl⟩, hrest⟩ := (Prog.runs_bind _).mp hrun
  obtain ⟨_, _, hslate, -, rfl⟩ := (Prog.runs_bind _).mp hrest
  exact runs_discard hslate

end

/-- The condition on a lossy run. Nothing about a deregistered tenant is lost; a
tenant whose creation event was lost sees no cancel and no network registration;
a tenant whose deactivation event was lost is not deregistered. -/
def Careful : List DomainEvent × Database → Item → Prop
  | (dropped, _), .op (.deregisterTenant tenantId) _ =>
    .subscriptionDeactivated tenantId ∉ dropped
  | (dropped, _), .op (.cancel tenantId) _ => .tenantCreated tenantId ∉ dropped
  | (dropped, _), .op (.registerNetwork _ tenantId ..) _ => .tenantCreated tenantId ∉ dropped
  | _, .op (.registerTenant ..) _ => True
  | _, .op (.resolveIdentity ..) _ => True
  | _, .deliver _ true _ => True
  | _, .deliver (.tenantDeregistered _) false _ => False
  | (_, s), .deliver (.tenantCreated tenantId) false _ => s.tenants.isLive tenantId = true
  | (_, s), .deliver (.subscriptionDeactivated tenantId) false _ =>
    s.tenants.isLive tenantId = true

instance : ∀ s item, Decidable (Careful s item)
  | (_, _), .op (.deregisterTenant _) _ => inferInstanceAs (Decidable (_ ∉ _))
  | (_, _), .op (.cancel _) _ => inferInstanceAs (Decidable (_ ∉ _))
  | (_, _), .op (.registerNetwork ..) _ => inferInstanceAs (Decidable (_ ∉ _))
  | _, .op (.registerTenant ..) _ => inferInstanceAs (Decidable True)
  | _, .op (.resolveIdentity ..) _ => inferInstanceAs (Decidable True)
  | _, .deliver _ true _ => inferInstanceAs (Decidable True)
  | _, .deliver (.tenantDeregistered _) false _ => inferInstanceAs (Decidable False)
  | (_, _), .deliver (.tenantCreated _) false _ => inferInstanceAs (Decidable (_ = true))
  | (_, _), .deliver (.subscriptionDeactivated _) false _ => inferInstanceAs (Decidable (_ = true))

end Wardnet.Authority

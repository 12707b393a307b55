/-
# Two runs of one schedule

The lossy and the complete run of a schedule agree on tenants, login methods,
sessions and daemons. They differ only in the licenses of the tenants whose
creation event was lost, and in the states of the networks of the tenants whose
deactivation event was lost. A procedure that touches neither is answered alike in
both runs, call by call.
-/

import Wardnet.Authority.Bus
import Wardnet.Authority.Effects

namespace Wardnet.Authority

open Base Billing Subscriptions Tenants NetworkTable List SubscriptionTable

/-- The networks of the tenants whose deactivation was lost are slated for teardown
in the complete run. -/
def slate (dropped : List DomainEvent) (_ : String) (row : NetworkRow) : NetworkRow :=
  if .subscriptionDeactivated row.tenantId ∈ dropped then
    { row with provisioningState := .deprovisioning }
  else row

/-- The fleet of the complete run, from that of the lossy run. -/
def slateFleet (dropped : List DomainEvent) (fleet : Fleet) : Fleet :=
  ⟨fleet.networks.modify (slate dropped), fleet.daemons, fleet.pending⟩

/-- The lossy run `a` and the complete run `b` after the same schedule. -/
structure Alike (dropped : List DomainEvent) (a b : Database) : Prop where
  tenants : b.tenants = a.tenants
  identities : b.identities = a.identities
  sessions : b.sessions = a.sessions
  fleet : b.fleet = slateFleet dropped a.fleet
  current : ∀ tenantId, .tenantCreated tenantId ∉ dropped →
    b.subscriptions.findCurrent tenantId = a.subscriptions.findCurrent tenantId
  history : ∀ tenantId, .tenantCreated tenantId ∉ dropped →
    b.subscriptions.hasHistory tenantId = a.subscriptions.hasHistory tenantId
  untried : ∀ tenantId, .tenantCreated tenantId ∈ dropped →
    a.subscriptions.hasHistory tenantId = false
  published : ∀ event ∈ b.published, event ∈ a.published ∨
    ∃ tenantId, event = .subscriptionDeactivated tenantId ∧ .tenantCreated tenantId ∈ dropped

def Call.Alike (dropped : List DomainEvent) : Call → Prop
  | .findCurrent tenantId | .cancelCurrent tenantId => .tenantCreated tenantId ∉ dropped
  | .createTrial sub => .tenantCreated sub.tenantId ∉ dropped
  | .registerNetwork _ row _ _ _ => .subscriptionDeactivated row.tenantId ∉ dropped
  | .utcNow | .createTenant .. | .findTenant _ | .findTenantByEmail _ | .setDeregistered _
  | .findIdentity .. | .insertIdentity .. | .deleteSessionsForTenant _
  | .deleteIdentitiesForTenant _ | .publish _ => True
  | _ => False

theorem slate_tenantId (dropped : List DomainEvent) (id : String) (row : NetworkRow) :
    (slate dropped id row).tenantId = row.tenantId := by
  unfold slate
  split <;> rfl

theorem slate_slug (dropped : List DomainEvent) (id : String) (row : NetworkRow) :
    (slate dropped id row).slug = row.slug := by
  unfold slate
  split <;> rfl

variable {dropped : List DomainEvent} {choice : Choice} {a b a' b' : Database}

/-- A registration does not depend on the states of the registered networks. -/
theorem registerNetwork_slateFleet (fleet : Fleet) {networkId publicKey : String}
    {row : NetworkRow} {maxNetworks maxDaemons : ℕ}
    (hrow : .subscriptionDeactivated row.tenantId ∉ dropped) :
    (slateFleet dropped fleet).registerNetwork networkId row publicKey maxNetworks maxDaemons =
      (fleet.registerNetwork networkId row publicKey maxNetworks maxDaemons).map fun out =>
        (out.1, slateFleet dropped out.2) := by
  have hcount : ((fleet.networks.modify (slate dropped)).select
      fun _ r => r.tenantId = row.tenantId).length =
        (fleet.networks.select fun _ r => r.tenantId = row.tenantId).length :=
    Store.length_select_modify _ fun k v => by simp only [slate_tenantId]
  have hcontains : (fleet.networks.modify (slate dropped)).contains networkId =
      fleet.networks.contains networkId := by
    simp [Store.contains]
  have hslug : slugFree (fleet.networks.modify (slate dropped)) row.slug =
      slugFree fleet.networks row.slug := by
    have hlength := Store.length_select_modify fleet.networks (f := slate dropped)
      (p := fun _ r => decide (r.slug = row.slug)) fun k v => by simp only [slate_slug]
    rw [Bool.eq_iff_iff]
    simp only [slugFree, isEmpty_iff_length_eq_zero, hlength]
  simp only [Fleet.registerNetwork, slateFleet, hcount, hcontains, hslug]
  split
  · rfl
  split
  · rfl
  split
  · rfl
  split
  · rfl
  split
  · rfl
  rename_i hfresh
  split
  · rfl
  have hnone : fleet.networks.get? networkId = none := by simpa [Store.contains] using hfresh
  rw [Store.insert_modify hnone (if_neg hrow)]
  by_cases hkey : fleet.daemons.contains publicKey = true
  · rw [if_pos hkey]
    exact if_pos hkey
  · rw [if_neg hkey]
    exact if_neg hkey

section

variable (h : Alike dropped a b)
include h

theorem Alike.tenantExists (tenantId : String) :
    b.tenantExists tenantId = a.tenantExists tenantId := by
  rw [Database.tenantExists, Database.tenantExists, h.tenants]

theorem Alike.published_append (event : DomainEvent) :
    ∀ e ∈ b.published ++ [event], e ∈ a.published ++ [event] ∨
      ∃ tenantId, e = .subscriptionDeactivated tenantId ∧ .tenantCreated tenantId ∈ dropped := by
  intro e he
  rcases mem_append.mp he with hold | hnew
  · exact (h.published e hold).imp (mem_append_left _) fun hlost => hlost
  · exact .inl (mem_append_right _ hnew)

theorem Alike.current_cancelCurrent (tenantId : String) :
    Alike dropped { a with subscriptions := (a.subscriptions.cancelCurrent tenantId).2 }
      { b with subscriptions := (b.subscriptions.cancelCurrent tenantId).2 } := by
  refine { h with current := fun n hn => ?_, history := fun n hn => ?_, untried := fun n hn => ?_ }
  · simp [h.current n hn]
  · simpa [cancelCurrent] using h.history n hn
  · simpa [cancelCurrent] using h.untried n hn

theorem Alike.createTrial {sub : Subscription} (hsub : .tenantCreated sub.tenantId ∉ dropped) :
    Alike dropped { a with subscriptions := (a.subscriptions.createTrial sub).2 }
      { b with subscriptions := (b.subscriptions.createTrial sub).2 } := by
  refine { h with current := fun n hn => ?_, history := fun n hn => ?_, untried := fun n hn => ?_ }
  · simp only [findCurrent_createTrial, h.current n hn, h.history n hn]
  · simp only [hasHistory_createTrial, h.history n hn]
  · have hne : sub.tenantId ≠ n := fun heq => hsub (heq ▸ hn)
    simp [h.untried n hn, hne]

theorem Alike.ifTenant {α : Type} {tenantId : String} {value : α} {s t : Database}
    {r r' : Except Failure α} (hout : Alike dropped s t)
    (ha : some (a.ifTenant tenantId (value, s)) = some (r, a'))
    (hb : some (b.ifTenant tenantId (value, t)) = some (r', b')) :
    r' = r ∧ Alike dropped a' b' := by
  simp only [Database.ifTenant, h.tenantExists] at ha hb
  split at ha
  · rename_i hexists
    rw [if_pos hexists] at hb
    cases ha
    cases hb
    exact ⟨rfl, hout⟩
  · rename_i hexists
    rw [if_neg hexists] at hb
    cases ha
    cases hb
    exact ⟨rfl, h⟩

/-- The two runs answer such a call alike and stay alike. -/
theorem Alike.perform {c : Call} {r r' : c.Resp} (hcall : c.Alike dropped)
    (ha : Database.perform choice c a = some (r, a'))
    (hb : Database.perform choice c b = some (r', b')) : r' = r ∧ Alike dropped a' b' := by
  cases c with
  | utcNow =>
    cases ha
    cases hb
    exact ⟨rfl, h⟩
  | findCurrent tenantId =>
    cases ha
    cases hb
    exact ⟨congrArg _ (h.current tenantId hcall), h⟩
  | cancelCurrent tenantId =>
    cases ha
    cases hb
    refine ⟨?_, h.current_cancelCurrent tenantId⟩
    simp only [SubscriptionTable.cancelCurrent, SubscriptionTable.patchCurrent_fst,
      h.current tenantId hcall]
  | createTrial sub =>
    have hhistory := h.history sub.tenantId hcall
    have hsame : (b.subscriptions.createTrial sub).1 = (a.subscriptions.createTrial sub).1 := by
      simp only [SubscriptionTable.createTrial, hhistory]
      split <;> rfl
    simp only [Database.perform, hsame] at ha hb
    split at ha
    · rename_i hopened
      rw [if_pos hopened] at hb
      exact h.ifTenant (h.createTrial hcall) ha hb
    · rename_i hopened
      rw [if_neg hopened] at hb
      cases ha
      cases hb
      exact ⟨rfl, h⟩
  | createTenant id email =>
    simp only [Database.perform, h.tenants] at ha hb
    split at ha
    · rename_i out hcreate
      rw [hcreate] at hb
      cases ha
      cases hb
      exact ⟨rfl, { h with tenants := rfl }⟩
    · rename_i hcreate
      rw [hcreate] at hb
      cases ha
      cases hb
      exact ⟨rfl, h⟩
  | findTenant | findTenantByEmail =>
    cases ha
    cases hb
    exact ⟨by rw [h.tenants], h⟩
  | setDeregistered id =>
    cases ha
    cases hb
    exact ⟨by rw [h.tenants], { h with tenants := by rw [h.tenants] }⟩
  | registerNetwork networkId row publicKey maxNetworks maxDaemons =>
    simp only [Database.perform, h.fleet, registerNetwork_slateFleet _ hcall] at ha hb
    cases hregister : a.fleet.registerNetwork networkId row publicKey maxNetworks maxDaemons with
    | none =>
      simp only [hregister, Option.map_none, Option.some.injEq, Prod.mk.injEq] at ha hb
      obtain ⟨rfl, rfl⟩ := ha
      obtain ⟨rfl, rfl⟩ := hb
      exact ⟨rfl, h⟩
    | some out =>
      obtain ⟨outcome, fleet⟩ := out
      simp only [hregister, Option.map_some] at ha hb
      cases outcome with
      | created =>
        have hout : Alike dropped { a with fleet } { b with fleet := slateFleet dropped fleet } :=
          { h with fleet := rfl }
        exact h.ifTenant hout ha hb
      | daemonExists => exact h.ifTenant h ha hb
      | slugTaken | networkLimit | daemonLimit =>
        cases ha
        cases hb
        exact ⟨rfl, h⟩
  | findIdentity provider subject =>
    cases ha
    cases hb
    exact ⟨by rw [h.identities], h⟩
  | insertIdentity provider subject identity =>
    simp only [Database.perform, h.identities] at ha hb
    split at ha
    · rename_i identities hinsert
      rw [hinsert] at hb
      have hout : Alike dropped { a with identities } { b with identities } :=
        { h with identities := rfl }
      exact h.ifTenant hout ha hb
    · rename_i hinsert
      rw [hinsert] at hb
      cases ha
      cases hb
      exact ⟨rfl, h⟩
  | deleteSessionsForTenant tenantId =>
    cases ha
    cases hb
    exact ⟨by rw [h.sessions], { h with sessions := by rw [h.sessions] }⟩
  | deleteIdentitiesForTenant tenantId =>
    cases ha
    cases hb
    exact ⟨by rw [h.identities], { h with identities := by rw [h.identities] }⟩
  | publish event =>
    cases ha
    cases hb
    exact ⟨rfl, { h with published := h.published_append event }⟩
  | _ => cases hcall

end

/-! ## Operations -/

theorem Call.Account.alike {c : Call} (h : c.Account) : c.Alike dropped := by
  cases c with
  | createTenant | findTenant | findTenantByEmail | setDeregistered | findIdentity
  | insertIdentity | deleteSessionsForTenant | deleteIdentitiesForTenant | publish => trivial
  | _ => cases h

def Answered (choices : Call → Choice) (c : Call) (s : Database) (r : c.Resp) (s' : Database) :
    Prop :=
  answer choices c s = some (r, s')

section

variable {choices : Call → Choice} {α : Type} {p : Proc α}

theorem runs_answered {s s' : Database} {result : α}
    (hrun : p.runWith (answer choices) s = some (result, s')) :
    p.Runs (Answered choices) s result s' :=
  Prog.runs_of_runWith _ (fun _ _ _ _ h => h) hrun

theorem succeeds_of_answered {s s' : Database} {result : α}
    (hrun : p.Runs (Answered choices) s result s') : p.Runs Database.Succeeds s result s' :=
  Prog.Runs.mono _ (fun c _ _ _ h => ⟨choices c, h⟩) hrun

theorem Alike.runs {result result' : α} (h : Alike dropped a b) (hall : p.All (Call.Alike dropped))
    (ha : p.Runs (Answered choices) a result a') (hb : p.Runs (Answered choices) b result' b') :
    Alike dropped a' b' := by
  have hstep : ∀ c s t r r' s' t', Call.Alike dropped c → Alike dropped s t →
      Answered choices c s r s' → Answered choices c t r' t' → r' = r ∧ Alike dropped s' t' :=
    fun _ _ _ _ _ _ _ hcall hrel hs ht => hrel.perform hcall hs ht
  exact (Prog.Runs.lockstep _ hstep hall ha hb h).2

end

/-- A cancel keeps the runs alike even where only one of them has a license to
end. -/
theorem Alike.cancel {tenantId : String} {result result' : Except Failure Unit}
    (h : Alike dropped a b) (ha : (cancel tenantId).run.Runs Database.Succeeds a result a')
    (hb : (cancel tenantId).run.Runs Database.Succeeds b result' b') : Alike dropped a' b' := by
  rw [cancel_effect ha, cancel_effect hb]
  refine { h.current_cancelCurrent tenantId with published := fun e he => ?_ }
  rcases mem_append.mp he with hold | hnew
  · exact (h.published e hold).imp (mem_append_left _) fun hlost => hlost
  · split at hnew
    · cases hnew
    · rename_i hlicensed
      obtain rfl := mem_singleton.mp hnew
      by_cases hlost : .tenantCreated tenantId ∈ dropped
      · exact .inr ⟨tenantId, rfl, hlost⟩
      · rw [h.current tenantId hlost] at hlicensed
        left
        apply mem_append_right
        rw [if_neg hlicensed]
        exact mem_singleton_self _

section

variable {tenantId : String}

/-- A lost signup: the complete run opens the trial. -/
theorem Alike.lose_tenantCreated (h : Alike dropped a b) {sub : Subscription}
    (hsub : sub.tenantId = tenantId) (hfirst : b.subscriptions.hasHistory tenantId = false) :
    Alike (.tenantCreated tenantId :: dropped) a
      { b with subscriptions := (b.subscriptions.createTrial sub).2 } := by
  have hslate : slate (.tenantCreated tenantId :: dropped) = slate dropped := by
    funext id row
    simp [slate]
  refine { h with fleet := ?_, current := ?_, history := ?_, untried := ?_, published := ?_ }
  · rw [h.fleet, slateFleet, slateFleet, hslate]
  · intro n hn
    simp only [mem_cons, DomainEvent.tenantCreated.injEq, not_or] at hn
    have hother : sub.isCurrent n = false := by
      simp [Subscription.isCurrent, hsub, Ne.symm hn.1]
    simp [findCurrent_createTrial, hother, h.current n hn.2]
  · intro n hn
    simp only [mem_cons, DomainEvent.tenantCreated.injEq, not_or] at hn
    simp [hsub, Ne.symm hn.1, h.history n hn.2]
  · intro n hn
    by_cases hlost : .tenantCreated n ∈ dropped
    · exact h.untried n hlost
    · obtain heq | hmem := mem_cons.mp hn
      · cases heq
        rw [← h.history tenantId hlost]
        exact hfirst
      · exact absurd hmem hlost
  · intro e he
    exact (h.published e he).imp_right fun ⟨n, hevent, hlost⟩ =>
      ⟨n, hevent, mem_cons_of_mem _ hlost⟩

/-- A lost deactivation: the complete run slates the networks of the tenant. -/
theorem Alike.lose_subscriptionDeactivated (h : Alike dropped a b) :
    Alike (.subscriptionDeactivated tenantId :: dropped) a (b.slated tenantId) := by
  have hcreated : ∀ n, DomainEvent.tenantCreated n ∈ .subscriptionDeactivated tenantId :: dropped ↔
      .tenantCreated n ∈ dropped := by simp
  refine { h with fleet := ?_, current := ?_, history := ?_, untried := ?_, published := ?_ }
  · simp only [Database.slated, h.fleet, slateFleet, setDeprovisioningForTenant_snd,
      Store.modify_modify, slate_tenantId]
    congr
    funext _ row
    by_cases htenant : row.tenantId = tenantId <;>
      by_cases hlost : .subscriptionDeactivated row.tenantId ∈ dropped <;>
      simp_all [slate]
  · intro n hn
    exact h.current n (mt (hcreated n).mpr hn)
  · intro n hn
    exact h.history n (mt (hcreated n).mpr hn)
  · intro n hn
    exact h.untried n ((hcreated n).mp hn)
  · intro e he
    apply (h.published e he).imp_right
    rintro ⟨n, hevent, hlost⟩
    exact ⟨n, hevent, mem_cons_of_mem _ hlost⟩

theorem Alike.slated (h : Alike dropped a b) :
    Alike dropped (a.slated tenantId) (b.slated tenantId) := by
  refine { h with fleet := ?_ }
  simp only [Database.slated, h.fleet, slateFleet, setDeprovisioningForTenant_snd,
    Store.modify_modify, slate_tenantId]
  congr
  funext _ row
  by_cases htenant : row.tenantId = tenantId <;>
    by_cases hlost : .subscriptionDeactivated row.tenantId ∈ dropped <;>
    simp_all [slate]

end

end Wardnet.Authority

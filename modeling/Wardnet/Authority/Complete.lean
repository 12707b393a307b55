/-
# The run in which nothing is lost

What holds between tenants, licenses, networks and published events while every
event is delivered once, and at any later time. An event that was published and is
not delivered yet is pending, and accounts for whatever the reactors still have to
do.
-/

import Wardnet.Authority.Bus
import Wardnet.Authority.Effects

namespace Wardnet.Authority

open Base Billing Subscriptions Tenants SubscriptionTable List

def Pending (delivered : List DomainEvent) (s : Database) (event : DomainEvent) : Prop :=
  event ∈ s.published ∧ event ∉ delivered

/-- The invariant of a run that delivers every event. -/
structure Healthy (delivered : List DomainEvent) (s : Database) : Prop where
  /-- A live tenant has had its trial, or will get it. -/
  trial : ∀ n, s.tenants.isLive n = true →
    s.subscriptions.hasHistory n = true ∨ Pending delivered s (.tenantCreated n)
  /-- A license comes from the trial, and the trial from the signup. -/
  created : ∀ n, s.subscriptions.hasHistory n = true → .tenantCreated n ∈ delivered
  /-- A network of a tenant without a license is being torn down, or will be. -/
  torn : ∀ id row, s.fleet.networks.get? id = some row →
    row.provisioningState ≠ .deprovisioning → s.subscriptions.findCurrent row.tenantId ≠ none ∨
      Pending delivered s (.subscriptionDeactivated row.tenantId)
  /-- A tenant with a network has had a license. -/
  served : ∀ id row, s.fleet.networks.get? id = some row →
    s.subscriptions.hasHistory row.tenantId = true
  /-- A license that has ended stays ended. -/
  deactivated : ∀ n, .subscriptionDeactivated n ∈ s.published →
    s.subscriptions.findCurrent n = none ∧ s.subscriptions.hasHistory n = true
  /-- A tenant that signed up is there. -/
  known : ∀ n, .tenantCreated n ∈ s.published → s.tenantExists n = true
  /-- A tenant that was deregistered is tombstoned. -/
  closed : ∀ n, .tenantDeregistered n ∈ s.published →
    s.tenantExists n = true ∧ s.tenants.isLive n = false
  /-- Only what was published is delivered. -/
  delivered : ∀ event ∈ delivered, event ∈ s.published

theorem Healthy.empty : Healthy [] .empty where
  trial := nofun
  created := nofun
  torn := nofun
  served := nofun
  deactivated := nofun
  known := nofun
  closed := nofun
  delivered := nofun

variable {delivered : List DomainEvent} {s s' : Database} {event : DomainEvent}

theorem Pending.mono (h : Pending delivered s event)
    (hpublished : ∀ e ∈ s.published, e ∈ s'.published) : Pending delivered s' event :=
  ⟨hpublished event h.1, h.2⟩

theorem Pending.cons {other : DomainEvent} (h : Pending delivered s event) (hne : event ≠ other) :
    Pending (other :: delivered) s event :=
  ⟨h.1, by simp [hne, h.2]⟩

/-! ## Operations -/

section

variable (h : Healthy delivered s)
include h

/-- An operation on the account of a tenant announces no deactivation and leaves
licenses and networks alone. -/
theorem Healthy.accounts (events : List DomainEvent)
    (hsubscriptions : s'.subscriptions = s.subscriptions) (hfleet : s'.fleet = s.fleet)
    (hpublished : s'.published = s.published ++ events)
    (hquiet : ∀ n, .subscriptionDeactivated n ∉ events)
    (htrial : ∀ n, s'.tenants.isLive n = true → s.tenants.isLive n = true ∨ Pending delivered s'
      (.tenantCreated n)) (hknown : ∀ n, .tenantCreated n ∈ s'.published → s'.tenantExists n = true)
    (hclosed : ∀ n, .tenantDeregistered n ∈ s'.published → s'.tenantExists n = true ∧
      s'.tenants.isLive n = false) : Healthy delivered s' := by
  have hmono : ∀ e ∈ s.published, e ∈ s'.published := by
    intro e he
    rw [hpublished]
    exact mem_append_left _ he
  refine
    { trial := fun n hn => ?_
      created := by rw [hsubscriptions]; exact h.created
      torn := fun id row hrow hstate => ?_
      served := by rw [hsubscriptions, hfleet]; exact h.served
      deactivated := fun n hn => ?_
      known := hknown
      closed := hclosed
      delivered := fun e he => hmono e (h.delivered e he) }
  · rw [hsubscriptions]
    rcases htrial n hn with hlive | hpending
    · exact (h.trial n hlive).imp_right fun hpending => hpending.mono hmono
    · exact .inr hpending
  · rw [hsubscriptions]
    rw [hfleet] at hrow
    exact (h.torn id row hrow hstate).imp_right fun hpending => hpending.mono hmono
  · rw [hsubscriptions]
    rw [hpublished] at hn
    rcases mem_append.mp hn with hold | hnew
    · exact h.deactivated n hold
    · exact absurd hnew (hquiet n)

theorem Healthy.sameAccounts (hsame : SameAccounts s s') : Healthy delivered s' := by
  refine h.accounts [] hsame.subscriptions hsame.fleet (by simp [hsame.published])
    (by simp) (fun n hn => ?_) (fun n hn => ?_) (fun n hn => ?_)
  · rw [hsame.isLive] at hn
    exact .inl hn
  · rw [hsame.published] at hn
    rw [hsame.tenantExists]
    exact h.known n hn
  · rw [hsame.published] at hn
    rw [hsame.tenantExists, hsame.isLive]
    exact h.closed n hn

theorem Healthy.signedUp {id : String} (hsigned : SignedUp id s s') : Healthy delivered s' := by
  refine h.accounts [.tenantCreated id] hsigned.subscriptions hsigned.fleet
    hsigned.published (by simp) (fun n hn => ?_) (fun n hn => ?_) (fun n hn => ?_)
  · rw [hsigned.isLive, Bool.or_eq_true, decide_eq_true_eq] at hn
    rcases hn with hlive | rfl
    · exact .inl hlive
    · refine .inr ⟨by simp [hsigned.published], fun hdelivered => ?_⟩
      have hknown := h.known n (h.delivered _ hdelivered)
      rw [hsigned.fresh] at hknown
      cases hknown
  · rw [hsigned.tenantExists, Bool.or_eq_true, decide_eq_true_eq]
    simp only [hsigned.published, mem_append, mem_singleton,
      DomainEvent.tenantCreated.injEq] at hn
    exact hn.imp_left (h.known n)
  · have hold : .tenantDeregistered n ∈ s.published := by simpa [hsigned.published] using hn
    obtain ⟨hexists, hlive⟩ := h.closed n hold
    have hne : n ≠ id := by
      rintro rfl
      rw [hsigned.fresh] at hexists
      cases hexists
    simp [hsigned.tenantExists, hsigned.isLive, hexists, hlive, hne]

theorem Healthy.closedDown {tenantId : String} (hclosed : ClosedDown tenantId s s') :
    Healthy delivered s' := by
  refine h.accounts [.tenantDeregistered tenantId] hclosed.subscriptions
    hclosed.fleet hclosed.published (by simp) (fun n hn => ?_) (fun n hn => ?_) (fun n hn => ?_)
  · rw [hclosed.isLive, Bool.and_eq_true] at hn
    exact .inl hn.1
  · have hold : .tenantCreated n ∈ s.published := by simpa [hclosed.published] using hn
    rw [hclosed.tenantExists]
    exact h.known n hold
  · rw [hclosed.tenantExists, hclosed.isLive]
    simp only [hclosed.published, mem_append, mem_singleton,
      DomainEvent.tenantDeregistered.injEq] at hn
    rcases hn with hold | rfl
    · obtain ⟨hexists, hlive⟩ := h.closed n hold
      exact ⟨hexists, by simp [hlive]⟩
    · exact ⟨TenantTable.isSome_findById_of_isLive hclosed.live, by simp⟩

theorem Healthy.canceled (tenantId : String) : Healthy delivered (s.canceled tenantId) := by
  have hmono : ∀ e ∈ s.published, e ∈ (s.canceled tenantId).published :=
    fun e he => mem_append_left _ he
  have hold : ∀ {e}, e ≠ .subscriptionDeactivated tenantId →
      e ∈ (s.canceled tenantId).published → e ∈ s.published := by
    intro e hne he
    rcases mem_append.mp he with hold | hnew
    · exact hold
    · split at hnew
      · cases hnew
      · exact absurd (mem_singleton.mp hnew) hne
  have hhistory : ∀ n, (s.canceled tenantId).subscriptions.hasHistory n =
      s.subscriptions.hasHistory n := by
    intro n
    simp [Database.canceled, cancelCurrent]
  have hcurrent : ∀ n, (s.canceled tenantId).subscriptions.findCurrent n =
      if n = tenantId then none else s.subscriptions.findCurrent n :=
    s.subscriptions.findCurrent_cancelCurrent tenantId
  refine
    { trial := fun n hn => ?_
      created := fun n hn => h.created n ((hhistory n).symm.trans hn)
      torn := fun id row hrow hstate => ?_
      served := fun id row hrow => (hhistory _).trans (h.served id row hrow)
      deactivated := fun n hn => ?_
      known := fun n hn => h.known n (hold (by simp) hn)
      closed := fun n hn => h.closed n (hold (by simp) hn)
      delivered := fun e he => hmono e (h.delivered e he) }
  · rw [hhistory]
    exact (h.trial n hn).imp_right fun hpending => hpending.mono hmono
  · rcases h.torn id row hrow hstate with hlicensed | hpending
    · rw [hcurrent]
      split
      · -- The license that ends now has not been announced before.
        rename_i htenant
        rw [htenant] at hlicensed ⊢
        refine .inr ⟨?_, fun hdelivered => ?_⟩
        · exact mem_append_right _ (by simp [hlicensed])
        · exact hlicensed (h.deactivated tenantId (h.delivered _ hdelivered)).1
      · exact .inl hlicensed
    · exact .inr (hpending.mono hmono)
  · rw [hhistory, hcurrent]
    by_cases heq : n = tenantId
    · subst heq
      refine ⟨if_pos rfl, ?_⟩
      rcases mem_append.mp hn with hannounced | hnew
      · exact (h.deactivated n hannounced).2
      · split at hnew
        · cases hnew
        · rename_i hlicensed
          obtain ⟨sub, hsub⟩ := Option.ne_none_iff_exists'.mp hlicensed
          exact hasHistory_of_findCurrent hsub
    · rw [if_neg heq]
      apply h.deactivated n (hold _ hn)
      simp [heq]

theorem Healthy.registered {networkId tenantId : String}
    (hnew : Registered networkId tenantId s s') : Healthy delivered s' := by
  obtain ⟨sub, hsub⟩ := Option.ne_none_iff_exists'.mp hnew.licensed
  obtain ⟨new, htenant, hnetworks⟩ := hnew.networks
  have hexists : ∀ n, s'.tenantExists n = s.tenantExists n := by
    simp [Database.tenantExists, hnew.tenants]
  have hrows : ∀ {id row}, s'.fleet.networks.get? id = some row →
      row.tenantId = tenantId ∨ s.fleet.networks.get? id = some row := by
    intro id row hrow
    rw [hnetworks] at hrow
    rcases Store.get?_of_insert hrow with ⟨-, rfl⟩ | ⟨-, hrow⟩
    · exact .inl htenant
    · exact .inr hrow
  have hpending : ∀ {e}, Pending delivered s e → Pending delivered s' e :=
    fun hpending => hpending.mono fun e he => hnew.published ▸ he
  refine
    { trial := fun n hn => ?_
      created := by rw [hnew.subscriptions]; exact h.created
      torn := fun id row hrow hstate => ?_
      served := fun id row hrow => ?_
      deactivated := by rw [hnew.subscriptions, hnew.published]; exact h.deactivated
      known := fun n hn => ?_
      closed := fun n hn => ?_
      delivered := by rw [hnew.published]; exact h.delivered }
  · rw [hnew.tenants] at hn
    rw [hnew.subscriptions]
    exact (h.trial n hn).imp_right hpending
  · rw [hnew.subscriptions]
    rcases hrows hrow with htenant | hold
    · exact .inl (htenant ▸ hnew.licensed)
    · exact (h.torn id row hold hstate).imp_right hpending
  · rw [hnew.subscriptions]
    rcases hrows hrow with htenant | hold
    · exact htenant ▸ hasHistory_of_findCurrent hsub
    · exact h.served id row hold
  · rw [hexists]
    exact h.known n (hnew.published ▸ hn)
  · rw [hexists, hnew.tenants]
    exact h.closed n (hnew.published ▸ hn)

end

/-! ## Deliveries -/

theorem Healthy.delivered_cons (h : Healthy delivered s) (hpublished : event ∈ s.published) :
    ∀ e ∈ event :: delivered, e ∈ s.published := by
  intro e he
  rcases mem_cons.mp he with rfl | hold
  · exact hpublished
  · exact h.delivered e hold

theorem Healthy.opened {tenantId : String} {sub : Subscription} (h : Healthy delivered s)
    (hpublished : .tenantCreated tenantId ∈ s.published) (hsub : sub.tenantId = tenantId) :
    Healthy (.tenantCreated tenantId :: delivered)
      { s with subscriptions := (s.subscriptions.createTrial sub).2 } := by
  refine { h with trial := ?_, created := ?_, torn := ?_, served := ?_, deactivated := ?_,
                  delivered := h.delivered_cons hpublished }
  · intro n hn
    by_cases heq : n = tenantId
    · left
      simp [hsub, heq]
    · rcases h.trial n hn with hhistory | hpending
      · left
        simp [hhistory]
      · exact .inr (Pending.cons ⟨hpending.1, hpending.2⟩ (by simp [heq]))
  · intro n hn
    rw [hasHistory_createTrial, Bool.or_eq_true, decide_eq_true_eq] at hn
    rcases hn with hhistory | heq
    · exact mem_cons_of_mem _ (h.created n hhistory)
    · simp [← heq, hsub]
  · intro id row hrow hstate
    rcases h.torn id row hrow hstate with hlicensed | hpending
    · left
      rw [findCurrent_createTrial]
      split
      · nofun
      · exact hlicensed
    · exact .inr (Pending.cons ⟨hpending.1, hpending.2⟩ nofun)
  · intro id row hrow
    simp [h.served id row hrow]
  · intro n hn
    obtain ⟨hnone, hhistory⟩ := h.deactivated n hn
    simp [findCurrent_createTrial, hhistory, hnone]

theorem Healthy.slated {tenantId : String} (h : Healthy delivered s)
    (hpublished : .subscriptionDeactivated tenantId ∈ s.published) :
    Healthy (.subscriptionDeactivated tenantId :: delivered) (s.slated tenantId) := by
  refine { h with trial := ?_, created := ?_, torn := ?_, served := ?_,
                  delivered := h.delivered_cons hpublished }
  · intro n hn
    exact (h.trial n hn).imp_right fun hpending => Pending.cons ⟨hpending.1, hpending.2⟩ nofun
  · intro n hn
    exact mem_cons_of_mem _ (h.created n hn)
  · intro id row hrow hstate
    obtain ⟨old, hold, -, hkept⟩ := Database.row_of_slated hrow
    obtain ⟨rfl, hne⟩ := hkept hstate
    exact (h.torn id row hold hstate).imp_right fun hpending =>
      Pending.cons ⟨hpending.1, hpending.2⟩ (by simp [hne])
  · intro id row hrow
    obtain ⟨old, hold, htenant, -⟩ := Database.row_of_slated hrow
    rw [htenant]
    exact h.served id old hold

theorem Healthy.handled {tenantId : String} (h : Healthy delivered s)
    (hpublished : .tenantDeregistered tenantId ∈ s.published) :
    Healthy (.tenantDeregistered tenantId :: delivered) s :=
  { h with
    trial := fun n hn => (h.trial n hn).imp_right fun hpending => hpending.cons nofun
    created := fun n hn => mem_cons_of_mem _ (h.created n hn)
    torn := fun id row hrow hstate =>
      (h.torn id row hrow hstate).imp_right fun hpending => hpending.cons nofun
    delivered := h.delivered_cons hpublished }

/-! ## Runs -/

def Op.Effect (s s' : Database) : Op → Prop
  | .registerTenant id _ | .resolveIdentity id _ _ => MaySignUp id s s'
  | .deregisterTenant tenantId => SameAccounts s s' ∨ ClosedDown tenantId s s'
  | .cancel tenantId => s' = s.canceled tenantId
  | .registerNetwork networkId tenantId .. => s' = s ∨ Registered networkId tenantId s s'

theorem op_effect {config : Config} {op : Op} {result : Unit}
    (hrun : (op.task.body config).Runs Database.Succeeds s result s') : op.Effect s s' := by
  cases op with
  | registerTenant id email =>
    obtain ⟨_, hrun⟩ := runs_discard hrun
    exact registerTenant_effect hrun
  | resolveIdentity id verified secretHash =>
    obtain ⟨_, hrun⟩ := runs_discard hrun
    exact resolveIdentity_effect hrun
  | deregisterTenant tenantId =>
    obtain ⟨_, hrun⟩ := runs_discard hrun
    exact deregisterTenant_effect hrun
  | cancel tenantId =>
    obtain ⟨_, hrun⟩ := runs_discard hrun
    exact cancel_effect hrun
  | registerNetwork =>
    obtain ⟨_, hrun⟩ := runs_discard hrun
    exact registerNetwork_effect hrun

theorem Healthy.op {op : Op} (h : Healthy delivered s) (hop : op.Effect s s') :
    Healthy delivered s' := by
  cases op with
  | registerTenant | resolveIdentity => exact hop.elim h.sameAccounts h.signedUp
  | deregisterTenant => exact hop.elim h.sameAccounts h.closedDown
  | cancel tenantId => exact hop ▸ h.canceled tenantId
  | registerNetwork =>
    rcases hop with rfl | hnew
    · exact h
    · exact h.registered hnew

def DomainEvent.Effect (s s' : Database) : DomainEvent → Prop
  | .tenantCreated tenantId => ∃ sub : Subscription, sub.tenantId = tenantId ∧
      sub.status = .trialing ∧ s' = { s with subscriptions := (s.subscriptions.createTrial sub).2 }
  | .tenantDeregistered tenantId => SameAccounts (s.canceled tenantId) s'
  | .subscriptionDeactivated tenantId => s' = s.slated tenantId

theorem Healthy.react_effect {config : Config} {result : Unit} (h : Healthy delivered s)
    (hpublished : event ∈ s.published)
    (hrun : (react config event).Runs Database.Succeeds s result s') : event.Effect s s' := by
  cases event with
  | tenantCreated tenantId =>
    obtain ⟨_, htrial⟩ := runs_react_tenantCreated hrun
    exact createTrial_effect htrial (h.known tenantId hpublished)
  | tenantDeregistered tenantId =>
    obtain ⟨_, t, _, hcancel, hpurge⟩ := runs_react_tenantDeregistered hrun
    rw [cancel_effect hcancel] at hpurge
    exact purgeFor_effect hpurge
  | subscriptionDeactivated tenantId =>
    obtain ⟨_, hslate⟩ := runs_react_subscriptionDeactivated hrun
    exact deprovisionNetworksFor_effect hslate

theorem Healthy.deliver (h : Healthy delivered s) (hpublished : event ∈ s.published)
    (heffect : event.Effect s s') : Healthy (event :: delivered) s' := by
  cases event with
  | tenantCreated tenantId =>
    obtain ⟨sub, hsub, -, rfl⟩ := heffect
    exact h.opened hpublished hsub
  | tenantDeregistered tenantId =>
    apply ((h.canceled tenantId).sameAccounts heffect).handled
    rw [SameAccounts.published heffect]
    exact mem_append_left _ hpublished
  | subscriptionDeactivated tenantId =>
    subst heffect
    exact h.slated hpublished

end Wardnet.Authority

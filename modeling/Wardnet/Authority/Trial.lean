/-
# Trials end by a grant

A trial is opened by the reaction to a new tenant, a subscription is recorded by the webhook
handler, and the two never look at each other's table. That a trial has no subscription
recorded is an invariant of both tables together: the handler records a subscription only
along with a license that is not a trial, and no trial is opened for a tenant that has had a
license. So the events that look a tenant up by its subscription do not find a trial.
-/

import Wardnet.Authority.Effects
import Wardnet.Authority.History
import Wardnet.Authority.Redelivery

namespace Wardnet.Authority

open Base Billing Subscriptions Option

def subscriptionOf : StripeEventKind → Option String
  | .subscriptionUpsert data => some data.stripeSubscriptionId
  | .subscriptionDeleted stripeSubscriptionId | .paymentFailed stripeSubscriptionId =>
    some stripeSubscriptionId
  | .cardSetupCompleted .. | .catalogChanged | .ignored => none

namespace Tables

variable {v w : Tables} {kind : StripeEventKind} {n stripeSubscriptionId : String}
  {sub : Subscription}

inductive Asks (v : Tables) (kind : StripeEventKind) : Tables → Prop
  | nothing : Asks v kind v
  | ended {n stripeSubscriptionId : String}
      (habout : subscriptionOf kind = some stripeSubscriptionId)
      (hrecords : v.Records n stripeSubscriptionId) : Asks v kind (v.ended n)
  | overdue {n stripeSubscriptionId : String}
      (habout : subscriptionOf kind = some stripeSubscriptionId)
      (hrecords : v.Records n stripeSubscriptionId) : Asks v kind (v.overdue n)
  | granted {n : String} {data : SubscriptionData} {sub : Subscription}
      (hkind : kind = .subscriptionUpsert data) (hlive : data.status ≠ .canceled)
      (hn : (v.known data.stripeSubscriptionId).or data.tenantId = some n)
      (hgranted : grantedLicense data n (v.license n) = some sub) :
      Asks v kind ⟨Function.update v.billing n (some (refOf data)),
        Function.update v.license n (some sub)⟩

theorem asks_of_known (honce : v.RecordedOnce) (change : String → Tables)
    (hchange : ∀ n, v.Records n stripeSubscriptionId → Asks v kind (change n)) :
    Asks v kind ((v.known stripeSubscriptionId).elim v change) := by
  cases hknown : v.known stripeSubscriptionId with
  | none => exact .nothing
  | some n => exact hchange n ((known_eq_some_iff honce).mp hknown)

theorem asks_target (honce : v.RecordedOnce) (kind : StripeEventKind) :
    Asks v kind (v.target kind) := by
  cases kind with
  | subscriptionUpsert data =>
    simp only [target]
    split
    · exact asks_of_known honce _ fun n hn => .ended rfl hn
    · rename_i hlive
      cases hn : (v.known data.stripeSubscriptionId).or data.tenantId with
      | none => exact .nothing
      | some n =>
        simp only [elim_some, granted]
        split
        · exact .nothing
        · rename_i sub hgranted
          exact .granted rfl hlive hn hgranted
  | subscriptionDeleted id => exact asks_of_known honce _ fun n hn => .ended rfl hn
  | paymentFailed id => exact asks_of_known honce _ fun n hn => .overdue rfl hn
  | cardSetupCompleted | catalogChanged | ignored => exact .nothing

theorem status_grantedLicense {data : SubscriptionData} {current : Option Subscription}
    (h : grantedLicense data n current = some sub) : sub.status = data.status := by
  have hpaid : data.entitlement.map (grantedLicense.paid data n) = some sub →
      sub.status = data.status := by
    intro hmap
    obtain ⟨entitlement, -, rfl⟩ := map_eq_some_iff.mp hmap
    rfl
  cases current with
  | none => exact hpaid h
  | some old =>
    simp only [grantedLicense] at h
    split at h
    · cases h
      rfl
    · exact hpaid h

/-- A price that grants nothing leaves a trial alone. -/
theorem grantedLicense_trial {data : SubscriptionData} (hnone : data.entitlement = none)
    (htrial : sub.status = .trialing) : grantedLicense data n (some sub) = none := by
  simp [grantedLicense, htrial, hnone]

structure Sound (v : Tables) : Prop where
  once : v.RecordedOnce
  trial : ∀ n stripeSubscriptionId sub, v.Records n stripeSubscriptionId →
    v.license n = some sub → sub.status ≠ .trialing

/-- What is recorded after an event was recorded before it, or comes with a license that is
not a trial. -/
theorem Asks.records (h : Asks v kind w)
    (hkind : ∀ data, kind = .subscriptionUpsert data → data.status ≠ .trialing)
    (hrecords : w.Records n stripeSubscriptionId) :
    v.Records n stripeSubscriptionId ∧ (∀ sub, w.license n = some sub →
        (∀ old, v.license n = some old → old.status ≠ .trialing) → sub.status ≠ .trialing) ∨
      ∃ sub, w.license n = some sub ∧ sub.status ≠ .trialing := by
  cases h with
  | nothing => exact .inl ⟨hrecords, fun sub hsub hold => hold sub hsub⟩
  | ended =>
    refine .inl ⟨hrecords, fun sub hsub hold => ?_⟩
    simp only [Tables.ended, Function.update_apply] at hsub
    split at hsub
    · cases hsub
    · exact hold sub hsub
  | overdue =>
    refine .inl ⟨hrecords, fun sub hsub hold => ?_⟩
    simp only [Tables.overdue, Function.update_apply] at hsub
    split at hsub
    · obtain ⟨old, -, rfl⟩ := map_eq_some_iff.mp hsub
      simp
    · exact hold sub hsub
  | granted hupsert hlive hm hgranted =>
    rename_i m data granted
    by_cases heq : n = m
    · refine .inr ⟨granted, by simp [heq], ?_⟩
      rw [status_grantedLicense hgranted]
      exact hkind data hupsert
    · obtain ⟨row, hrow, hid⟩ := hrecords
      simp only [Function.update_of_ne heq] at hrow
      refine .inl ⟨⟨row, hrow, hid⟩, fun sub hsub hold => ?_⟩
      simp only [Function.update_of_ne heq] at hsub
      exact hold sub hsub

theorem Asks.recordedOnce (h : Asks v kind w) (honce : v.RecordedOnce) : w.RecordedOnce := by
  cases h with
  | nothing | ended | overdue => exact honce
  | granted hkind hlive hn hgranted => exact recordedOnce_refer honce hn _

theorem Sound.asks (h : v.Sound) (hasks : Asks v kind w)
    (hkind : ∀ data, kind = .subscriptionUpsert data → data.status ≠ .trialing) : w.Sound := by
  refine ⟨hasks.recordedOnce h.once, fun n id sub hrecords hsub => ?_⟩
  rcases hasks.records hkind hrecords with ⟨hbefore, hlicense⟩ | ⟨sub', hsub', hstatus⟩
  · exact hlicense sub hsub fun old hold => h.trial n id old hbefore hold
  · obtain rfl := some.inj (hsub.symm.trans hsub')
    exact hstatus

/-- Only a grant changes a trial. -/
theorem Sound.trial_of_asks (h : v.Sound) (hasks : Asks v kind w)
    (hkind : ∀ data, kind = .subscriptionUpsert data → data.status ≠ .canceled →
      data.entitlement = none)
    (hsub : v.license n = some sub) (htrial : sub.status = .trialing) :
    w.license n = some sub := by
  have hother : ∀ m id, v.Records m id → n ≠ m := by
    rintro m id hrecords rfl
    exact h.trial n id sub hrecords hsub htrial
  cases hasks with
  | nothing => exact hsub
  | ended _ hrecords =>
    simpa only [Tables.ended, Function.update_of_ne (hother _ _ hrecords)] using hsub
  | overdue _ hrecords =>
    simpa only [Tables.overdue, Function.update_of_ne (hother _ _ hrecords)] using hsub
  | granted hupsert hlive hm hgranted =>
    rename_i m data granted
    have hne : n ≠ m := by
      rintro rfl
      rw [hsub, grantedLicense_trial (hkind data hupsert hlive) htrial] at hgranted
      cases hgranted
    simpa only [Function.update_of_ne hne] using hsub

/-- An event about a subscription that is not recorded changes no license, unless it is an
upsert that is not canceled. -/
theorem Asks.license_of_unrecorded (hasks : Asks v kind w)
    (habout : subscriptionOf kind = some stripeSubscriptionId)
    (hnone : ∀ n, ¬ v.Records n stripeSubscriptionId)
    (hkind : ∀ data, kind = .subscriptionUpsert data → data.status = .canceled) :
    w.license = v.license := by
  cases hasks with
  | nothing => rfl
  | ended habout' hrecords | overdue habout' hrecords =>
    obtain rfl := some.inj (habout.symm.trans habout')
    exact absurd hrecords (hnone _)
  | granted hupsert hlive => exact absurd (hkind _ hupsert) hlive

end Tables

namespace Webhook

variable {event : StripeEvent} {outcome : Except Failure Unit} {s t : Database}

/-- What one delivery does to the tables. -/
theorem tables_of_delivers (honce : s.tables.RecordedOnce) (h : Delivers event s outcome t) :
    (t.tables.license = s.tables.license ∨
        t.tables.license = (s.tables.target event.kind).license) ∧
      (outcome = .ok () → t = s ∨ t.tables = s.tables.target event.kind) := by
  rcases (Prog.runs_exceptBind _).mp h with ⟨e, rfl, hread⟩ | ⟨processed, u, hread, hrest⟩
  · obtain rfl := (processed_of_step ((runs_perform _).mp hread)).1
    exact ⟨.inl rfl, fun _ => .inl rfl⟩
  obtain ⟨rfl, -⟩ := processed_of_step ((runs_perform _).mp hread)
  cases processed with
  | true =>
    obtain ⟨-, rfl⟩ := hrest
    exact ⟨.inl rfl, fun _ => .inl rfl⟩
  | false =>
    have hreached : ∀ {v}, Reached event.kind u v → v.tables.license = u.tables.license ∨
        v.tables.license = (u.tables.target event.kind).license := by
      rintro v ⟨-, heq | heq | heq⟩
      · exact .inl (by rw [heq])
      · exact .inl (by rw [heq])
      · exact .inr (by rw [heq])
    rcases (Prog.runs_exceptBind _).mp hrest with ⟨e, rfl, hkind⟩ | ⟨_, v, hkind, hrecord⟩
    · have hstopped := ((handles_applyEventKind honce event.kind).of_runs hkind).1
      exact ⟨hreached hstopped, nofun⟩
    · obtain ⟨hstopped, harrived⟩ := (handles_applyEventKind honce event.kind).of_runs hkind
      rcases recorded_of_step ((runs_perform _).mp hrecord) with ⟨⟨e, rfl⟩, rfl⟩ | ⟨-, rfl⟩
      · exact ⟨hreached hstopped, nofun⟩
      · exact ⟨hreached (v := v) hstopped, fun _ => .inr (harrived rfl).tables⟩

end Webhook

/-! ## Trials and events in any order -/

/-- What reaches the services: the reaction to a new tenant, and webhook events. -/
inductive Input
  | tenantCreated (tenantId : String)
  | webhook (event : WebhookEvent)

def Input.Applies (config : Config) : Input → Database → Database → Prop
  | .tenantCreated tenantId, s, t =>
    ∃ opened, (createTrial config tenantId).run.Runs Database.Step s (.ok opened) t
  | .webhook event, s, t =>
    ∃ normalized, normalizeEvent event = .ok normalized ∧ Delivers normalized s (.ok ()) t

def Applied (config : Config) : List Input → Database → Database → Prop
  | [], s, t => t = s
  | input :: inputs, s, t => ∃ u, input.Applies config s u ∧ Applied config inputs u t

/-- A tenant with a subscription recorded has had a license, and the current one is not a
trial. -/
structure Licensed (s : Database) : Prop where
  sound : s.tables.Sound
  history : ∀ n stripeSubscriptionId, s.tables.Records n stripeSubscriptionId →
    s.subscriptions.hasHistory n = true

section

variable {config : Config} {s t : Database}

theorem Licensed.createTrial {tenantId : String} {opened : Bool} (h : Licensed s)
    (hrun : (Authority.createTrial config tenantId).run.Runs Database.Step s (.ok opened) t) :
    Licensed t := by
  obtain ⟨sub, -, -, -, rfl⟩ := createTrial_step hrun
  constructor
  · refine ⟨h.sound.once, fun n id current hrecords hcurrent => ?_⟩
    have hhistory := h.history n id hrecords
    simp only [Database.tables, SubscriptionTable.findCurrent_createTrial, hhistory] at hcurrent
    have hbefore : s.tables.license n = some current := by simpa [Database.tables] using hcurrent
    exact h.sound.trial n id current hrecords hbefore
  · intro n id hrecords
    have hhistory := h.history n id hrecords
    simp [hhistory]

theorem hasHistory_of_delivers {webhook : WebhookEvent} {event : StripeEvent}
    {outcome : Except Failure Unit} {n : String} (hevent : normalizeEvent webhook = .ok event)
    (h : Delivers event s outcome t) (hhistory : s.subscriptions.hasHistory n = true) :
    t.subscriptions.hasHistory n = true := by
  have hall : (applyEvent event).run.All History.OfLicenses :=
    all_applyEvent event trivial (History.all_applyEventKind hevent) trivial
  apply Prog.Runs.invariant _ (fun u : Database => u.subscriptions.hasHistory n = true) _ hall h
    hhistory
  rintro c u r u' hcall ⟨choice, hexec⟩ hu
  rcases History.exec_extends hcall hexec with ⟨tenantId, -, hextends⟩ | hsame
  · obtain ⟨sub, hmem, hsub⟩ := List.any_eq_true.mp hu
    obtain ⟨i, hi⟩ := List.mem_iff_getElem?.mp hmem
    obtain ⟨sub', hsub', htenant, -⟩ := hextends.keeps i sub hi
    exact List.any_eq_true.mpr ⟨sub', List.mem_of_getElem? hsub', by rw [htenant]; exact hsub⟩
  · rwa [hsame]

theorem Licensed.delivers {webhook : WebhookEvent} {event : StripeEvent} (h : Licensed s)
    (hevent : normalizeEvent webhook = .ok event) (hdelivers : Delivers event s (.ok ()) t) :
    Licensed t := by
  rcases (Webhook.tables_of_delivers h.sound.once hdelivers).2 rfl with rfl | htables
  · exact h
  have hasks := Tables.asks_target h.sound.once event.kind
  rw [← htables] at hasks
  have hkind : ∀ data, event.kind = .subscriptionUpsert data → data.status ≠ .trialing :=
    fun _ => status_ne_trialing_of_normalizeEvent hevent
  refine ⟨h.sound.asks hasks hkind, fun n id hrecords => ?_⟩
  rcases hasks.records hkind hrecords with ⟨hbefore, -⟩ | ⟨sub, hsub, -⟩
  · exact hasHistory_of_delivers hevent hdelivers (h.history n id hbefore)
  · exact SubscriptionTable.hasHistory_of_findCurrent hsub

theorem Licensed.applied {inputs : List Input} (h : Licensed s)
    (happlied : Applied config inputs s t) : Licensed t := by
  induction inputs generalizing s with
  | nil =>
    obtain rfl := happlied
    exact h
  | cons input inputs ih =>
    obtain ⟨u, hinput, hrest⟩ := happlied
    refine ih ?_ hrest
    cases input with
    | tenantCreated tenantId =>
      obtain ⟨opened, hrun⟩ := hinput
      exact h.createTrial hrun
    | webhook event =>
      obtain ⟨normalized, hevent, hdelivers⟩ := hinput
      exact h.delivers hevent hdelivers

theorem Licensed.of_empty (hbilling : s.billing = ∅) : Licensed s := by
  have hnone : ∀ n id, ¬ s.tables.Records n id := by
    rintro n id ⟨row, hrow, -⟩
    simp only [Database.tables, hbilling, Store.get?_empty] at hrow
    cases hrow
  exact ⟨⟨fun id n m hn => absurd hn (hnone n id), fun n id sub hn => absurd hn (hnone n id)⟩,
    fun n id hn => absurd hn (hnone n id)⟩

end

structure TrialsKept (s : Database) : Prop where
  /-- A trial has no subscription recorded. -/
  unrecorded : ∀ tenantId sub, s.subscriptions.findCurrent tenantId = some sub →
    sub.status = .trialing → ∀ stripeSubscriptionId, ¬ Recorded tenantId stripeSubscriptionId s
  /-- Only an upsert that is not canceled and whose price grants something changes a trial. -/
  kept : ∀ event outcome t, ¬ Reviving event → Delivers event s outcome t →
    ∀ tenantId sub, s.subscriptions.findCurrent tenantId = some sub → sub.status = .trialing →
      t.subscriptions.findCurrent tenantId = some sub
  /-- An event about a subscription that no tenant has recorded changes no license, unless
  it is an upsert that is not canceled. -/
  unknown : ∀ event outcome t stripeSubscriptionId,
    subscriptionOf event.kind = some stripeSubscriptionId →
    (∀ n, ¬ Recorded n stripeSubscriptionId s) →
    (∀ data, event.kind = .subscriptionUpsert data → data.status = .canceled) →
    Delivers event s outcome t →
      ∀ tenantId, t.subscriptions.findCurrent tenantId = s.subscriptions.findCurrent tenantId

/-- In whatever order trials are opened and webhook events are applied, trials are only ended
by a grant. -/
theorem trial_ends_by_grant (config : Config) (inputs : List Input) (start s : Database)
    (hbilling : start.billing = ∅) (happlied : Applied config inputs start s) : TrialsKept s := by
  have h : Licensed s := (Licensed.of_empty hbilling).applied happlied
  constructor
  · intro tenantId sub hsub htrial id hrecorded
    exact h.sound.trial tenantId id sub (recorded_iff.mp hrecorded) hsub htrial
  · intro event outcome t hdeclined hdelivers tenantId sub hsub htrial
    have hasks := Tables.asks_target h.sound.once event.kind
    have hkind : ∀ data, event.kind = .subscriptionUpsert data → data.status ≠ .canceled →
        data.entitlement = none := by
      intro data hupsert hlive
      by_contra hgrants
      exact hdeclined ⟨data, hupsert, hlive, hgrants⟩
    rcases (Webhook.tables_of_delivers h.sound.once hdelivers).1 with hsame | htarget
    · exact (congrFun hsame tenantId).trans hsub
    · exact (congrFun htarget tenantId).trans (h.sound.trial_of_asks hasks hkind hsub htrial)
  · intro event outcome t id habout hnone hkind hdelivers tenantId
    have hasks := Tables.asks_target h.sound.once event.kind
    have hunrecorded : ∀ n, ¬ s.tables.Records n id := fun n hn => hnone n (recorded_iff.mpr hn)
    rcases (Webhook.tables_of_delivers h.sound.once hdelivers).1 with hsame | htarget
    · exact congrFun hsame tenantId
    · rw [hasks.license_of_unrecorded habout hunrecorded hkind] at htarget
      exact congrFun htarget tenantId

def applyAll : List Input → Database → Option Database
  | [], s => some s
  | .tenantCreated tenantId :: inputs, s => do
      match ← (createTrial sampleConfig tenantId).run.runWith
        (Database.exec ⟨0, false, "tenant-1", []⟩) s with
      | (.ok _, t) => applyAll inputs t
      | (.error _, _) => none
  | .webhook event :: inputs, s => do
      let t ← deliverAll [← (normalizeEvent event).toOption] s
      applyAll inputs t

theorem applied_of_applyAll {inputs : List Input} {s t : Database}
    (h : applyAll inputs s = some t) : Applied sampleConfig inputs s t := by
  induction inputs generalizing s with
  | nil => exact (some.inj h).symm
  | cons input inputs ih =>
    cases input with
    | tenantCreated tenantId =>
      obtain ⟨⟨outcome, u⟩, hrun, hrest⟩ := bind_eq_some_iff.mp h
      cases outcome with
      | error e => cases hrest
      | ok opened =>
        have hruns : (createTrial sampleConfig tenantId).run.Runs Database.Step s (.ok opened) u :=
          Prog.runs_of_runWith _ (fun _ _ _ _ hexec => ⟨_, hexec⟩) hrun
        exact ⟨u, ⟨opened, hruns⟩, ih hrest⟩
    | webhook event =>
      obtain ⟨normalized, hevent, hrest⟩ := bind_eq_some_iff.mp h
      obtain ⟨u, hdeliver, hrest⟩ := bind_eq_some_iff.mp hrest
      obtain ⟨v, hdelivers, rfl⟩ := delivered_of_deliverAll hdeliver
      have hnormalized : normalizeEvent event = .ok normalized := by
        cases hout : normalizeEvent event with
        | error e =>
          rw [hout] at hevent
          cases hevent
        | ok value =>
          rw [hout] at hevent
          rw [show value = normalized from some.inj hevent]
      exact ⟨u, ⟨normalized, hnormalized, hdelivers⟩, ih hrest⟩

/-- A subscription is reported whose price grants nothing, then its payment fails, and then it
is deleted. -/
def sampleInputs : List Input :=
  [.tenantCreated "tenant-1",
    .webhook ⟨"evt-1", "customer.subscription.created", ⟨some subscription, none, none⟩⟩,
    .webhook ⟨"evt-2", "invoice.payment_failed", ⟨none, some ⟨some "sub-1", none⟩, none⟩⟩,
    .webhook ⟨"evt-3", "customer.subscription.deleted", ⟨some subscription, none, none⟩⟩]
where
  subscription : StripeSubscription :=
    ⟨"sub-1", "cus-1", "active", none, [("tenant_id", "tenant-1")], [⟨some ⟨"price-1", []⟩, none⟩]⟩

/-- The trial outlives all of this. -/
theorem trial_ends_by_grant_sample : ∃ s, Applied sampleConfig sampleInputs History.sampleTenant s ∧
      (s.subscriptions.findCurrent "tenant-1").map (·.status) = some .trialing ∧ TrialsKept s := by
  have happlied := applied_of_applyAll (eq_some_of_isSome
    (show (applyAll sampleInputs History.sampleTenant).isSome by decide))
  exact ⟨_, happlied, by decide,
    trial_ends_by_grant sampleConfig sampleInputs History.sampleTenant _ rfl happlied⟩

end Wardnet.Authority

/-
# Plan changes that succeed

When no request fails, the levels of the two plans say which of four things a plan change does.
From that follows what is pending after any number of plan changes. It also follows that a plan
change ends a trial just when it goes up a level, while a checkout compares entitlements.
-/

import Wardnet.Billing.Restore

namespace Wardnet.Billing

open Base Base.Prog Option

/-! ## One plan change -/

/-- A plan change: what is asked for, when, and the id that Stripe gives to a new schedule. -/
structure PlanChange where
  priceId : String
  acceptFullPrice : Bool
  now : Int
  newId : String

/-- The answer to a plan change in which no request fails, and what it leaves. -/
def PlanChange.apply (change : PlanChange) (tenantId : String) (s : Account) :
    Except BillingError ChangePlanResponse × Account :=
  let out := Account.outcome false change.newId
    (changePlan tenantId change.priceId change.acceptFullPrice change.now).run s none
  (out.1, out.2.1)

/-- Everything that a plan change can do. -/
inductive Changed (change : PlanChange) (s : Account) (r : Resolved) :
    Except BillingError ChangePlanResponse × Account → Prop
  | upgraded (hlevel : r.current.level < r.target.level) :
      Changed change s r (.ok ⟨.upgraded, none, some change.priceId⟩, s.released.withStripe
        (s.released.stripe.withPrice r.details.itemId change.priceId r.details.trialing))
  | scheduled (hlevel : r.target.level < r.current.level) :
      Changed change s r (.ok ⟨.downgradeScheduled, some r.details.currentPeriodEnd,
          some r.details.priceId⟩,
        s.released.downgraded change.newId r.details.priceId change.priceId
          r.details.currentPeriodEnd)
  | canceled (hlevel : r.target.level = r.current.level) :
      Changed change s r (.ok ⟨.downgradeCanceled, none, some r.details.priceId⟩, s.released)
  | unchanged (hlevel : r.target.level = r.current.level) :
      Changed change s r (.error (.invalidRequest "already on this plan"), s)

section

variable {change : PlanChange} {s : Account} {tenantId : String} {r : Resolved}

theorem Resolves.outcome_none (h : Resolves s tenantId change.priceId r) :
    Account.outcome false change.newId
        (changePlan tenantId change.priceId change.acceptFullPrice change.now).run s none =
      Account.outcome false change.newId (act r change.priceId change.acceptFullPrice change.now
        s.stripe.pending).run s.released none := by
  cases hschedule : s.stripe.schedule with
  | some schedule => exact h.outcome_changePlan (n := none) hschedule
  | none =>
    have hrelease : Account.outcome false change.newId (releasePending r.details).run s none =
        (.ok s.stripe.pending, s.released, none) := by
      rw [h.pending, hschedule, releasePending, h.scheduleId, hschedule, released_of_free hschedule]
      rfl
    exact (eval_exceptBind_ok (h.outcome (n := none))).trans (eval_exceptBind_ok hrelease)

theorem Resolves.changed (h : Resolves s tenantId change.priceId r) :
    Changed change s r (change.apply tenantId s) := by
  unfold PlanChange.apply
  rw [h.outcome_none]
  rcases hact : Account.outcome false change.newId (act r change.priceId change.acceptFullPrice
    change.now s.stripe.pending).run s.released none with ⟨out, t⟩
  show Changed change s r (out, t.1)
  rcases lt_trichotomy r.target.level r.current.level with hlt | heq | hgt
  · obtain ⟨rfl, ht⟩ := h.ready.act_lt (n := none) hlt hact
    rw [ht]
    exact .scheduled hlt
  · unfold act at hact
    rw [compare_eq_iff_eq.mpr heq] at hact
    dsimp only at hact
    split at hact
    · cases hact
      exact .canceled heq
    · rename_i hnone
      rw [h.scheduleId, isSome_map, Bool.not_eq_true, isSome_eq_false_iff,
        isNone_iff_eq_none] at hnone
      cases hact
      rw [released_of_free hnone]
      exact .unchanged heq
  · obtain ⟨rfl, ht⟩ := h.ready.act_gt (n := none) hgt hact
    rw [ht]
    exact .upgraded hgt

end

/-! ## What is pending -/

structure PendingChangeView where
  priceId : String
  name : String
  level : ℕ
  effectiveAt : Int
  deriving DecidableEq

structure BillingSubscriptionView where
  currentPriceId : Option String
  pendingChange : Option PendingChangeView
  trialing : Bool
  deriving DecidableEq

def CatalogSnapshot.pendingView (snapshot : CatalogSnapshot) (change : ScheduledChange) :
    PendingChangeView where
  priceId := change.priceId
  name := (snapshot.plan? change.priceId).elim change.priceId (·.name)
  level := (snapshot.plan? change.priceId).elim 0 (·.level)
  effectiveAt := change.effectiveAt

/-- The part of `billing_subscription` that reads the schedule. The catalog is read only for a
change that is pending. -/
def pendingChangeView (details : SubscriptionDetails) : Operation (Option PendingChangeView) :=
  match details.scheduleId with
  | none => pure none
  | some scheduleId => do
      match ← internal (pendingScheduledChange scheduleId details.currentPeriodEnd) with
      | none => pure none
      | some change => do
          let snapshot ← internal (request (send .readCatalog))
          pure (some (snapshot.pendingView change))

def billingSubscription (tenantId : String) : Operation BillingSubscriptionView := do
  match ← internal (request (send (.billingRef tenantId))) with
  | none => pure ⟨none, none, false⟩
  | some ref =>
    match ref.stripeSubscriptionId with
    | none => pure ⟨ref.priceId, none, false⟩
    | some subscriptionId => do
        let details ← internal (getSubscription subscriptionId)
        let pendingChange ← pendingChangeView details
        pure ⟨ref.priceId, pendingChange, details.trialing⟩

/-- The tenant's subscription is on a plan of the catalog, in a period whose end is a time. -/
structure OnPlan (s : Account) (tenantId : String) : Prop where
  ref : (s.billing.get? tenantId).bind (·.stripeSubscriptionId) = some s.stripe.id
  item : ∃ item priceId, s.stripe.items.head? = some item ∧ item.id.isSome = true ∧
    item.price = some priceId ∧ (s.catalog.plan? priceId).isSome = true
  periodEnd : (s.stripe.periodEnd.bind timestampOpt).isSome = true

section

variable {change : PlanChange} {s : Account} {tenantId : String} {r : Resolved}

theorem OnPlan.details (h : OnPlan s tenantId) : ∃ details current, s.stripe.details = .ok details ∧
      s.catalog.plan? details.priceId = some current := by
  obtain ⟨item, priceId, hitem, hid, hprice, hplan⟩ := h.item
  obtain ⟨itemId, hid⟩ := isSome_iff_exists.mp hid
  obtain ⟨plan, hplan⟩ := isSome_iff_exists.mp hplan
  obtain ⟨time, htime⟩ := isSome_iff_exists.mp h.periodEnd
  obtain ⟨periodEnd, hend, htime⟩ := bind_eq_some_iff.mp htime
  simp only [LiveSubscription.periodEnd, hitem, bind_some] at hend
  refine ⟨⟨itemId, priceId, time, s.stripe.schedule.map (·.id),
    s.stripe.status = "trialing"⟩, plan, ?_, hplan⟩
  rw [LiveSubscription.details, hitem]
  show (orMalformed item.id _ >>= fun _ => _) = _
  simp only [hid, hprice, hend]
  show (orMalformed (timestampOpt periodEnd) _ >>= fun _ => _) = _
  rw [htime]
  rfl

theorem OnPlan.resolves (h : OnPlan s tenantId) {target : CatalogPlan}
    (htarget : s.catalog.plan? change.priceId = some target) :
    ∃ r, Resolves s tenantId change.priceId r := by
  obtain ⟨details, current, hdetails, hcurrent⟩ := h.details
  exact ⟨⟨_, _, target, details, current⟩, h.ref, rfl, rfl, htarget, hdetails, hcurrent⟩

theorem OnPlan.apply_unknown (h : OnPlan s tenantId)
    (hunknown : s.catalog.plan? change.priceId = none) :
    change.apply tenantId s = (.error (.invalidRequest "unknown plan"), s) := by
  have hresolve : Account.outcome false change.newId (resolve tenantId change.priceId).run s none =
      (.error (.invalidRequest "unknown plan"), s, none) := by
    refine ((answers_billingRef tenantId).bind_ok (n := none)).trans ?_
    rw [h.ref]
    refine (answers_readCatalog.bind_ok (n := none)).trans ?_
    rw [hunknown]
    rfl
  rw [PlanChange.apply, changePlan]
  unfold Account.outcome
  rw [eval_exceptBind_error hresolve]

/-- The pending change is read as it is. -/
theorem OnPlan.outcome_billingSubscription (h : OnPlan s tenantId) (newId : String) :
    ∃ view, Account.outcome false newId (billingSubscription tenantId).run s none =
        (.ok view, s, none) ∧ view.pendingChange = s.stripe.pending.map s.catalog.pendingView := by
  obtain ⟨details, current, hdetails, -⟩ := h.details
  have hreads := s.stripe.reads_of_details hdetails
  have hget := answers_getSubscription (s := s) s.stripe.id
  rw [if_pos rfl, hdetails] at hget
  obtain ⟨ref, href, hid⟩ := bind_eq_some_iff.mp h.ref
  have hview : Account.outcome false newId (pendingChangeView details).run s none =
      (.ok (s.stripe.pending.map s.catalog.pendingView), s, none) := by
    rw [s.stripe.pending_eq hreads.periodEnd, pendingChangeView, hreads.schedule]
    cases hschedule : s.stripe.schedule with
    | none => rfl
    | some schedule =>
      refine ((answers_pendingScheduledChange hschedule _).bind_ok (n := none)).trans ?_
      rw [bind_some]
      cases schedule.pendingChange details.currentPeriodEnd with
      | none => rfl
      | some pending => exact answers_readCatalog.bind_ok (n := none)
  refine ⟨⟨ref.priceId, s.stripe.pending.map s.catalog.pendingView, details.trialing⟩, ?_, rfl⟩
  refine ((answers_billingRef tenantId).bind_ok (n := none)).trans ?_
  simp only [href, hid]
  refine (hget.bind_ok (n := none)).trans ?_
  exact eval_exceptBind_ok hview

structure Settles (change : PlanChange) (tenantId : String) (s : Account)
    (out : Except BillingError ChangePlanResponse × Account) : Prop where
  /-- The one schedule that is attached plans the change for the end of the period. -/
  scheduled : ∀ response, out.1 = .ok response → response.effect = .downgradeScheduled →
    ∃ periodStart periodEnd, s.stripe.periodEnd = some periodEnd ∧
      out.2.stripe.schedule = some ⟨change.newId,
        [⟨some periodStart, [s.stripe.price]⟩, ⟨some periodEnd, [some change.priceId]⟩]⟩ ∧
      out.2.stripe.pending = some ⟨change.priceId, periodEnd⟩
  released : ∀ response, out.1 = .ok response → response.effect ≠ .downgradeScheduled →
    out.2.stripe.schedule = none ∧ out.2.stripe.pending = none
  upgraded : ∀ response, out.1 = .ok response → response.effect = .upgraded →
    out.2.stripe.price = some change.priceId
  kept : ∀ response, out.1 = .ok response → response.effect ≠ .upgraded →
    out.2.stripe.price = s.stripe.price
  rejected : ∀ e, out.1 = .error e → (∃ message, e = .invalidRequest message) ∧ out.2 = s
  reported : ∃ view, Account.outcome false change.newId (billingSubscription tenantId).run out.2
      none = (.ok view, out.2, none) ∧
    view.pendingChange = out.2.stripe.pending.map out.2.catalog.pendingView

theorem LiveSubscription.withPrice_head {sub : LiveSubscription} {details : SubscriptionDetails}
    (h : sub.details = .ok details) (priceId : String) (endTrial : Bool) :
    ∃ item, (sub.withPrice details.itemId priceId endTrial).items.head? = some item ∧
      item.id = some details.itemId ∧ item.price = some priceId := by
  obtain ⟨item, hitem, h⟩ := except_bind_eq_ok h
  obtain ⟨itemId, hitemId, h⟩ := except_bind_eq_ok h
  obtain ⟨_, -, h⟩ := except_bind_eq_ok h
  obtain ⟨_, -, h⟩ := except_bind_eq_ok h
  obtain ⟨_, -, h⟩ := except_bind_eq_ok h
  cases h
  replace hitemId := orMalformed_eq_ok hitemId
  exact ⟨{ item with price := some priceId }, by
    simp [LiveSubscription.withPrice, orMalformed_eq_ok hitem, hitemId], hitemId, rfl⟩

theorem LiveSubscription.periodEnd_withPrice (sub : LiveSubscription) (itemId priceId : String)
    (endTrial : Bool) : (sub.withPrice itemId priceId endTrial).periodEnd = sub.periodEnd := by
  simp only [LiveSubscription.periodEnd, LiveSubscription.withPrice]
  cases sub.items with
  | nil => rfl
  | cons item items =>
    simp only [List.map_cons, List.head?_cons, bind_some]
    split
    · rfl
    · rfl

section

variable {out : Except BillingError ChangePlanResponse × Account}

theorem OnPlan.changed (h : OnPlan s tenantId) (hr : Resolves s tenantId change.priceId r)
    (hchanged : Changed change s r out) : OnPlan out.2 tenantId := by
  cases hchanged with
  | upgraded hlevel =>
    obtain ⟨item, hitem, hid, hprice⟩ :=
      LiveSubscription.withPrice_head hr.details change.priceId r.details.trialing
    refine ⟨h.ref, ⟨item, change.priceId, hitem, by simp [hid], hprice, ?_⟩, ?_⟩
    · exact isSome_of_eq_some hr.target
    · have hend := s.stripe.periodEnd_withPrice r.details.itemId change.priceId r.details.trialing
      exact hend ▸ h.periodEnd
  | scheduled | canceled => exact ⟨h.ref, h.item, h.periodEnd⟩
  | unchanged hlevel => exact h

theorem Changed.settles (hr : Resolves s tenantId change.priceId r)
    (hchanged : Changed change s r out) (hafter : OnPlan out.2 tenantId) :
    Settles change tenantId s out := by
  have hreads := s.stripe.reads_of_details hr.details
  have hreported := hafter.outcome_billingSubscription change.newId
  cases hchanged with
  | upgraded hlevel =>
    obtain ⟨item, hitem, -, hprice⟩ :=
      LiveSubscription.withPrice_head hr.details change.priceId r.details.trialing
    have hafterPrice : (s.stripe.withPrice r.details.itemId change.priceId
        r.details.trialing).price = some change.priceId := by
      simp [LiveSubscription.price, hitem, hprice]
    refine ⟨?_, fun _ _ _ => ⟨rfl, rfl⟩, fun _ _ _ => hafterPrice, ?_, ?_, hreported⟩
    · rintro _ ⟨⟩ ⟨⟩
    · rintro _ ⟨⟩ hne
      exact absurd rfl hne
    · rintro _ ⟨⟩
  | scheduled hlevel =>
    refine ⟨fun _ _ _ => ?_, ?_, ?_, fun _ _ _ => rfl, ?_, hreported⟩
    · exact ⟨_, _, hreads.periodEnd, by rw [hreads.price]; rfl,
        hr.pending_downgraded change.priceId⟩
    · rintro _ ⟨⟩ hne
      exact absurd rfl hne
    · rintro _ ⟨⟩ ⟨⟩
    · rintro _ ⟨⟩
  | canceled hlevel =>
    refine ⟨?_, fun _ _ _ => ⟨rfl, rfl⟩, ?_, fun _ _ _ => rfl, ?_, hreported⟩
    · rintro _ ⟨⟩ ⟨⟩
    · rintro _ ⟨⟩ ⟨⟩
    · rintro _ ⟨⟩
  | unchanged hlevel =>
    refine ⟨?_, ?_, ?_, ?_, ?_, hreported⟩
    · rintro _ ⟨⟩
    · rintro _ ⟨⟩
    · rintro _ ⟨⟩
    · rintro _ ⟨⟩
    · rintro _ ⟨⟩
      exact ⟨⟨_, rfl⟩, rfl⟩

end

/-- One plan change. -/
theorem OnPlan.apply (h : OnPlan s tenantId) (change : PlanChange) :
    OnPlan (change.apply tenantId s).2 tenantId ∧
      Settles change tenantId s (change.apply tenantId s) := by
  cases htarget : s.catalog.plan? change.priceId with
  | none =>
    rw [h.apply_unknown htarget]
    refine ⟨h, ?_, ?_, ?_, ?_, ?_, h.outcome_billingSubscription change.newId⟩
    · rintro _ ⟨⟩
    · rintro _ ⟨⟩
    · rintro _ ⟨⟩
    · rintro _ ⟨⟩
    · rintro _ ⟨⟩
      exact ⟨⟨_, rfl⟩, rfl⟩
  | some target =>
    obtain ⟨r, hr⟩ := h.resolves htarget
    have hafter := h.changed hr hr.changed
    exact ⟨hafter, hr.changed.settles hr hafter⟩

def applyAll (tenantId : String) (s : Account) (changes : List PlanChange) : Account :=
  changes.foldl (fun s change => (change.apply tenantId s).2) s

theorem OnPlan.applyAll (h : OnPlan s tenantId) (changes : List PlanChange) :
    OnPlan (applyAll tenantId s changes) tenantId := by
  induction changes generalizing s with
  | nil => exact h
  | cons change changes ih => exact ih (h.apply change).1

end

/-- Each of a sequence of plan changes leaves only what it answered: the change that it scheduled,
or none. -/
theorem pending_never_compounds {s : Account} {tenantId : String} (h : OnPlan s tenantId)
    (changes : List PlanChange) (change : PlanChange) :
    Settles change tenantId (applyAll tenantId s changes)
      (change.apply tenantId (applyAll tenantId s changes)) :=
  ((h.applyAll changes).apply change).2

/-! ## Trials -/

/-- `TRIAL_PRESERVE_MIN_HOURS`, in seconds. -/
def trialPreserveMin : Int := 48 * 3600

structure CheckoutSession where
  customerId : Option String
  email : String
  priceId : String
  tenantId : String
  coupon : Option String
  trialEnd : Option Int
  deriving DecidableEq

/-- `BillingService::start_checkout`: the session that it asks for, from what it has read. -/
def startCheckout (customerId : Option String) (snapshot : CatalogSnapshot)
    (current : Option SubscriptionView) (tenantId email priceId : String) (acceptFullPrice : Bool)
    (now : Int) : CheckoutSession where
  customerId := customerId
  email := email
  priceId := priceId
  tenantId := tenantId
  coupon := if acceptFullPrice then none else liveCouponForPrice snapshot priceId now
  trialEnd := do
    let sub ← current.filter (·.status = .trialing)
    let target ← snapshot.plan? priceId
    let expires ← sub.trialExpiresAt
    if Entitlement.Within target.entitlement sub.entitlement ∧ now + trialPreserveMin < expires then
      some expires
    else none

theorem LiveSubscription.trialing_of_details {sub : LiveSubscription}
    {details : SubscriptionDetails} (h : sub.details = .ok details) :
    details.trialing = decide (sub.status = "trialing") := by
  obtain ⟨item, -, h⟩ := except_bind_eq_ok h
  obtain ⟨itemId, -, h⟩ := except_bind_eq_ok h
  obtain ⟨priceId, -, h⟩ := except_bind_eq_ok h
  obtain ⟨periodEnd, -, h⟩ := except_bind_eq_ok h
  obtain ⟨time, -, h⟩ := except_bind_eq_ok h
  cases h
  rfl

/-- For a trial with more than the minimum time left, a checkout and a plan change of a
subscription that is still trialing at Stripe both keep the trial just when the plan grants no more
than the trial, exactly if that is also when the plan change does not go up a level. -/
theorem trial_kept_iff {s : Account} {tenantId : String} {change : PlanChange} {r : Resolved}
    (hresolves : Resolves s tenantId change.priceId r) (htrialing : s.stripe.status = "trialing")
    (customerId : Option String) (email : String) (trial : SubscriptionView) (expires : Int)
    (hstatus : trial.status = .trialing) (hexpires : trial.trialExpiresAt = some expires)
    (hleft : change.now + trialPreserveMin < expires) :
    (((change.apply tenantId s).2.stripe.status = "trialing" ↔
        Entitlement.Within r.target.entitlement trial.entitlement) ∧
      ((startCheckout customerId s.catalog (some trial) tenantId email change.priceId
          change.acceptFullPrice change.now).trialEnd = some expires ↔
        Entitlement.Within r.target.entitlement trial.entitlement)) ↔
    (r.target.level ≤ r.current.level ↔
      Entitlement.Within r.target.entitlement trial.entitlement) := by
  have hkept : (change.apply tenantId s).2.stripe.status = "trialing" ↔
      r.target.level ≤ r.current.level := by
    have hends : r.details.trialing = true := by
      rw [s.stripe.trialing_of_details hresolves.details, htrialing]
      rfl
    have hchanged := hresolves.changed
    generalize change.apply tenantId s = after at hchanged ⊢
    cases hchanged with
    | upgraded hlevel =>
      refine iff_of_false ?_ (Nat.not_le_of_lt hlevel)
      simp [Account.withStripe, LiveSubscription.withPrice, hends]
    | scheduled hlevel => exact iff_of_true htrialing hlevel.le
    | canceled hlevel => exact iff_of_true htrialing hlevel.le
    | unchanged hlevel => exact iff_of_true htrialing hlevel.le
  have hcheckout : (startCheckout customerId s.catalog (some trial) tenantId email change.priceId
      change.acceptFullPrice change.now).trialEnd = some expires ↔
      Entitlement.Within r.target.entitlement trial.entitlement := by
    simp [startCheckout, Option.filter, hstatus, hresolves.target, hexpires, hleft]
  rw [hkept, and_iff_left hcheckout]

def sampleTrialing (second : Entitlement) : Account where
  billing := samplePending.billing
  catalog := ⟨[samplePending.plan "price-1" 1,
    { samplePending.plan "price-2" 2 with entitlement := second }], [], some 0⟩
  stripe :=
    { id := "sub-1"
      status := "trialing"
      currentPeriodStart := 0
      currentPeriodEnd := some 1000000
      items := [⟨some "item-1", some "price-1", none⟩]
      schedule := none
      period := by simp }

def sampleUpgrade : PlanChange := ⟨"price-2", false, 0, "sched-1"⟩

def sampleTrial : SubscriptionView := ⟨.trialing, ⟨1, 1⟩, some 1000000, none⟩

theorem trial_kept_iff_sample :
    ((sampleUpgrade.apply "tenant-1" (sampleTrialing ⟨2, 2⟩)).2.stripe.status = "trialing" ↔
      Entitlement.Within ⟨2, 2⟩ ⟨1, 1⟩) ∧
    ((startCheckout none (sampleTrialing ⟨2, 2⟩).catalog (some sampleTrial) "tenant-1" "a@b.c"
      "price-2" false 0).trialEnd = some 1000000 ↔ Entitlement.Within ⟨2, 2⟩ ⟨1, 1⟩) := by
  have hresolves : ∃ r, Resolves (sampleTrialing ⟨2, 2⟩) "tenant-1" "price-2" r ∧
      r.target.level = 2 ∧ r.current.level = 1 ∧ r.target.entitlement = ⟨2, 2⟩ :=
    ⟨⟨"sub-1", _, _, ⟨"item-1", "price-1", 1000000, none, true⟩, _⟩,
      ⟨rfl, rfl, rfl, rfl, rfl, rfl⟩, rfl, rfl, rfl⟩
  obtain ⟨r, hr, htarget, hcurrent, hentitlement⟩ := hresolves
  have hiff := @trial_kept_iff _ _ sampleUpgrade _ hr rfl none "a@b.c" sampleTrial 1000000 rfl
    rfl (by decide)
  rw [htarget, hcurrent, hentitlement] at hiff
  exact hiff.mpr (by decide)

/-- After an upgrade, the first plan is asked for again. -/
theorem pending_never_compounds_sample : (applyAll "tenant-1" (sampleTrialing ⟨2, 2⟩)
        [sampleUpgrade, ⟨"price-1", false, 0, "sched-1"⟩]).stripe.pending =
      some ⟨"price-1", 1000000⟩ := by
  have hon : OnPlan (sampleTrialing ⟨2, 2⟩) "tenant-1" := ⟨rfl, ⟨_, _, rfl, rfl, rfl, rfl⟩, rfl⟩
  obtain ⟨_, _, hend, -, hpending⟩ := (pending_never_compounds hon [sampleUpgrade]
    ⟨"price-1", false, 0, "sched-1"⟩).scheduled _ rfl rfl
  cases hend
  exact hpending

/-- The second plan grants what the trial grants. A checkout keeps the trial, and a plan change
ends it. -/
theorem trial_kept_iff_counterexample :
    (sampleUpgrade.apply "tenant-1" (sampleTrialing ⟨1, 1⟩)).2.stripe.status = "active" ∧
    (startCheckout none (sampleTrialing ⟨1, 1⟩).catalog (some sampleTrial) "tenant-1" "a@b.c"
      "price-2" false 0).trialEnd = some 1000000 ∧ Entitlement.Within ⟨1, 1⟩ ⟨1, 1⟩ :=
  ⟨rfl, by decide, by decide⟩

end Wardnet.Billing

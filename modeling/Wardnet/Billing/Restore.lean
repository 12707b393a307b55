/-
# Plan changes that fail

A plan change that fails should leave the current price and the pending change as they were.
Up to the release nothing is changed. After it, what is left behind depends on the request
that failed: an upgrade or the first request of a downgrade leaves no schedule, so the pending
change can be scheduled again; the second request of a downgrade leaves one that has no
change planned yet, and the pending change is lost.
-/

import Mathlib.Order.Basic
import Wardnet.Billing.ChangePlan

namespace Wardnet.Billing

open Base Base.Prog

/-! ## Reading -/

theorem timestampOpt_eq_some {seconds time : Int} (h : timestampOpt seconds = some time) :
    time = seconds := by
  unfold timestampOpt at h
  split at h
  · exact (Option.some.inj h).symm
  · cases h

theorem orMalformed_eq_ok {α : Type} {value : Option α} {message : String} {a : α}
    (h : orMalformed value message = .ok a) : value = some a := by
  cases value with
  | none => cases h
  | some value =>
    cases h
    rfl

def LiveSubscription.periodEnd (sub : LiveSubscription) : Option Int :=
  sub.currentPeriodEnd.or (sub.items.head?.bind (·.currentPeriodEnd))

structure LiveSubscription.Reads (sub : LiveSubscription) (details : SubscriptionDetails) :
    Prop where
  item : sub.items.any (·.id = some details.itemId) = true
  price : sub.price = some details.priceId
  periodEnd : sub.periodEnd = some details.currentPeriodEnd
  timestamp : timestampOpt details.currentPeriodEnd = some details.currentPeriodEnd
  schedule : details.scheduleId = sub.schedule.map (·.id)

variable {sub : LiveSubscription} {periodEnd : Int}

theorem LiveSubscription.reads_of_details {details : SubscriptionDetails}
    (h : sub.details = .ok details) : sub.Reads details := by
  obtain ⟨item, hitem, h⟩ := except_bind_eq_ok h
  obtain ⟨itemId, hitemId, h⟩ := except_bind_eq_ok h
  obtain ⟨priceId, hpriceId, h⟩ := except_bind_eq_ok h
  obtain ⟨periodEnd, hperiodEnd, h⟩ := except_bind_eq_ok h
  obtain ⟨time, htime, h⟩ := except_bind_eq_ok h
  cases h
  replace hitem := orMalformed_eq_ok hitem
  replace hitemId := orMalformed_eq_ok hitemId
  replace hpriceId := orMalformed_eq_ok hpriceId
  replace hperiodEnd := orMalformed_eq_ok hperiodEnd
  replace htime := orMalformed_eq_ok htime
  obtain rfl := timestampOpt_eq_some htime
  refine ⟨?_, ?_, ?_, htime, rfl⟩
  · exact List.any_eq_true.mpr ⟨item, List.mem_of_head? hitem, by simp [hitemId]⟩
  · simp [LiveSubscription.price, hitem, hpriceId]
  · simp [LiveSubscription.periodEnd, hitem, hperiodEnd]

theorem LiveSubscription.pending_eq (h : sub.periodEnd = some periodEnd) :
    sub.pending = sub.schedule.bind (·.pendingChange periodEnd) := by
  simp only [LiveSubscription.periodEnd] at h
  cases hschedule : sub.schedule with
  | none => simp [LiveSubscription.pending, hschedule]
  | some schedule => simp [LiveSubscription.pending, hschedule, h]

/-- A schedule that has just been attached plans no change. -/
theorem LiveSubscription.pendingChange_seeded (h : sub.periodEnd = some periodEnd)
    (scheduleId : String) :
    (sub.seeded scheduleId).pendingChange periodEnd = none := by
  have hlt := sub.period periodEnd h
  simp [LiveSubscription.seeded, SubscriptionSchedule.pendingChange, hlt]

/-- A scheduled downgrade is what is pending. -/
theorem LiveSubscription.pendingChange_scheduled (h : sub.periodEnd = some periodEnd)
    (htime : timestampOpt periodEnd = some periodEnd) (scheduleId priceId newPriceId : String) :
    SubscriptionSchedule.pendingChange ⟨scheduleId,
      [⟨some sub.currentPeriodStart, [some priceId]⟩, ⟨some periodEnd, [some newPriceId]⟩]⟩
      periodEnd = some ⟨newPriceId, periodEnd⟩ := by
  have hlt := sub.period periodEnd h
  simp [SubscriptionSchedule.pendingChange, hlt, htime]

/-! ## Requests -/

section

variable {couponRejected : Bool} {newId : String} {s : Account} {n : Option ℕ}

/-- Run a procedure while one of its requests fails. -/
abbrev Account.outcome (couponRejected : Bool) (newId : String) {α : Type} (p : PlanProc α)
    (s : Account) (n : Option ℕ) : α × Account × Option ℕ :=
  p.eval (faulty (Account.refuse couponRejected) (Account.answer newId)) (s, n)

theorem outcome_send (c : PlanCall) (k : ℕ) :
    Account.outcome couponRejected newId (send c) s (after (k + 1) n) =
      ((Account.answer newId c s).1, (Account.answer newId c s).2, after k n) :=
  faulty_after k n

theorem outcome_internal_ok {α : Type} {p : Gateway α} {value : α} {t : Account × Option ℕ}
    (h : Account.outcome couponRejected newId p.run s n = (.ok value, t)) :
    Account.outcome couponRejected newId (internal p).run s n = (.ok value, t) :=
  eval_bind_of_eval h

theorem outcome_internal_error {α : Type} {p : Gateway α} {e : CallError} {t : Account × Option ℕ}
    (h : Account.outcome couponRejected newId p.run s n = (.error e, t)) :
    Account.outcome couponRejected newId (internal p).run s n = (.error (.internal e), t) :=
  eval_bind_of_eval h

/-- A new schedule with a downgrade that is planned for the end of the period. -/
def Account.downgraded (s : Account) (scheduleId priceId newPriceId : String) (periodEnd : Int) :
    Account :=
  s.withStripe (s.stripe.withSchedule (some ⟨scheduleId,
    [⟨some s.stripe.currentPeriodStart, [some priceId]⟩, ⟨some periodEnd, [some newPriceId]⟩]⟩))

def Account.attached (s : Account) (scheduleId : String) : Account :=
  s.withStripe (s.stripe.withSchedule (some (s.stripe.seeded scheduleId)))

section

variable {priceId newPriceId : String} {periodEnd : Int}

theorem answer_createSchedule (hfree : s.stripe.schedule = none) :
    Account.answer newId (.createSchedule s.stripe.id) s =
      (.ok (s.stripe.seeded newId), s.attached newId) := by
  simp [Account.answer, hfree, Account.attached]

theorem answer_createSchedule_attached (subscriptionId : String)
    (hattached : s.stripe.schedule ≠ none) :
    Account.answer newId (.createSchedule subscriptionId) s = (.error .failed, s) := by
  simp [Account.answer, hattached]

theorem answer_updateSchedule (phases : List SchedulePhase) :
    Account.answer newId (.updateSchedule newId phases) (s.attached newId) =
      (.ok (), s.withStripe (s.stripe.withSchedule (some ⟨newId, phases⟩))) := by
  have hfound : (s.attached newId).schedule? newId = some (s.stripe.seeded newId) := by
    simp [Account.schedule?, Account.attached, Account.withStripe, LiveSubscription.withSchedule,
      LiveSubscription.seeded, Option.filter]
  simp only [Account.answer, hfound]
  rfl

theorem outcome_scheduleDowngrade (hfree : s.stripe.schedule = none) :
    Account.outcome couponRejected newId
        (scheduleDowngrade s.stripe.id priceId newPriceId periodEnd).run s (after 2 n) =
      (.ok periodEnd, s.downgraded newId priceId newPriceId periodEnd, n) := by
  have hcreate : Account.outcome couponRejected newId
      (request (send (.createSchedule s.stripe.id))).run s (after 2 n) =
      (.ok (s.stripe.seeded newId), s.attached newId, after 1 n) := by
    refine (outcome_send (.createSchedule s.stripe.id) 1).trans ?_
    rw [answer_createSchedule hfree]
    rfl
  have hupdate : Account.outcome couponRejected newId (request (send (.updateSchedule newId
      [⟨some s.stripe.currentPeriodStart, [some priceId]⟩,
        ⟨some periodEnd, [some newPriceId]⟩]))).run
      (s.attached newId) (after 1 n) =
      (.ok (), s.downgraded newId priceId newPriceId periodEnd, n) := by
    refine (outcome_send (.updateSchedule newId _) 0).trans ?_
    rw [after_zero, answer_updateSchedule]
    rfl
  refine (eval_exceptBind_ok hcreate).trans ?_
  exact eval_exceptBind_ok hupdate

theorem outcome_scheduleDowngrade_zero (subscriptionId : String) :
    Account.outcome couponRejected newId
        (scheduleDowngrade subscriptionId priceId newPriceId periodEnd).run s (some 0) =
      (.error .failed, s, none) := rfl

/-- The second request fails: a schedule is left behind. -/
theorem outcome_scheduleDowngrade_one (hfree : s.stripe.schedule = none) :
    Account.outcome couponRejected newId
        (scheduleDowngrade s.stripe.id priceId newPriceId periodEnd).run s (some 1) =
      (.error .failed, s.attached newId, none) := by
  have hcreate : Account.outcome couponRejected newId
      (request (send (.createSchedule s.stripe.id))).run s (some 1) =
      (.ok (s.stripe.seeded newId), s.attached newId, some 0) := by
    refine (outcome_send (n := some 0) (.createSchedule s.stripe.id) 0).trans ?_
    rw [answer_createSchedule hfree]
    rfl
  exact eval_exceptBind_ok hcreate

/-- Stripe attaches no second schedule. -/
theorem outcome_scheduleDowngrade_attached (subscriptionId : String)
    (hattached : s.stripe.schedule ≠ none) :
    Account.outcome couponRejected newId
        (scheduleDowngrade subscriptionId priceId newPriceId periodEnd).run s none =
      (.error .failed, s, none) := by
  have hcreate : Account.outcome couponRejected newId
      (request (send (.createSchedule subscriptionId))).run s none = (.error .failed, s, none) := by
    refine (outcome_send (n := none) (.createSchedule subscriptionId) 0).trans ?_
    rw [answer_createSchedule_attached subscriptionId hattached]
    rfl
  exact eval_exceptBind_error hcreate

theorem outcome_restorePending (hfree : s.stripe.schedule = none) (prior : ScheduledChange) :
    Account.outcome couponRejected newId
        (restorePending s.stripe.id priceId (some prior) periodEnd) s none =
      ((), s.downgraded newId priceId prior.priceId periodEnd, none) := by
  exact eval_bind_of_eval (outcome_scheduleDowngrade (n := none) hfree)

theorem outcome_restorePending_attached (subscriptionId : String)
    (hattached : s.stripe.schedule ≠ none) (prior : Option ScheduledChange) :
    Account.outcome couponRejected newId
      (restorePending subscriptionId priceId prior periodEnd) s none = ((), s, none) := by
  cases prior with
  | none => rfl
  | some prior =>
    exact eval_bind_of_eval (outcome_scheduleDowngrade_attached subscriptionId hattached)

end

theorem outcome_upgradeSubscription {itemId priceId : String} {coupon : Option String}
    {endTrial : Bool} (hitem : s.stripe.items.any (·.id = some itemId) = true) :
    Account.outcome couponRejected newId
        (upgradeSubscription s.stripe.id itemId priceId coupon endTrial).run s (after 1 n) =
      (.ok (), s.withStripe (s.stripe.withPrice itemId priceId endTrial), n) := by
  refine (outcome_send (.updateSubscription s.stripe.id itemId priceId coupon endTrial) 0).trans ?_
  have hanswer : Account.answer newId
      (.updateSubscription s.stripe.id itemId priceId coupon endTrial) s =
      (.ok (), s.withStripe (s.stripe.withPrice itemId priceId endTrial)) := by
    simp only [Account.answer, hitem, and_self, if_true]
  rw [hanswer, after_zero]
  rfl

/-! ## The act -/

section

variable {r : Resolved} {priceId : String} {acceptFullPrice : Bool} {now : Int}
  {prior : Option ScheduledChange}

structure Ready (s : Account) (r : Resolved) : Prop where
  id : r.subscriptionId = s.stripe.id
  free : s.stripe.schedule = none
  item : s.stripe.items.any (·.id = some r.details.itemId) = true

/-- The pending change is scheduled again, for the end of the period. -/
def Account.restored (s : Account) (scheduleId priceId : String) (periodEnd : Int) :
    Option ScheduledChange → Account
  | none => s
  | some prior => s.downgraded scheduleId priceId prior.priceId periodEnd

theorem outcome_orRestore_ok {α : Type} {p : Gateway α} {response : α → ChangePlanResponse}
    {error : CallError → BillingError} {value : α} {t : Account × Option ℕ}
    (h : Account.outcome couponRejected newId p.run s n = (.ok value, t)) :
    Account.outcome couponRejected newId (act.orRestore r prior p response error).run s n =
      (.ok (response value), t) :=
  eval_bind_of_eval h

theorem outcome_orRestore_error {α : Type} {p : Gateway α} {response : α → ChangePlanResponse}
    {error : CallError → BillingError} {e : CallError} {t u : Account × Option ℕ}
    (h : Account.outcome couponRejected newId p.run s n = (.error e, t))
    (hrestore : Account.outcome couponRejected newId (restorePending r.subscriptionId
      r.details.priceId prior r.details.currentPeriodEnd) t.1 t.2 = ((), u)) :
    Account.outcome couponRejected newId (act.orRestore r prior p response error).run s n =
      (.error (error e), u) :=
  (eval_bind_of_eval h).trans (eval_bind_of_eval hrestore)

theorem Ready.restore (h : Ready s r) (prior : Option ScheduledChange) :
    Account.outcome couponRejected newId (restorePending r.subscriptionId r.details.priceId prior
        r.details.currentPeriodEnd) s none =
      ((), s.restored newId r.details.priceId r.details.currentPeriodEnd prior, none) := by
  cases prior with
  | none => rfl
  | some prior =>
    rw [h.id]
    exact outcome_restorePending h.free prior

section

variable {out : Except BillingError ChangePlanResponse} {t : Account × Option ℕ}

theorem Ready.act_zero (h : Ready s r) (hne : r.target.level ≠ r.current.level)
    (hact : Account.outcome couponRejected newId (act r priceId acceptFullPrice now prior).run s
      (some 0) = (out, t)) :
    (∃ e, out = .error e) ∧
      t.1 = s.restored newId r.details.priceId r.details.currentPeriodEnd prior := by
  unfold act at hact
  split at hact
  · rename_i heq
    exact absurd (compare_eq_iff_eq.mp heq) hne
  · rw [outcome_orRestore_error rfl (h.restore prior)] at hact
    cases hact
    exact ⟨⟨_, rfl⟩, rfl⟩
  · rw [outcome_orRestore_error (outcome_scheduleDowngrade_zero _) (h.restore prior)] at hact
    cases hact
    exact ⟨⟨_, rfl⟩, rfl⟩

theorem Ready.act_one (h : Ready s r) (hlt : r.target.level < r.current.level)
    (hact : Account.outcome couponRejected newId (act r priceId acceptFullPrice now prior).run s
      (some 1) = (out, t)) :
    (∃ e, out = .error e) ∧ t.1 = s.attached newId := by
  have hattached : (s.attached newId).stripe.schedule ≠ none := by
    simp [Account.attached, Account.withStripe, LiveSubscription.withSchedule]
  unfold act at hact
  rw [compare_lt_iff_lt.mpr hlt, h.id] at hact
  rw [outcome_orRestore_error (outcome_scheduleDowngrade_one h.free)
    (outcome_restorePending_attached _ hattached prior)] at hact
  cases hact
  exact ⟨⟨_, rfl⟩, rfl⟩

theorem Ready.act_lt (h : Ready s r) (hlt : r.target.level < r.current.level)
    (hact : Account.outcome couponRejected newId (act r priceId acceptFullPrice now prior).run s
      (after 2 n) = (out, t)) :
    out = .ok ⟨.downgradeScheduled, some r.details.currentPeriodEnd, some r.details.priceId⟩ ∧
      t.1 = s.downgraded newId r.details.priceId priceId r.details.currentPeriodEnd := by
  unfold act at hact
  rw [compare_lt_iff_lt.mpr hlt, h.id] at hact
  rw [outcome_orRestore_ok (outcome_scheduleDowngrade h.free)] at hact
  cases hact
  exact ⟨rfl, rfl⟩

theorem Ready.act_gt (h : Ready s r) (hgt : r.current.level < r.target.level)
    (hact : Account.outcome couponRejected newId (act r priceId acceptFullPrice now prior).run s
      (after 1 n) = (out, t)) : out = .ok ⟨.upgraded, none, some priceId⟩ ∧ t.1 =
      s.withStripe (s.stripe.withPrice r.details.itemId priceId r.details.trialing) := by
  unfold act at hact
  rw [compare_gt_iff_gt.mpr hgt, h.id] at hact
  rw [outcome_orRestore_ok (outcome_upgradeSubscription h.item)] at hact
  cases hact
  exact ⟨rfl, rfl⟩

theorem Ready.act_error (h : Ready s r) {e : BillingError}
    (hact : Account.outcome couponRejected newId (act r priceId acceptFullPrice now prior).run s n =
      (.error e, t)) :
    (r.details.scheduleId = none ∧ t.1 = s) ∨
    (n = some 0 ∧ r.target.level ≠ r.current.level ∧
      t.1 = s.restored newId r.details.priceId r.details.currentPeriodEnd prior) ∨
    (n = some 1 ∧ r.target.level < r.current.level ∧ t.1 = s.attached newId) := by
  rcases lt_trichotomy r.target.level r.current.level with hlt | heq | hgt
  · rcases n with - | - | - | n
    · cases (h.act_lt (n := none) hlt hact).1
    · exact .inr (.inl ⟨rfl, hlt.ne, (h.act_zero hlt.ne hact).2⟩)
    · exact .inr (.inr ⟨rfl, hlt, (h.act_one hlt hact).2⟩)
    · cases (h.act_lt (n := some n) hlt hact).1
  · unfold act at hact
    rw [compare_eq_iff_eq.mpr heq] at hact
    dsimp only at hact
    split at hact
    · cases hact
    · rename_i hnone
      cases hact
      exact .inl ⟨by simpa using hnone, rfl⟩
  · rcases n with - | - | n
    · cases (h.act_gt (n := none) hgt hact).1
    · exact .inr (.inl ⟨rfl, hgt.ne', (h.act_zero hgt.ne' hact).2⟩)
    · cases (h.act_gt (n := some n) hgt hact).1

end

end

/-! ## Up to the release -/

/-- A request that is answered with `x`, and leaves `s'`, unless it is the one that fails. -/
structure Answers {α : Type} (s : Account) (p : Gateway α) (x : Except CallError α)
    (s' : Account) : Prop where
  refused : ∀ couponRejected newId,
    Account.outcome couponRejected newId p.run s (some 0) = (.error .failed, s, none)
  answered : ∀ couponRejected newId n,
    Account.outcome couponRejected newId p.run s (after 1 n) = (x, s', n)

section

variable {α : Type} {p : Gateway α} {x : Except CallError α} {s' : Account} {t : Account × Option ℕ}

theorem Answers.bind_ok {β : Type} {f : α → Operation β} {value : α}
    (h : Answers s p (.ok value) s') :
    Account.outcome couponRejected newId (internal p >>= f).run s (after 1 n) =
      Account.outcome couponRejected newId (f value).run s' n :=
  eval_exceptBind_ok (outcome_internal_ok (h.answered couponRejected newId n))

/-- A request that fails ends the operation; otherwise it goes on with the answer. -/
theorem Answers.bind_cases {β : Type} {f : α → Operation β} {out : Except BillingError β}
    (h : Answers s p x s')
    (hout : Account.outcome couponRejected newId (internal p >>= f).run s n = (out, t)) :
    ((∃ e, out = .error e) ∧ (t.1 = s ∨ t.1 = s' ∧ ∃ e, x = .error e)) ∨
      ∃ m value, n = after 1 m ∧ x = .ok value ∧
        Account.outcome couponRejected newId (f value).run s' m = (out, t) := by
  obtain rfl | ⟨m, rfl⟩ := eq_zero_or_after n
  · have heval := outcome_internal_error (h.refused couponRejected newId)
    rw [Account.outcome, eval_exceptBind_error heval] at hout
    cases hout
    exact .inl ⟨⟨_, rfl⟩, .inl rfl⟩
  · cases x with
    | error e =>
      have heval := outcome_internal_error (h.answered couponRejected newId m)
      rw [Account.outcome, eval_exceptBind_error heval] at hout
      cases hout
      exact .inl ⟨⟨_, rfl⟩, .inr ⟨rfl, e, rfl⟩⟩
    | ok value => exact .inr ⟨m, value, rfl, rfl, h.bind_ok.symm.trans hout⟩

end

theorem answers_billingRef (tenantId : String) :
    Answers s (request (send (.billingRef tenantId))) (.ok (s.billing.get? tenantId)) s where
  refused _ _ := rfl
  answered _ _ n := (outcome_send (.billingRef tenantId) 0).trans (by rw [after_zero]; rfl)

theorem answers_readCatalog : Answers s (request (send .readCatalog)) (.ok s.catalog) s where
  refused _ _ := rfl
  answered _ _ n := (outcome_send .readCatalog 0).trans (by rw [after_zero]; rfl)

theorem answers_getSubscription (subscriptionId : String) :
    Answers s (getSubscription subscriptionId)
      (if subscriptionId = s.stripe.id then s.stripe.details else .error .failed) s where
  refused _ _ := rfl
  answered couponRejected newId n := by
    split
    · rename_i hid
      have hsend : Account.outcome couponRejected newId (send (.getSubscription subscriptionId)) s
          (after 1 n) = (.ok s.stripe, s, n) := by
        refine (outcome_send _ 0).trans ?_
        rw [after_zero, Account.answer, if_pos hid]
      exact eval_exceptBind_ok hsend
    · rename_i hid
      have hsend : Account.outcome couponRejected newId (send (.getSubscription subscriptionId)) s
          (after 1 n) = (.error .failed, s, n) := by
        refine (outcome_send _ 0).trans ?_
        rw [after_zero, Account.answer, if_neg hid]
      exact eval_exceptBind_error hsend

def Account.released (s : Account) : Account := s.withStripe (s.stripe.withSchedule none)

section

variable {schedule : SubscriptionSchedule}

theorem schedule?_of_attached (h : s.stripe.schedule = some schedule) :
    s.schedule? schedule.id = some schedule := by
  simp [Account.schedule?, h, Option.filter]

theorem answers_pendingScheduledChange (h : s.stripe.schedule = some schedule) (periodEnd : Int) :
    Answers s (pendingScheduledChange schedule.id periodEnd)
      (.ok (schedule.pendingChange periodEnd)) s where
  refused _ _ := rfl
  answered couponRejected newId n := by
    have hsend : Account.outcome couponRejected newId (send (.getSchedule schedule.id)) s
        (after 1 n) = (.ok schedule, s, n) := by
      refine (outcome_send _ 0).trans ?_
      simp only [after_zero, Account.answer, schedule?_of_attached h]
    exact eval_exceptBind_ok hsend

theorem answers_releaseSchedule (h : s.stripe.schedule = some schedule) :
    Answers s (releaseSchedule schedule.id) (.ok ()) s.released where
  refused _ _ := rfl
  answered couponRejected newId n := by
    refine (outcome_send (.releaseSchedule schedule.id) 0).trans ?_
    simp only [after_zero, Account.answer, schedule?_of_attached h]
    rfl

end

structure Resolves (s : Account) (tenantId priceId : String) (r : Resolved) : Prop where
  ref : (s.billing.get? tenantId).bind (·.stripeSubscriptionId) = some r.subscriptionId
  id : r.subscriptionId = s.stripe.id
  snapshot : r.snapshot = s.catalog
  target : s.catalog.plan? priceId = some r.target
  details : s.stripe.details = .ok r.details
  current : s.catalog.plan? r.details.priceId = some r.current

section

variable {tenantId priceId : String} {acceptFullPrice : Bool} {now : Int} {r : Resolved}
  {t : Account × Option ℕ}

theorem orInvalid_cases {α β : Type} {value : Option α} {message : String} {f : α → Operation β}
    {out : Except BillingError β}
    (hout : Account.outcome couponRejected newId (orInvalid value message >>= f).run s n =
      (out, t)) :
    ((∃ e, out = .error e) ∧ t.1 = s) ∨
      ∃ a, value = some a ∧ Account.outcome couponRejected newId (f a).run s n = (out, t) := by
  cases value with
  | none =>
    cases hout
    exact .inl ⟨⟨_, rfl⟩, rfl⟩
  | some a => exact .inr ⟨a, rfl, hout⟩

theorem Resolves.outcome (h : Resolves s tenantId priceId r) :
    Account.outcome couponRejected newId (resolve tenantId priceId).run s (after 3 n) =
      (.ok r, s, n) := by
  obtain ⟨subscriptionId, snapshot, target, details, current⟩ := r
  obtain ⟨href, rfl, rfl, htarget, hdetails, hcurrent⟩ := h
  have hget := answers_getSubscription (s := s) s.stripe.id
  rw [if_pos rfl, hdetails] at hget
  rw [show after 3 n = after 1 (after 1 (after 1 n)) by simp [after_after]]
  refine (answers_billingRef tenantId).bind_ok.trans ?_
  rw [href]
  refine answers_readCatalog.bind_ok.trans ?_
  rw [htarget]
  refine hget.bind_ok.trans ?_
  rw [hcurrent]
  rfl

/-- The request is resolved by three reads. -/
theorem resolve_cases {out : Except BillingError Resolved}
    (hout : Account.outcome couponRejected newId (resolve tenantId priceId).run s n = (out, t)) :
    ((∃ e, out = .error e) ∧ t.1 = s) ∨
      ∃ r m, out = .ok r ∧ Resolves s tenantId priceId r ∧ n = after 3 m ∧ t = (s, m) := by
  rcases (answers_billingRef tenantId).bind_cases hout with ⟨herror, hs⟩ | ⟨m, ref, rfl, href, hout⟩
  · exact .inl ⟨herror, hs.elim id And.left⟩
  cases href
  rcases orInvalid_cases hout with herror | ⟨subscriptionId, hsubscription, hout⟩
  · exact .inl herror
  rcases answers_readCatalog.bind_cases hout with ⟨herror, hs⟩ | ⟨m, snapshot, rfl, hsnapshot, hout⟩
  · exact .inl ⟨herror, hs.elim id And.left⟩
  cases hsnapshot
  rcases orInvalid_cases hout with herror | ⟨target, htarget, hout⟩
  · exact .inl herror
  rcases (answers_getSubscription subscriptionId).bind_cases hout with
    ⟨herror, hs⟩ | ⟨m, details, rfl, hdetails, hout⟩
  · exact .inl ⟨herror, hs.elim id And.left⟩
  rcases orInvalid_cases hout with herror | ⟨current, hcurrent, hout⟩
  · exact .inl herror
  cases hout
  split at hdetails
  · rename_i hid
    exact .inr ⟨_, m, rfl, ⟨hsubscription, hid, rfl, htarget, hdetails, hcurrent⟩, by
      simp [after_after], rfl⟩
  · cases hdetails

section

variable (h : Resolves s tenantId priceId r)
include h

theorem Resolves.ready : Ready s.released r where
  id := h.id
  free := rfl
  item := (s.stripe.reads_of_details h.details).item

theorem Resolves.scheduleId : r.details.scheduleId = s.stripe.schedule.map (·.id) :=
  (s.stripe.reads_of_details h.details).schedule

theorem Resolves.pending :
    s.stripe.pending = s.stripe.schedule.bind (·.pendingChange r.details.currentPeriodEnd) :=
  s.stripe.pending_eq (s.stripe.reads_of_details h.details).periodEnd

/-- With a schedule attached, the act is reached after five requests. -/
theorem Resolves.outcome_changePlan {schedule : SubscriptionSchedule}
    (hschedule : s.stripe.schedule = some schedule) :
    Account.outcome couponRejected newId (changePlan tenantId priceId acceptFullPrice now).run s
        (after 5 n) =
      Account.outcome couponRejected newId
        (act r priceId acceptFullPrice now s.stripe.pending).run s.released n := by
  have hrelease : Account.outcome couponRejected newId (releasePending r.details).run s
      (after 2 n) = (.ok s.stripe.pending, s.released, n) := by
    rw [h.pending, hschedule, releasePending, h.scheduleId, hschedule]
    rw [show after 2 n = after 1 (after 1 n) by simp [after_after]]
    refine (answers_pendingScheduledChange hschedule _).bind_ok.trans ?_
    exact (answers_releaseSchedule hschedule).bind_ok
  rw [show after 5 n = after 3 (after 2 n) by simp [after_after]]
  refine (eval_exceptBind_ok h.outcome).trans ?_
  exact eval_exceptBind_ok hrelease

end

theorem released_of_free (hfree : s.stripe.schedule = none) : s.released = s := by
  obtain ⟨billing, catalog, stripe⟩ := s
  obtain ⟨id, status, periodStart, periodEnd, items, schedule, hperiod⟩ := stripe
  cases hfree
  rfl

/-- The pending change is read and its schedule released, or nothing is changed. -/
theorem releasePending_cases {m : Option ℕ} {out : Except BillingError (Option ScheduledChange)}
    (h : Resolves s tenantId priceId r)
    (hout : Account.outcome couponRejected newId (releasePending r.details).run s m = (out, t)) :
    ((∃ e, out = .error e) ∧ t.1 = s) ∨ ∃ m', out = .ok s.stripe.pending ∧
      (s.stripe.schedule ≠ none → m = after 2 m') ∧ t = (s.released, m') := by
  rw [h.pending]
  cases hschedule : s.stripe.schedule with
  | none =>
    rw [releasePending, h.scheduleId, hschedule] at hout
    cases hout
    exact .inr ⟨m, rfl, fun hsome => absurd rfl hsome, by rw [released_of_free hschedule]⟩
  | some schedule =>
    rw [releasePending, h.scheduleId, hschedule] at hout
    rcases (answers_pendingScheduledChange hschedule _).bind_cases hout with
      ⟨herror, hs⟩ | ⟨m, prior, rfl, hprior, hout⟩
    · exact .inl ⟨herror, hs.elim id And.left⟩
    cases hprior
    rcases (answers_releaseSchedule hschedule).bind_cases hout with
      ⟨herror, hs | ⟨-, e, hok⟩⟩ | ⟨m, _, rfl, -, hout⟩
    · exact .inl ⟨herror, hs⟩
    · cases hok
    · cases hout
      exact .inr ⟨m, rfl, fun _ => by rw [after_after], rfl⟩

/-- A plan change that fails did so before the release, or in the act. -/
theorem changePlan_error {e : BillingError}
    (hout : Account.outcome couponRejected newId
      (changePlan tenantId priceId acceptFullPrice now).run
      s n = (.error e, t)) :
    t.1 = s ∨ ∃ r m, Resolves s tenantId priceId r ∧ (s.stripe.schedule ≠ none → n = after 5 m) ∧
      Account.outcome couponRejected newId
        (act r priceId acceptFullPrice now s.stripe.pending).run s.released m = (.error e, t) := by
  rcases hresolve : Account.outcome couponRejected newId
    (resolve tenantId priceId).run s n with ⟨out, u⟩
  rcases resolve_cases hresolve with ⟨⟨e', rfl⟩, hs⟩ | ⟨r, m, rfl, hr, rfl, rfl⟩
  · rw [Account.outcome, changePlan, eval_exceptBind_error hresolve] at hout
    cases hout
    exact .inl hs
  rw [Account.outcome, changePlan, eval_exceptBind_ok hresolve] at hout
  rcases hrelease : Account.outcome couponRejected newId
    (releasePending r.details).run s m with ⟨out, u⟩
  rcases releasePending_cases hr hrelease with ⟨⟨e', rfl⟩, hs⟩ | ⟨m', rfl, hm, rfl⟩
  · rw [eval_exceptBind_error hrelease] at hout
    cases hout
    exact .inl hs
  · rw [eval_exceptBind_ok hrelease] at hout
    refine .inr ⟨r, m', hr, fun hschedule => ?_, hout⟩
    rw [hm hschedule, after_after]

end

end

/-! ## What a failing plan change leaves -/

/-- The current price and the pending change are as before. -/
def Account.Kept (s t : Account) : Prop :=
  t.stripe.price = s.stripe.price ∧ t.stripe.pending = s.stripe.pending

section

variable {s : Account} {tenantId priceId newId : String} {r : Resolved}

theorem Resolves.pending_attached (h : Resolves s tenantId priceId r) :
    (s.released.attached newId).stripe.pending = none := by
  have hend : (s.released.attached newId).stripe.periodEnd = some r.details.currentPeriodEnd :=
    (s.stripe.reads_of_details h.details).periodEnd
  rw [LiveSubscription.pending_eq hend]
  exact s.released.stripe.pendingChange_seeded hend newId

theorem Resolves.pending_downgraded (h : Resolves s tenantId priceId r) (newPriceId : String) :
    (s.released.downgraded newId r.details.priceId newPriceId
      r.details.currentPeriodEnd).stripe.pending =
      some ⟨newPriceId, r.details.currentPeriodEnd⟩ := by
  have hend : (s.released.downgraded newId r.details.priceId newPriceId
      r.details.currentPeriodEnd).stripe.periodEnd = some r.details.currentPeriodEnd :=
    (s.stripe.reads_of_details h.details).periodEnd
  rw [LiveSubscription.pending_eq hend]
  exact s.released.stripe.pendingChange_scheduled hend
    (s.stripe.reads_of_details h.details).timestamp newId _ newPriceId

/-- Without a pending change, there is nothing to lose. -/
theorem Resolves.kept_of_none (h : Resolves s tenantId priceId r) (hnone : s.stripe.pending = none)
    (newId : String) : s.Kept s.released ∧ s.Kept (s.released.attached newId) :=
  ⟨⟨rfl, hnone.symm⟩, ⟨rfl, h.pending_attached.trans hnone.symm⟩⟩

end

/-- A pending change outlives the failure of request number `n`, counted from zero. The act
starts with request number 5: if that one fails, the change has to be planned for the end of
the period, where it is scheduled again; and number 6 must not be the second request of a
downgrade. -/
def Restorable (s : Account) (tenantId priceId : String) (n : Option ℕ) : Prop :=
  ∀ r prior, Resolves s tenantId priceId r → s.stripe.pending = some prior →
    (n = some 5 → r.target.level ≠ r.current.level →
      prior.effectiveAt = r.details.currentPeriodEnd) ∧
    (n = some 6 → r.current.level ≤ r.target.level)

/-- A plan change that fails keeps the price and the pending change, just when the pending
change outlives the request that fails. -/
theorem plan_change_keeps_iff (couponRejected : Bool) (newId tenantId priceId : String)
    (acceptFullPrice : Bool) (now : Int) (s : Account) (n : Option ℕ) :
    (∀ e t, Account.outcome couponRejected newId
        (changePlan tenantId priceId acceptFullPrice now).run s n = (.error e, t) → s.Kept t.1) ↔
      Restorable s tenantId priceId n := by
  constructor
  · intro hkept r prior hr hprior
    obtain ⟨schedule, hschedule⟩ : ∃ schedule, s.stripe.schedule = some schedule := by
      obtain ⟨schedule, hschedule, -⟩ := Option.bind_eq_some_iff.mp hprior
      exact ⟨schedule, hschedule⟩
    -- Whatever the act makes of the failing request is what the plan change makes of it.
    have hkeeps : ∀ m e t, n = after 5 m → Account.outcome couponRejected newId
        (act r priceId acceptFullPrice now s.stripe.pending).run s.released m = (.error e, t) →
        t.1.stripe.pending = some prior := by
      rintro m e t rfl hact
      exact (hkept e t ((hr.outcome_changePlan hschedule).trans hact)).2.trans hprior
    constructor
    · rintro rfl hne
      rcases hact : Account.outcome couponRejected newId
        (act r priceId acceptFullPrice now s.stripe.pending).run s.released (some 0) with ⟨out, t⟩
      obtain ⟨⟨e, rfl⟩, ht⟩ := hr.ready.act_zero hne hact
      have hpending := hkeeps (some 0) e t rfl hact
      rw [ht, hprior, Account.restored, hr.pending_downgraded] at hpending
      rw [← Option.some.inj hpending]
    · rintro rfl
      by_contra hlt
      rcases hact : Account.outcome couponRejected newId
        (act r priceId acceptFullPrice now s.stripe.pending).run s.released (some 1) with ⟨out, t⟩
      obtain ⟨⟨e, rfl⟩, ht⟩ := hr.ready.act_one (Nat.lt_of_not_le hlt) hact
      have hpending := hkeeps (some 1) e t rfl hact
      rw [ht, hr.pending_attached] at hpending
      cases hpending
  · intro hrestorable e t hout
    rcases changePlan_error hout with hs | ⟨r, m, hr, hm, hact⟩
    · rw [hs]
      exact ⟨rfl, rfl⟩
    cases hprior : s.stripe.pending with
    | none =>
      rw [hprior] at hact
      obtain ⟨hreleased, hattached⟩ := hr.kept_of_none hprior newId
      rcases hr.ready.act_error hact with ⟨-, ht⟩ | ⟨-, -, ht⟩ | ⟨-, -, ht⟩
      · rwa [ht]
      · rwa [ht]
      · rwa [ht]
    | some prior =>
      have hattached : s.stripe.schedule ≠ none := by
        intro hnone
        rw [hr.pending, hnone] at hprior
        cases hprior
      obtain ⟨hfive, hsix⟩ := hrestorable r prior hr hprior
      rcases hr.ready.act_error hact with ⟨hnone, -⟩ | ⟨rfl, hne, ht⟩ | ⟨rfl, hlt, -⟩
      · rw [hr.scheduleId, Option.map_eq_none_iff] at hnone
        exact absurd hnone hattached
      · have heffective := hfive (hm hattached) hne
        rw [ht, hprior]
        refine ⟨rfl, hr.pending_downgraded prior.priceId |>.trans ?_⟩
        rw [hprior, ← heffective]
      · exact absurd (hsix (hm hattached)) (Nat.not_le_of_lt hlt)

/-- Three plans, and a subscription on the highest one that goes down to the lowest. -/
def samplePending : Account where
  billing := (∅ : BillingTable).upsertSubscription "tenant-1" "cus-1" "sub-1" (some "price-3")
  catalog := ⟨[plan "price-1" 1, plan "price-2" 2, plan "price-3" 3], [], some 0⟩
  stripe :=
    { id := "sub-1"
      status := "active"
      currentPeriodStart := 0
      currentPeriodEnd := some 100
      items := [⟨some "item-1", some "price-3", none⟩]
      schedule := some ⟨"sched-1",
        [⟨some 0, [some "price-3"]⟩, ⟨some 100, [some "price-1"]⟩]⟩
      period := by simp }
where
  plan (priceId : String) (level : ℕ) : CatalogPlan :=
    ⟨priceId, "product-1", priceId, level, ⟨level, level⟩, 100 * level, "usd", "month"⟩

/-- The tenant asks for the plan in between, and the second request of that downgrade fails:
the subscription is left with a schedule that plans nothing, and the change that was pending
is lost. -/
theorem failed_downgrade_loses_pending :
    ∃ e t, Account.outcome false "sched-2" (changePlan "tenant-1" "price-2" false 50).run
        samplePending (some 6) = (.error e, t) ∧
      samplePending.stripe.pending = some ⟨"price-1", 100⟩ ∧ t.1.stripe.pending = none :=
  ⟨_, _, rfl, rfl, rfl⟩

end Wardnet.Billing

/-
# What a webhook event asks for

An event about a subscription determines the billing refs and the current licenses that are
to be there after it. `Tables.target` says so without looking at how the handler proceeds.
The handler gets there in two writes: it records the ref, then issues one license command.
Wherever it is stopped, the ref is as before or as asked for, and so is the license.
-/

import Mathlib.Logic.Function.Basic
import Wardnet.Authority.Deletion
import Wardnet.Base.Crash

namespace Wardnet.Authority

open Base Billing Subscriptions Tenants SubscriptionTable Option Database

@[ext]
structure Tables where
  billing : String → Option BillingRow
  license : String → Option Subscription

def Database.tables (s : Database) : Tables := ⟨s.billing.get?, s.subscriptions.findCurrent⟩

def refOf (data : SubscriptionData) : BillingRow :=
  ⟨some data.stripeCustomerId, some data.stripeSubscriptionId, data.priceId⟩

/-- The license that a reported subscription grants to a tenant with the current license: a
paid one is brought up to date, any other one is replaced if the price tells what it
grants. -/
def grantedLicense (data : SubscriptionData) (tenantId : String) :
    Option Subscription → Option Subscription
  | some sub =>
    if sub.status = .active ∨ sub.status = .pastDue then
      some { sub with
        status := data.status
        entitlement := data.entitlement.getD sub.entitlement
        currentPeriodEnd := data.currentPeriodEnd }
    else data.entitlement.map paid
  | none => data.entitlement.map paid
where
  /-- A new paid license. -/
  paid (entitlement : Entitlement) : Subscription :=
    ⟨tenantId, data.status, entitlement, none, data.currentPeriodEnd⟩

namespace Tables

def Records (v : Tables) (tenantId stripeSubscriptionId : String) : Prop :=
  ∃ row, v.billing tenantId = some row ∧ row.stripeSubscriptionId = some stripeSubscriptionId

def RecordedOnce (v : Tables) : Prop :=
  ∀ stripeSubscriptionId n m, v.Records n stripeSubscriptionId →
    v.Records m stripeSubscriptionId → n = m

open Classical in
noncomputable def known (v : Tables) (stripeSubscriptionId : String) : Option String :=
  if h : ∃ n, v.Records n stripeSubscriptionId then some h.choose else none

def ended (v : Tables) (tenantId : String) : Tables :=
  ⟨v.billing, Function.update v.license tenantId none⟩

def overdue (v : Tables) (tenantId : String) : Tables :=
  ⟨v.billing, Function.update v.license tenantId
    ((v.license tenantId).map fun sub => { sub with status := .pastDue })⟩

/-- The subscription is recorded for the tenant and grants its license, or is declined. -/
def granted (v : Tables) (tenantId : String) (data : SubscriptionData) : Tables :=
  match grantedLicense data tenantId (v.license tenantId) with
  | none => v
  | some sub => ⟨Function.update v.billing tenantId (some (refOf data)),
      Function.update v.license tenantId (some sub)⟩

noncomputable def target (v : Tables) : StripeEventKind → Tables
  | .subscriptionUpsert data =>
    if data.status = .canceled then (v.known data.stripeSubscriptionId).elim v v.ended
    else ((v.known data.stripeSubscriptionId).or data.tenantId).elim v (v.granted · data)
  | .subscriptionDeleted stripeSubscriptionId => (v.known stripeSubscriptionId).elim v v.ended
  | .paymentFailed stripeSubscriptionId => (v.known stripeSubscriptionId).elim v v.overdue
  | .cardSetupCompleted .. | .catalogChanged | .ignored => v

variable {v : Tables} {tenantId stripeSubscriptionId : String}

theorem known_eq_some_iff (honce : v.RecordedOnce) :
    v.known stripeSubscriptionId = some tenantId ↔ v.Records tenantId stripeSubscriptionId := by
  unfold known
  split
  · rename_i hexists
    have hchosen := hexists.choose_spec
    constructor
    · intro heq
      cases heq
      exact hchosen
    · intro hrecords
      rw [honce _ _ _ hrecords hchosen]
  · rename_i hnone
    constructor
    · intro heq
      cases heq
    · intro hrecords
      exact absurd ⟨tenantId, hrecords⟩ hnone

theorem known_eq_none (hnone : ∀ n, ¬ v.Records n stripeSubscriptionId) :
    v.known stripeSubscriptionId = none := by
  unfold known
  split
  · rename_i hexists
    exact absurd hexists.choose_spec (hnone _)
  · rfl

end Tables

theorem recorded_iff {s : Database} {tenantId stripeSubscriptionId : String} :
    Recorded tenantId stripeSubscriptionId s ↔ s.tables.Records tenantId stripeSubscriptionId :=
  BillingTable.mem_tenantsForSubscription_iff

/-! ## The statements of the handler -/

section

variable (s : Database) (tenantId : String)

theorem tables_cancelCurrent :
    Database.tables { s with subscriptions := (s.subscriptions.cancelCurrent tenantId).2 } =
      s.tables.ended tenantId := by
  ext1
  · rfl
  · funext n
    simp [tables, Tables.ended, Function.update_apply]

theorem tables_markPastDueCurrent :
    Database.tables { s with subscriptions := (s.subscriptions.markPastDueCurrent tenantId).2 } =
      s.tables.overdue tenantId := by
  ext1
  · rfl
  · funext n
    by_cases heq : n = tenantId
    · simp [tables, Tables.overdue, findCurrent_markPastDueCurrent, heq]
    · simp [tables, Tables.overdue, findCurrent_markPastDueCurrent, heq]

end

/-! ## The handler -/

namespace Webhook

variable {kind : StripeEventKind} {s t u : Database}

/-- Where the handler of an event may be stopped. -/
structure Reached (kind : StripeEventKind) (s t : Database) : Prop where
  processed : t.processed = s.processed
  tables : t.tables = s.tables ∨
    t.tables = ⟨(s.tables.target kind).billing, s.tables.license⟩ ∨
    t.tables = s.tables.target kind

structure Arrived (kind : StripeEventKind) (s t : Database) : Prop where
  processed : t.processed = s.processed
  tables : t.tables = s.tables.target kind

theorem Reached.start (kind : StripeEventKind) (s : Database) : Reached kind s s :=
  ⟨rfl, .inl rfl⟩

theorem Arrived.reached (h : Arrived kind s t) : Reached kind s t :=
  ⟨h.processed, .inr (.inr h.tables)⟩

theorem Arrived.written {failed : Prop} (h : Arrived kind s t) :
    Reached kind s t ∧ (failed ∨ Arrived kind s t) :=
  ⟨h.reached, .inr h⟩

variable (kind s t) in
/-- From `t`, the procedure goes on to handle the event that came in `s`. -/
def Handles (p : Service Unit) : Prop :=
  p.run.Wpc Database.Step (Reached kind s)
    (fun r t => Reached kind s t ∧ (r = .ok () → Arrived kind s t)) t

def Quiet (c : Call) : Prop :=
  c.touchesLicenses = false ∧ c.touchesBilling = false ∧ ∀ eventId, c ≠ .recordEvent eventId

theorem Arrived.quiet {c : Call} {r : c.Resp} (hquiet : Quiet c) (hstep : Database.Step c t r u)
    (h : Arrived kind s t) : Arrived kind s u := by
  obtain ⟨choice, hexec⟩ := hstep
  obtain ⟨hlicenses, hbilling, hledger⟩ := hquiet
  have hframe := exec_frame hexec
  refine ⟨(hframe.processed hledger).trans h.processed, ?_⟩
  rw [← h.tables, Database.tables, hframe.billing hbilling, hframe.subscriptions hlicenses]
  rfl

theorem handles_quiet {p : Service Unit} (h : Arrived kind s t) (hall : p.run.All Quiet) :
    Handles kind s t p := by
  have hkept : p.run.Wpc Database.Step (Arrived kind s) (fun _ => Arrived kind s) t :=
    .of_all (fun _ _ _ _ hquiet hstep hu => hu.quiet hquiet hstep) hall h
  exact hkept.mono (fun _ hu => hu.reached) fun _ _ hu => ⟨hu.reached, fun _ => hu⟩

theorem handles_pure (h : Arrived kind s t) : Handles kind s t (pure ()) :=
  handles_quiet h trivial

theorem wpc_issue {c : Call} {Q : c.Resp → Database → Prop} (hreached : Reached kind s t)
    (hrefuse : ∀ r, Database.refuse c = some r → Q r t)
    (hperform : ∀ choice r u, Database.perform choice c t = some (r, u) →
      Reached kind s u ∧ Q r u) :
    (issue c).Wpc Database.Step (Reached kind s) Q t := by
  apply Prog.Wpc.of_perform hreached
  rintro r u ⟨choice, hexec⟩
  rcases exec_eq_some hexec with ⟨-, rfl, href⟩ | ⟨-, hcall⟩
  · exact ⟨hreached, hrefuse r href⟩
  · exact hperform choice r u hcall

theorem Handles.look {α : Type} {p : Proc (Except Failure α)} {f : α → Service Unit}
    {ok : α → Prop} (hreached : Reached kind s t)
    (hp : p.Wpc Database.Step (Reached kind s)
      (fun r u => u = t ∧ ∀ value, r = .ok value → ok value) t)
    (hf : ∀ value, ok value → Handles kind s t (f value)) : Handles kind s t (attempt p >>= f) := by
  apply Prog.Wpc.exceptBind hp
  · rintro value u ⟨rfl, hok⟩
    exact hf value (hok value rfl)
  · rintro e u ⟨rfl, -⟩
    exact ⟨hreached, hreached, nofun⟩

theorem Handles.write {α : Type} {p : Proc (Except Failure α)} {f : α → Service Unit}
    (wrote : Database → Prop) (hreached : Reached kind s t)
    (hp : p.Wpc Database.Step (Reached kind s) (fun r u => (∃ e, r = .error e) ∧ u = t ∨ wrote u) t)
    (hwrote : ∀ u, wrote u → Reached kind s u)
    (hf : ∀ value u, wrote u → Handles kind s u (f value)) :
    Handles kind s t (attempt p >>= f) := by
  apply Prog.Wpc.exceptBind hp
  · rintro value u (⟨⟨e, herror⟩, -⟩ | hu)
    · cases herror
    · exact hf value u hu
  · rintro e u (⟨-, rfl⟩ | hu)
    · exact ⟨hreached, hreached, nofun⟩
    · exact ⟨hwrote u hu, hwrote u hu, nofun⟩

theorem wpc_tenantForSubscription (hreached : Reached kind s t) (honce : t.tables.RecordedOnce)
    (stripeSubscriptionId : String) :
    (issue (.tenantForSubscription stripeSubscriptionId)).Wpc Database.Step (Reached kind s)
      (fun r u => u = t ∧ ∀ known, r = .ok known → known = t.tables.known stripeSubscriptionId)
      t := by
  apply Prog.Wpc.of_perform hreached
  intro r u hstep
  cases r with
  | error e =>
    obtain ⟨choice, hexec⟩ := hstep
    rcases exec_eq_some hexec with ⟨-, rfl, -⟩ | ⟨-, hperform⟩
    · exact ⟨hreached, rfl, nofun⟩
    · obtain ⟨_, -, hout⟩ := map_eq_some_iff.mp hperform
      cases hout
  | ok known =>
    obtain ⟨rfl, hsome, hnone⟩ := known_of_step hstep
    refine ⟨hreached, rfl, ?_⟩
    rintro _ ⟨⟩
    cases known with
    | none =>
      exact (Tables.known_eq_none fun n hn => hnone rfl n (recorded_iff.mpr hn)).symm
    | some n =>
      exact ((Tables.known_eq_some_iff honce).mpr (recorded_iff.mp (hsome n rfl))).symm

theorem wpc_findCurrent (hreached : Reached kind s t) (tenantId : String) :
    (issue (.findCurrent tenantId)).Wpc Database.Step (Reached kind s)
      (fun r u => u = t ∧ ∀ current, r = .ok current → current = t.tables.license tenantId) t := by
  apply wpc_issue hreached
  · intro r hrefuse
    cases hrefuse
    exact ⟨rfl, nofun⟩
  · intro choice r u hperform
    cases hperform
    refine ⟨hreached, rfl, ?_⟩
    rintro _ ⟨⟩
    rfl

theorem handles_cancel {tenantId : String}
    (htarget : s.tables.target kind = s.tables.ended tenantId) :
    Handles kind s s (cancel tenantId) := by
  apply Handles.write (Arrived kind s) (.start kind s) _ (fun _ hu => hu.reached)
  · intro canceled u hu
    cases canceled with
    | false => exact handles_pure hu
    | true => exact handles_quiet hu (all_publish ⟨rfl, rfl, by simp⟩)
  · apply wpc_issue (.start kind s)
    · intro r hrefuse
      cases hrefuse
      exact .inl ⟨⟨_, rfl⟩, rfl⟩
    · intro choice r u hperform
      cases hperform
      exact Arrived.written ⟨rfl, (tables_cancelCurrent s tenantId).trans htarget.symm⟩

theorem handles_markPastDue {tenantId : String}
    (htarget : s.tables.target kind = s.tables.overdue tenantId) :
    Handles kind s s (do let _ ← markPastDue tenantId) := by
  apply Handles.write (Arrived kind s) (.start kind s) _ (fun _ hu => hu.reached)
  · exact fun _ _ hu => handles_pure hu
  · apply wpc_issue (.start kind s)
    · intro r hrefuse
      cases hrefuse
      exact .inl ⟨⟨_, rfl⟩, rfl⟩
    · intro choice r u hperform
      cases hperform
      exact Arrived.written ⟨rfl, (tables_markPastDueCurrent s tenantId).trans htarget.symm⟩

section

variable {tenantId : String} {data : SubscriptionData}

structure Referred (kind : StripeEventKind) (s t : Database) : Prop where
  processed : t.processed = s.processed
  billing : t.tables.billing = (s.tables.target kind).billing
  subscriptions : t.subscriptions = s.subscriptions

theorem Referred.reached (h : Referred kind s t) : Reached kind s t := by
  refine ⟨h.processed, .inr (.inl ?_)⟩
  rw [← h.billing]
  simp [tables, h.subscriptions]

variable {sub : Subscription} {entitlement : Entitlement}

theorem wpc_recordRef (htarget : s.tables.target kind = s.tables.granted tenantId data)
    (hgranted : grantedLicense data tenantId (s.tables.license tenantId) = some sub) :
    (recordRef tenantId data).run.Wpc Database.Step (Reached kind s)
      (fun r u => (∃ e, r = .error e) ∧ u = s ∨ Referred kind s u) s := by
  apply wpc_issue (.start kind s)
  · intro r hrefuse
    cases hrefuse
    exact .inl ⟨⟨_, rfl⟩, rfl⟩
  · intro choice r u hperform
    rcases ifTenant_eq (some.inj hperform) with ⟨-, hwritten, -⟩ | ⟨rfl, rfl⟩
    · have hu : Referred kind s u := by
        subst hwritten
        refine ⟨rfl, ?_, rfl⟩
        rw [htarget, Tables.granted, hgranted]
        funext m
        simp [tables, BillingTable.upsertSubscription, Function.update_apply, refOf]
      exact ⟨hu.reached, .inr hu⟩
    · exact ⟨.start kind _, .inl ⟨⟨_, rfl⟩, rfl⟩⟩

theorem Referred.arrived (h : Referred kind s t)
    (htarget : s.tables.target kind = s.tables.granted tenantId data)
    (hgranted : grantedLicense data tenantId (s.tables.license tenantId) = some sub)
    (hprocessed : u.processed = t.processed) (hbilling : u.billing = t.billing)
    (hlicense : ∀ n, u.subscriptions.findCurrent n =
      if n = tenantId then some sub else t.subscriptions.findCurrent n) : Arrived kind s u := by
  refine ⟨hprocessed.trans h.processed, ?_⟩
  ext1
  · rw [← h.billing]
    simp [tables, hbilling]
  · rw [htarget, Tables.granted, hgranted]
    funext n
    simp [tables, hlicense, h.subscriptions, Function.update_apply]

theorem handles_convertTrialToPaid (h : Referred kind s t) (hlive : data.status ≠ .canceled)
    (htarget : s.tables.target kind = s.tables.granted tenantId data)
    (hgranted : grantedLicense data tenantId (s.tables.license tenantId) =
      some (grantedLicense.paid data tenantId entitlement)) :
    Handles kind s t (convertTrialToPaid tenantId data.status entitlement
      data.currentPeriodEnd) := by
  apply wpc_issue h.reached
  · intro r hrefuse
    cases hrefuse
    exact ⟨h.reached, nofun⟩
  · intro choice r u hperform
    rcases ifTenant_eq (some.inj hperform) with ⟨-, hwritten, -⟩ | ⟨rfl, rfl⟩
    · have hu : Arrived kind s u := by
        subst hwritten
        apply h.arrived htarget hgranted
        · rfl
        · rfl
        · exact t.subscriptions.findCurrent_convertTrialToPaid hlive
      exact ⟨hu.reached, hu.reached, fun _ => hu⟩
    · exact ⟨h.reached, h.reached, nofun⟩

theorem handles_updatePaid (h : Referred kind s t) (hlive : data.status ≠ .canceled)
    (htarget : s.tables.target kind = s.tables.granted tenantId data)
    (hcurrent : s.tables.license tenantId = some sub)
    (hgranted : grantedLicense data tenantId (s.tables.license tenantId) = some { sub with
        status := data.status, entitlement, currentPeriodEnd := data.currentPeriodEnd }) :
    Handles kind s t
      (do let _ ← updatePaid tenantId data.status entitlement data.currentPeriodEnd) := by
  apply Handles.write (Arrived kind s) h.reached _ (fun _ hu => hu.reached)
  · exact fun _ _ hu => handles_pure hu
  · apply wpc_issue h.reached
    · intro r hrefuse
      cases hrefuse
      exact .inl ⟨⟨_, rfl⟩, rfl⟩
    · intro choice r u hperform
      cases hperform
      apply Arrived.written
      apply h.arrived htarget hgranted
      · rfl
      · rfl
      intro n
      split
      · rename_i heq
        rw [heq, findCurrent_updateCurrent_self _ _ hlive, h.subscriptions]
        exact congrArg (Option.map _) hcurrent
      · rename_i hne
        exact findCurrent_updateCurrent_of_ne _ hne _ _ _

theorem handles_grant (hlive : data.status ≠ .canceled)
    (htarget : s.tables.target kind = s.tables.granted tenantId data) :
    Handles kind s s (grant tenantId data) := by
  have hconvert : grantedLicense data tenantId (s.tables.license tenantId) =
      data.entitlement.map (grantedLicense.paid data tenantId) →
      Handles kind s s (grant.convert tenantId data) := by
    intro hgranted
    unfold grant.convert
    split
    · rename_i hnone
      apply handles_pure
      refine ⟨rfl, ?_⟩
      rw [htarget, Tables.granted, hgranted, hnone]
      rfl
    · rename_i entitlement hentitlement
      rw [hentitlement, map_some] at hgranted
      exact Handles.write (Referred kind s) (.start kind s) (wpc_recordRef htarget hgranted)
        (fun _ hu => hu.reached) fun _ _ hu => handles_convertTrialToPaid hu hlive htarget hgranted
  apply Handles.look (.start kind s) (wpc_findCurrent (.start kind s) tenantId)
  rintro current rfl
  cases hcurrent : s.tables.license tenantId with
  | none => exact hconvert (by rw [hcurrent]; rfl)
  | some sub =>
    dsimp only
    split
    · rename_i hpaid
      have hgranted : grantedLicense data tenantId (s.tables.license tenantId) = some { sub with
          status := data.status
          entitlement := data.entitlement.getD sub.entitlement
          currentPeriodEnd := data.currentPeriodEnd } := by
        rw [hcurrent, grantedLicense, if_pos hpaid]
      exact Handles.write (Referred kind s) (.start kind s) (wpc_recordRef htarget hgranted)
        (fun _ hu => hu.reached) fun _ _ hu =>
          handles_updatePaid hu hlive htarget hcurrent hgranted
    · rename_i hunpaid
      exact hconvert (by rw [hcurrent, grantedLicense, if_neg hunpaid])

end

theorem handles_applyUpsert {data : SubscriptionData} (honce : s.tables.RecordedOnce) :
    Handles (.subscriptionUpsert data) s s (applyUpsert data) := by
  apply Handles.look (.start _ s) (wpc_tenantForSubscription (.start _ s) honce _)
  rintro known rfl
  split
  · rename_i hnone
    apply handles_pure
    refine ⟨rfl, ?_⟩
    obtain ⟨hknown, hmetadata⟩ := or_eq_none_iff.mp hnone
    simp [Tables.target, hknown, hmetadata]
  · rename_i tenantId hsome
    split
    · rename_i hcanceled
      cases hknown : s.tables.known data.stripeSubscriptionId with
      | none => exact handles_pure ⟨rfl, by simp [Tables.target, hcanceled, hknown]⟩
      | some n => exact handles_cancel (by simp [Tables.target, hcanceled, hknown])
    · rename_i hlive
      exact handles_grant hlive (by simp [Tables.target, hlive, hsome])

/-- A command for the tenant of a recorded subscription. -/
theorem handles_forRecorded {stripeSubscriptionId : String} {act : String → Service Unit}
    {change : String → Tables} (honce : s.tables.RecordedOnce)
    (htarget : s.tables.target kind = (s.tables.known stripeSubscriptionId).elim s.tables change)
    (hact : ∀ n, s.tables.target kind = change n → Handles kind s s (act n)) :
    Handles kind s s (forRecorded stripeSubscriptionId act) := by
  apply Handles.look (.start kind s) (wpc_tenantForSubscription (.start kind s) honce _)
  rintro known rfl
  cases hknown : s.tables.known stripeSubscriptionId with
  | none => exact handles_pure ⟨rfl, by rw [htarget, hknown]; rfl⟩
  | some n => exact hact n (by rw [htarget, hknown]; rfl)

/-- Wherever the handler of an event is stopped, its writes so far are those that the event
asks for, and they are complete when it returns. -/
theorem handles_applyEventKind (honce : s.tables.RecordedOnce) (kind : StripeEventKind) :
    Handles kind s s (applyEventKind kind) := by
  cases kind with
  | subscriptionUpsert data => exact handles_applyUpsert honce
  | subscriptionDeleted id => exact handles_forRecorded honce rfl fun _ => handles_cancel
  | paymentFailed id => exact handles_forRecorded honce rfl fun _ => handles_markPastDue
  | cardSetupCompleted customer setupIntent =>
    apply handles_quiet ⟨rfl, rfl⟩
    apply Prog.All.exceptBind
    · exact ⟨⟨rfl, rfl, by simp⟩, fun _ => trivial⟩
    · exact fun _ => ⟨⟨rfl, rfl, by simp⟩, fun _ => trivial⟩
  | catalogChanged =>
    exact handles_quiet ⟨rfl, rfl⟩ ⟨⟨rfl, rfl, by simp⟩, fun _ => trivial⟩
  | ignored => exact handles_pure ⟨rfl, rfl⟩

end Webhook

end Wardnet.Authority

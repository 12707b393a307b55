/-
# What a call may do to a license

Every invariant about licenses is derived from one case analysis: a call leaves a
tenant's current license alone, ends it, opens the trial of a tenant that never
had a row, or is one of the three statements that rewrite it. A tenant is settled
once it has a row or was swept: no trial can be opened for it any more.
-/

import Wardnet.Authority.World

namespace Wardnet.Authority

open Base Subscriptions Tenants SubscriptionTable Option

/-- The tenants whose current license a statement rewrites. -/
def Call.licenseWrites : Call → List String
  | .convertTrialToPaid tenantId paid => [tenantId, paid.tenantId]
  | .updateCurrent tenantId .. => [tenantId]
  | .markPastDueCurrent tenantId => [tenantId]
  | _ => []

/-- The tenant has a subscription row, or was swept. -/
def Database.Settled (s : Database) (tenantId : String) : Prop :=
  s.subscriptions.hasHistory tenantId = true ∨ tenantId ∈ s.tenants.retired

instance (s : Database) (tenantId : String) : Decidable (s.Settled tenantId) :=
  inferInstanceAs (Decidable (_ ∨ _))

inductive LicenseEffect (c : Call) (tenantId : String) (s s' : Database) : Prop
  | same (h : s'.subscriptions.findCurrent tenantId = s.subscriptions.findCurrent tenantId)
  | ended (hcall : c = .cancelCurrent tenantId ∨
        (c = .deleteTombstonedEmpty ∧ tenantId ∈ s.sweepable))
      (h : s'.subscriptions.findCurrent tenantId = none)
  | opened (sub : Subscription) (hcall : c = .createTrial sub) (htenant : sub.tenantId = tenantId)
      (hfirst : ¬ s.Settled tenantId)
  | written (h : tenantId ∈ c.licenseWrites)

variable {choice : Choice} {c : Call} {s s' : Database} {r : c.Resp}

variable {tenantId : String}

theorem ifTenant_eq {α : Type} {out : α × Database} {answer : Except Failure α}
    (h : s.ifTenant tenantId out = (answer, s')) :
    (s.tenantExists tenantId = true ∧ s' = out.2 ∧ answer = .ok out.1) ∨
      (s' = s ∧ answer = .error .failed) := by
  unfold Database.ifTenant at h
  split at h
  · rename_i hexists
    cases h
    exact .inl ⟨hexists, rfl, rfl⟩
  · cases h
    exact .inr ⟨rfl, rfl⟩

theorem not_settled_of_first (hexists : s.tenantExists tenantId = true)
    (hfirst : s.subscriptions.hasHistory tenantId = false) : ¬ s.Settled tenantId := by
  rintro (hhistory | hretired)
  · rw [hfirst] at hhistory
    cases hhistory
  · rw [Database.tenantExists, TenantTable.findById, s.tenants.retired_gone _ hretired] at hexists
    cases hexists

def Call.touchesLicenses : Call → Bool
  | .createTrial _ | .convertTrialToPaid .. | .updateCurrent .. | .markPastDueCurrent _
  | .cancelCurrent _ | .deleteTombstonedEmpty => true
  | _ => false

def Call.touchesBilling : Call → Bool
  | .upsertSubscription .. | .deleteTombstonedEmpty => true
  | _ => false

structure Frame (c : Call) (s s' : Database) : Prop where
  subscriptions : c.touchesLicenses = false → s'.subscriptions = s.subscriptions
  retired : c ≠ .deleteTombstonedEmpty → s'.tenants.retired = s.tenants.retired
  processed : (∀ eventId, c ≠ .recordEvent eventId) → s'.processed = s.processed
  billing : c.touchesBilling = false → s'.billing = s.billing
  published : (∀ event, c ≠ .publish event) → s'.published = s.published

theorem Frame.refl (c : Call) (s : Database) : Frame c s s :=
  ⟨fun _ => rfl, fun _ => rfl, fun _ => rfl, fun _ => rfl, fun _ => rfl⟩

theorem Frame.of_ifTenant {α : Type} {out : α × Database} {answer : Except Failure α}
    (h : s.ifTenant tenantId out = (answer, s')) (hframe : Frame c s out.2) : Frame c s s' := by
  rcases ifTenant_eq h with ⟨-, rfl, -⟩ | ⟨rfl, -⟩
  · exact hframe
  · exact Frame.refl c _

/-- What a call leaves alone, by the tenants it writes for. -/
theorem perform_frame (hperform : Database.perform choice c s = some (r, s')) : Frame c s s' := by
  cases c with
  | createTrial sub =>
    simp only [Database.perform] at hperform
    split at hperform
    · exact .of_ifTenant (some.inj hperform)
        ⟨nofun, fun _ => rfl, fun _ => rfl, fun _ => rfl, fun _ => rfl⟩
    · cases hperform
      exact .refl _ _
  | convertTrialToPaid =>
    exact .of_ifTenant (some.inj hperform)
        ⟨nofun, fun _ => rfl, fun _ => rfl, fun _ => rfl, fun _ => rfl⟩
  | updateCurrent | markPastDueCurrent | cancelCurrent =>
    cases hperform
    exact ⟨nofun, fun _ => rfl, fun _ => rfl, fun _ => rfl, fun _ => rfl⟩
  | deleteTombstonedEmpty =>
    cases hperform
    exact ⟨nofun, fun h => absurd rfl h, fun _ => rfl, nofun, fun _ => rfl⟩
  | recordEvent eventId =>
    cases hperform
    exact ⟨fun _ => rfl, fun _ => rfl, fun h => absurd rfl (h eventId), fun _ => rfl, fun _ => rfl⟩
  | publish event =>
    cases hperform
    exact ⟨fun _ => rfl, fun _ => rfl, fun _ => rfl, fun _ => rfl, fun h => absurd rfl (h event)⟩
  | utcNow | findCurrent | isEventProcessed | setDefaultPaymentMethod | notifyCatalogResync
  | findTenant | findTenantByEmail | setDeregistered | setDeprovisioningForTenant | findIdentity
  | deleteSessionsForTenant | deleteIdentitiesForTenant =>
    cases hperform
    exact ⟨fun _ => rfl, fun _ => rfl, fun _ => rfl, fun _ => rfl, fun _ => rfl⟩
  | listOverdue | listLiveIds =>
    simp only [Database.perform] at hperform
    split at hperform
    · cases hperform
      exact .refl _ _
    · cases hperform
  | tenantForSubscription | subscriptionForCustomer =>
    obtain ⟨_, -, hout⟩ := map_eq_some_iff.mp hperform
    cases hout
    exact .refl _ _
  | upsertSubscription =>
    exact .of_ifTenant (some.inj hperform)
        ⟨fun _ => rfl, fun _ => rfl, fun _ => rfl, nofun, fun _ => rfl⟩
  | createTenant =>
    simp only [Database.perform] at hperform
    split at hperform
    · rename_i out hcreate
      cases hperform
      exact ⟨fun _ => rfl, fun _ => TenantTable.retired_create hcreate, fun _ => rfl, fun _ => rfl,
        fun _ => rfl⟩
    · cases hperform
      exact .refl _ _
  | registerNetwork =>
    simp only [Database.perform] at hperform
    split at hperform
    · exact .of_ifTenant (some.inj hperform)
        ⟨fun _ => rfl, fun _ => rfl, fun _ => rfl, fun _ => rfl, fun _ => rfl⟩
    · exact .of_ifTenant (some.inj hperform) (.refl _ _)
    · cases hperform
      exact .refl _ _
    · cases hperform
      exact .refl _ _
  | insertIdentity =>
    simp only [Database.perform] at hperform
    split at hperform
    · exact .of_ifTenant (some.inj hperform)
        ⟨fun _ => rfl, fun _ => rfl, fun _ => rfl, fun _ => rfl, fun _ => rfl⟩
    · cases hperform
      exact .refl _ _

/-- What a call does to the current license of a tenant. -/
theorem perform_license (hperform : Database.perform choice c s = some (r, s'))
    (tenantId : String) : LicenseEffect c tenantId s s' := by
  cases c with
  | createTrial sub =>
    simp only [Database.perform] at hperform
    split at hperform
    · rcases ifTenant_eq (some.inj hperform) with ⟨hexists, rfl, -⟩ | ⟨rfl, -⟩
      · have hcurrent := s.subscriptions.findCurrent_createTrial sub tenantId
        split at hcurrent
        · rename_i hopened
          have htenant := (of_decide_eq_true hopened.1).1
          rw [htenant] at hexists
          exact .opened sub rfl htenant (not_settled_of_first hexists hopened.2)
        · exact .same hcurrent
      · exact .same rfl
    · cases hperform
      exact .same rfl
  | cancelCurrent n =>
    cases hperform
    by_cases heq : tenantId = n
    · exact .ended (.inl (by rw [heq])) (by simp [heq])
    · exact .same (by simp [heq])
  | deleteTombstonedEmpty =>
    cases hperform
    have hcurrent := s.subscriptions.findCurrent_deleteTenants s.sweepable tenantId
    split at hcurrent
    · rename_i hswept
      exact .ended (.inr ⟨rfl, hswept⟩) hcurrent
    · exact .same hcurrent
  | convertTrialToPaid n paid =>
    rcases ifTenant_eq (some.inj hperform) with ⟨-, rfl, -⟩ | ⟨rfl, -⟩
    · by_cases hmem : tenantId ∈ [n, paid.tenantId]
      · exact .written hmem
      · simp only [List.mem_cons, List.not_mem_nil, or_false, not_or] at hmem
        exact .same (findCurrent_convertTrialToPaid_of_ne _ hmem.1 hmem.2)
    · exact .same rfl
  | updateCurrent n status entitlement currentPeriodEnd =>
    cases hperform
    by_cases heq : tenantId = n
    · exact .written (List.mem_singleton.mpr heq)
    · exact .same (findCurrent_updateCurrent_of_ne _ heq _ _ _)
  | markPastDueCurrent n =>
    cases hperform
    by_cases heq : tenantId = n
    · exact .written (List.mem_singleton.mpr heq)
    · exact .same (by simp [findCurrent_markPastDueCurrent, heq])
  | _ => exact .same (by rw [(perform_frame hperform).subscriptions rfl])

section

variable (hexec : Database.exec choice c s = some (r, s'))
include hexec

/-- A call either fails without effect or is performed. -/
theorem exec_eq_some : (choice.fails = true ∧ s' = s ∧ Database.refuse c = some r) ∨
      (choice.fails = false ∧ Database.perform choice c s = some (r, s')) := by
  unfold Database.exec at hexec
  cases hfails : choice.fails with
  | true =>
    rw [if_pos hfails] at hexec
    obtain ⟨r', hrefuse, hout⟩ := map_eq_some_iff.mp hexec
    cases hout
    exact .inl ⟨rfl, rfl, hrefuse⟩
  | false =>
    rw [hfails, if_neg Bool.false_ne_true] at hexec
    exact .inr ⟨rfl, hexec⟩

/-- An answer that is not the failure comes from the call. -/
theorem perform_of_exec (hr : Database.refuse c ≠ some r) :
    Database.perform choice c s = some (r, s') := by
  rcases exec_eq_some hexec with ⟨-, -, hrefuse⟩ | ⟨-, hperform⟩
  · exact absurd hrefuse hr
  · exact hperform

/-- What any call does to the current license of any tenant. -/
theorem exec_license (tenantId : String) : LicenseEffect c tenantId s s' := by
  rcases exec_eq_some hexec with ⟨-, rfl, -⟩ | ⟨-, hperform⟩
  · exact .same rfl
  · exact perform_license hperform tenantId

theorem exec_frame : Frame c s s' := by
  rcases exec_eq_some hexec with ⟨-, rfl, -⟩ | ⟨-, hperform⟩
  · exact .refl c _
  · exact perform_frame hperform

end

/-- The calls that can give a license to a tenant without one. -/
def Call.opensLicense : Call → Bool
  | .createTrial _ | .convertTrialToPaid .. => true
  | _ => false

/-- A tenant without a license gets none from any other call. -/
theorem findCurrent_eq_none_of_exec (hexec : Database.exec choice c s = some (r, s'))
    (hcall : c.opensLicense = false) (hnone : s.subscriptions.findCurrent tenantId = none) :
    s'.subscriptions.findCurrent tenantId = none := by
  cases exec_license hexec tenantId with
  | same h => rw [h, hnone]
  | ended _ h => exact h
  | opened _ hopened => rw [hopened] at hcall; cases hcall
  | written h =>
    rcases exec_eq_some hexec with ⟨-, rfl, -⟩ | ⟨-, hperform⟩
    · exact hnone
    cases c with
    | convertTrialToPaid => cases hcall
    | updateCurrent n status entitlement currentPeriodEnd =>
      cases hperform
      obtain rfl := List.mem_singleton.mp h
      exact findCurrent_updateCurrent_eq_none hnone _ _ _
    | markPastDueCurrent n =>
      cases hperform
      simp [findCurrent_markPastDueCurrent, hnone]
    | _ => cases h

/-- A cancellation that is answered leaves the tenant without a license. -/
theorem findCurrent_eq_none_of_canceled {canceled : Bool}
    (hexec : Database.exec choice (.cancelCurrent tenantId) s = some (.ok canceled, s')) :
    s'.subscriptions.findCurrent tenantId = none := by
  have hperform := perform_of_exec hexec nofun
  obtain ⟨-, hstate⟩ := Prod.mk.inj (some.inj hperform)
  rw [← hstate]
  simp

theorem Database.Settled.exec (h : s.Settled tenantId)
    (hexec : Database.exec choice c s = some (r, s')) : s'.Settled tenantId := by
  rcases exec_eq_some hexec with ⟨-, rfl, -⟩ | ⟨-, hperform⟩
  · exact h
  have hframe := perform_frame hperform
  cases c with
  | createTrial sub =>
    simp only [Database.perform] at hperform
    split at hperform
    · rcases ifTenant_eq (some.inj hperform) with ⟨-, rfl, -⟩ | ⟨rfl, -⟩
      · exact h.imp_left fun hhistory => by simp [hhistory]
      · exact h
    · cases hperform
      exact h
  | convertTrialToPaid n paid =>
    rcases ifTenant_eq (some.inj hperform) with ⟨-, rfl, -⟩ | ⟨rfl, -⟩
    · exact h.imp_left fun hhistory => by simp [hhistory]
    · exact h
  | updateCurrent | markPastDueCurrent | cancelCurrent =>
    cases hperform
    exact h.imp_left fun hhistory => by
      simpa [updateCurrent, markPastDueCurrent, cancelCurrent] using hhistory
  | deleteTombstonedEmpty =>
    cases hperform
    simp only [Settled, Database.sweep, TenantTable.remove, List.mem_append,
      hasHistory_deleteTenants, Bool.and_eq_true, decide_eq_true_eq]
    rcases h with hhistory | hretired
    · by_cases hswept : tenantId ∈ s.sweepable
      · exact .inr (.inl hswept)
      · exact .inl ⟨hhistory, hswept⟩
    · exact .inr (.inr hretired)
  | _ => rwa [Settled, hframe.subscriptions rfl, hframe.retired (by simp)]

end Wardnet.Authority

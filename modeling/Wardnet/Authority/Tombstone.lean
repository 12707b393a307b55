/-
# The license of a deregistered tenant

The subscription reactor cancels the license of a deregistered tenant. Nothing
looks at the tombstone afterwards: a webhook that grants, or the first trial of a
tenant that never had one, still gives the tenant a license. In every run in which
neither happens the license stays gone.
-/

import Wardnet.Authority.Calls
import Wardnet.Authority.License

namespace Wardnet.Authority

open Base Billing Subscriptions Tenants

def Task.isGrant (task : Task) : Bool :=
  task.upsert.any fun data => data.status ≠ .canceled ∧ data.entitlement.isSome

def Call.isGrantTo (tenantId : String) : Call → Bool
  | .findCurrent n => n = tenantId
  | .convertTrialToPaid n _ => n = tenantId
  | _ => false

def Call.isTrialOf (tenantId : String) : Call → Bool
  | .createTrial sub => sub.tenantId = tenantId
  | _ => false

section

variable {config : Config} {tenantId : String}

/-- The condition on a step after the cancel: no grant is applied to the tenant, and
no trial is opened for it that would be its first. -/
def LeavesAlone (tenantId : String) (cfg : (world config).Config) :
    (world config).Action → Prop
  | .step i _ => ∀ th ∈ cfg.threads[i]?, ∀ c ∈ th.pending,
      (th.task.isGrant = true → c.isGrantTo tenantId = false) ∧
        (c.isTrialOf tenantId = true → cfg.state.Settled tenantId)
  | .spawn _ => True
  | .env _ => True

instance (cfg : (world config).Config) : ∀ a, Decidable (LeavesAlone tenantId cfg a)
  | .step _ _ => inferInstanceAs (Decidable (∀ _, _))
  | .spawn _ => inferInstanceAs (Decidable True)
  | .env _ => inferInstanceAs (Decidable True)

structure Unlicensed (tenantId : String) (cfg : (world config).Config) : Prop where
  issues : cfg.Issues Task.Issues
  none : cfg.state.subscriptions.findCurrent tenantId = none

variable {cfg cfg' : (world config).Config} {a : (world config).Action}

theorem findCurrent_eq_none_of_step (h : Unlicensed tenantId cfg)
    (halone : LeavesAlone tenantId cfg a) (hstep : cfg.step a = some cfg') :
    cfg'.state.subscriptions.findCurrent tenantId = none := by
  have hnone := h.none
  cases a with
  | spawn task =>
    cases hstep
    exact hnone
  | env e => exact e.elim
  | step i choice =>
    obtain ⟨th, ⟨c, r⟩, choice', next, hth, hprog, hexec, -⟩ :=
      World.Config.performs_of_step hstep
    obtain ⟨hgrant, htrial⟩ := halone th hth c (by rw [World.Thread.pending, hprog]; rfl)
    have hissued := h.issues th (List.mem_of_getElem? hth)
    rw [hprog] at hissued
    by_cases hopens : c.opensLicense = true
    · cases exec_license hexec tenantId with
      | same h => rw [h, hnone]
      | ended _ h => exact h
      | opened sub hcall htenant hfirst =>
        have hcreate : c = .createTrial sub := hcall
        have hsettled := htrial (by rw [hcreate]; simp [Call.isTrialOf, htenant])
        exact absurd hsettled hfirst
      | written hwrites =>
        cases c with
        | convertTrialToPaid n paid =>
          obtain ⟨hpaid, data, hupsert, hlive, -, hentitlement⟩ := hissued.1
          have htask : th.task.isGrant = true := by
            simp [Task.isGrant, hupsert, hlive, hentitlement]
          have hne := hgrant htask
          simp only [Call.isGrantTo, decide_eq_false_iff_not] at hne
          simp only [Call.licenseWrites, hpaid, List.mem_cons, List.not_mem_nil, or_false,
            or_self] at hwrites
          exact absurd hwrites.symm hne
        | createTrial sub => cases hwrites
        | _ => cases hopens
    · exact findCurrent_eq_none_of_exec hexec (Bool.eq_false_iff.mpr hopens) hnone

theorem Unlicensed.step (h : Unlicensed tenantId cfg) (halone : LeavesAlone tenantId cfg a)
    (hstep : cfg.step a = some cfg') : Unlicensed tenantId cfg' :=
  ⟨h.issues.step (Task.body_issues config) hstep, findCurrent_eq_none_of_step h halone hstep⟩

/-- The tenant is deregistered, and the subscription reactor handles the event that
says so. -/
structure Handles (tenantId : String) (cfg cfg' : (world config).Config) : Prop where
  deregistered : cfg.state.tenants.isLive tenantId = false
  canceled : ∃ i th canceled, th.task = .applyToSubscription (.tenantDeregistered tenantId) ∧
    cfg.Performs i th ⟨.cancelCurrent tenantId, .ok canceled⟩ cfg'

theorem Handles.step (h : Handles tenantId cfg cfg') : ∃ a, cfg.step a = some cfg' := by
  obtain ⟨i, th, canceled, -, hperforms⟩ := h.canceled
  obtain ⟨choice, hstep⟩ := hperforms.step
  exact ⟨_, hstep⟩

theorem Handles.findCurrent_eq_none (h : Handles tenantId cfg cfg') :
    cfg'.state.subscriptions.findCurrent tenantId = none := by
  obtain ⟨_, _, _, -, _, _, -, -, hexec, -⟩ := h.canceled
  exact findCurrent_eq_none_of_canceled hexec

end

/-- Once the subscription reactor has handled the deregistration of a tenant, the
tenant has no license in any state reached by steps that leave it alone. -/
theorem tombstone_terminal (config : Config) (tenantId : String) (s : Database)
    (before after : List (world config).Action) (cfg cfg₁ cfg₂ : (world config).Config)
    (hbefore : (world config).system.run (.start s) before = some cfg)
    (hhandled : Handles tenantId cfg cfg₁)
    (halone : (world config).system.Along (LeavesAlone tenantId) cfg₁ after)
    (hafter : (world config).system.run cfg₁ after = some cfg₂) :
    cfg₂.state.subscriptions.findCurrent tenantId = none := by
  obtain ⟨a, hstep⟩ := hhandled.step
  have hissues : cfg.Issues Task.Issues :=
    World.Config.issues_of_run (Task.body_issues config) hbefore
  have hstart : Unlicensed tenantId cfg₁ :=
    ⟨hissues.step (Task.body_issues config) hstep, hhandled.findCurrent_eq_none⟩
  have hend : Unlicensed tenantId cfg₂ :=
    (world config).system.run_invariant_along (fun _ _ _ halone h hstep => h.step halone hstep)
      hstart halone hafter
  exact hend.none

/-! ## A late webhook, and a redelivered signup -/

/-- A tenant with a trial is deregistered, and its deregistration is about to be
handled. -/
def sampleDeregistered : List (world sampleConfig).Action :=
  signup ++ .spawn (.deregisterTenant "tenant-1") :: calls 2 3 0 ++
    [.spawn (.applyToSubscription (.tenantDeregistered "tenant-1"))]

def sampleHandled : (world sampleConfig).Config :=
  (world sampleConfig).system.runD (.start .empty) (sampleDeregistered ++ calls 3 1 0)

def endedBy : (world sampleConfig).Event → Option (String × Bool)
  | ⟨.cancelCurrent tenantId, .ok canceled⟩ => some (tenantId, canceled)
  | _ => none

theorem eq_of_endedBy {e : (world sampleConfig).Event} {tenantId : String} {canceled : Bool}
    (h : endedBy e = some (tenantId, canceled)) : e = ⟨.cancelCurrent tenantId, .ok canceled⟩ := by
  unfold endedBy at h
  split at h
  · cases h
    rfl
  · cases h

theorem handles_sampleDeregistered :
    Handles "tenant-1" ((world sampleConfig).system.runD (.start .empty) sampleDeregistered)
      sampleHandled := by
  obtain ⟨th, e, hperforms, htask, hlast⟩ := World.exists_performs_runD
    (show ((world sampleConfig).system.run (.start .empty)
      (sampleDeregistered ++ calls 3 1 0)).isSome by decide)
  have htask' : sampleHandled.threads[3]?.map World.Thread.task =
      some (Task.applyToSubscription (.tenantDeregistered "tenant-1")) := by decide
  have hended : (sampleHandled.threads[3]?.bind (·.log.getLast?)).bind endedBy =
      some ("tenant-1", true) := by decide
  have hlast' : sampleHandled.threads[3]?.bind (·.log.getLast?) = some e := hlast
  rw [hlast'] at hended
  obtain rfl := eq_of_endedBy hended
  exact ⟨by decide, 3, th, true, Option.some.inj (htask.symm.trans htask'), hperforms⟩

/-- A webhook that grants, delivered after the deregistration was handled, gives the
deregistered tenant a license. -/
theorem tombstone_not_terminal :
    ∃ (before after : List (world sampleConfig).Action) (cfg cfg₁ cfg₂ : _),
      (world sampleConfig).system.run (.start .empty) before = some cfg ∧
      Handles "tenant-1" cfg cfg₁ ∧ (world sampleConfig).system.run cfg₁ after = some cfg₂ ∧
      cfg₂.state.tenants.isLive "tenant-1" = false ∧
      (cfg₂.state.subscriptions.findCurrent "tenant-1").isSome = true :=
  ⟨sampleDeregistered, calls 3 1 0 ++ .spawn (.applyEvent (samplePaid "evt-1" 50)) :: calls 4 6 0,
    _, _, _, System.run_eq_some_runD _ (by decide), handles_sampleDeregistered,
    System.run_eq_some_runD _ (by decide), by decide, by decide⟩

/-- A redelivered signup does not. -/
theorem tombstone_terminal_sample : ((world sampleConfig).system.runD sampleHandled (calls 3 1 0 ++
      .spawn (.applyToSubscription (.tenantCreated "tenant-1")) :: calls 4 2 0)
      ).state.subscriptions.findCurrent "tenant-1" = none :=
  tombstone_terminal sampleConfig "tenant-1" .empty sampleDeregistered _ _ _ _
    (System.run_eq_some_runD _ (by decide)) handles_sampleDeregistered (by decide)
    (System.run_eq_some_runD _ (by decide))

end Wardnet.Authority

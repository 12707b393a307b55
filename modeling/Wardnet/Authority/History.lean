/-
# Licenses over whole runs

The operations of the license service and the webhook handler run at once, for any tenants,
with any call failing. Each of their calls extends the subscriptions table for one tenant.
So along every run rows stay where they are, a canceled row stays as it is, and a tenant
is given at most one trial, before any other license.
-/

import Wardnet.Authority.Calls
import Wardnet.Authority.License
import Wardnet.Subscriptions.History

namespace Wardnet.Authority.History

open Base Billing Subscriptions Tenants List

/-- What is started: operations of the license service for any tenant, with any status that
the gateway can report, and webhook events. -/
inductive Operation
  | createTrial (tenantId : String)
  | convertTrialToPaid (tenantId status : String) (entitlement : Entitlement)
      (currentPeriodEnd : Option Int)
  | updatePaid (tenantId status : String) (entitlement : Entitlement)
      (currentPeriodEnd : Option Int)
  | markPastDue (tenantId : String)
  | cancel (tenantId : String)
  | expireOverdue
  | webhook (event : WebhookEvent)

def Operation.body (config : Config) : Operation → Proc Unit
  | .createTrial tenantId => discard (Authority.createTrial config tenantId).run
  | .convertTrialToPaid tenantId status entitlement currentPeriodEnd =>
    discard (Authority.convertTrialToPaid tenantId (mapStatus status) entitlement
      currentPeriodEnd).run
  | .updatePaid tenantId status entitlement currentPeriodEnd =>
    discard (Authority.updatePaid tenantId (mapStatus status) entitlement currentPeriodEnd).run
  | .markPastDue tenantId => discard (Authority.markPastDue tenantId).run
  | .cancel tenantId => discard (Authority.cancel tenantId).run
  | .expireOverdue => discard (Authority.expireOverdue config).run
  | .webhook event =>
    match normalizeEvent event with
    | .ok event => discard (Authority.applyEvent event).run
    | .error _ => pure ()

@[reducible]
def licenses (config : Config) : World where
  State := Database
  Call := Call
  Resp := Call.Resp
  Choice := Choice
  exec := Database.exec
  Task := Operation
  Result := Unit
  body := Operation.body config
  Env := Empty
  env e _ := e.elim

/-! ## Calls -/

def licenseTenant : Call → Option String
  | .createTrial sub => some sub.tenantId
  | .convertTrialToPaid tenantId _ | .updateCurrent tenantId .. | .markPastDueCurrent tenantId
  | .cancelCurrent tenantId => some tenantId
  | _ => none

/-- The calls of the operations: no tenant is swept, and a conversion inserts a paid license
of the tenant. -/
def OfLicenses : Call → Prop
  | .convertTrialToPaid tenantId paid => paid.tenantId = tenantId ∧ paid.status ≠ .trialing
  | .deleteTombstonedEmpty => False
  | _ => True

theorem all_cancel (tenantId : String) : (Authority.cancel tenantId).run.All OfLicenses :=
  Authority.all_cancel trivial trivial

theorem all_cancelAll (tenantIds : List String) :
    (Authority.cancelAll tenantIds).run.All OfLicenses := by
  induction tenantIds with
  | nil => trivial
  | cons tenantId tenantIds ih => exact (all_cancel tenantId).exceptBind fun _ => ih

theorem all_applyEventKind {webhook : WebhookEvent} {event : StripeEvent}
    (hevent : normalizeEvent webhook = .ok event) :
    (applyEventKind event.kind).run.All OfLicenses := by
  cases hkind : event.kind with
  | subscriptionUpsert data =>
    apply all_applyUpsert trivial all_cancel
    intro _ tenantId
    apply all_grant trivial trivial fun _ => trivial
    exact fun _ _ => ⟨rfl, status_ne_trialing_of_normalizeEvent hevent hkind⟩
  | subscriptionDeleted id => exact all_forRecorded trivial all_cancel
  | paymentFailed id => exact all_forRecorded trivial fun _ => all_markPastDue trivial
  | cardSetupCompleted customer setupIntent =>
    apply Prog.All.exceptBind
    · exact ⟨trivial, fun _ => trivial⟩
    · exact fun _ => ⟨trivial, fun _ => trivial⟩
  | catalogChanged => exact ⟨trivial, fun _ => trivial⟩
  | ignored => trivial

theorem Operation.all_body (config : Config) (op : Operation) :
    (op.body config).All OfLicenses := by
  have all_discard : ∀ {α : Type} {p : Proc α}, p.All OfLicenses → (discard p).All OfLicenses :=
    fun hp => hp.bind fun _ => trivial
  cases op with
  | createTrial tenantId => exact all_discard (all_createTrial trivial fun _ _ => trivial)
  | convertTrialToPaid tenantId status entitlement currentPeriodEnd =>
    exact all_discard ⟨⟨rfl, mapStatus_ne_trialing status⟩, fun _ => trivial⟩
  | updatePaid | markPastDue => exact all_discard ⟨trivial, fun _ => trivial⟩
  | cancel tenantId => exact all_discard (all_cancel tenantId)
  | expireOverdue =>
    apply all_discard
    refine ⟨trivial, fun now => ?_⟩
    apply Prog.All.exceptBind
    · exact ⟨trivial, fun _ => trivial⟩
    · exact fun tenantIds => (all_cancelAll tenantIds).exceptBind fun _ => trivial
  | webhook event =>
    simp only [Operation.body]
    split
    · rename_i normalized hevent
      exact all_discard (all_applyEvent normalized trivial (all_applyEventKind hevent) trivial)
    · trivial

/-- A call extends the table for its tenant, or leaves it as it is. -/
theorem exec_extends {choice : Choice} {c : Call} {s s' : Database} {r : c.Resp}
    (hcall : OfLicenses c) (hexec : Database.exec choice c s = some (r, s')) :
    (∃ tenantId, licenseTenant c = some tenantId ∧
      s.subscriptions.Extends tenantId s'.subscriptions) ∨ s'.subscriptions = s.subscriptions := by
  rcases exec_eq_some hexec with ⟨-, rfl, -⟩ | ⟨-, hperform⟩
  · exact .inr rfl
  cases c with
  | createTrial sub =>
    simp only [Database.perform] at hperform
    split at hperform
    · rcases ifTenant_eq (Option.some.inj hperform) with ⟨-, rfl, -⟩ | ⟨rfl, -⟩
      · exact .inl ⟨_, rfl, s.subscriptions.extends_createTrial sub⟩
      · exact .inr rfl
    · cases hperform
      exact .inr rfl
  | convertTrialToPaid tenantId paid =>
    obtain ⟨rfl, hstatus⟩ := hcall
    rcases ifTenant_eq (Option.some.inj hperform) with ⟨-, rfl, -⟩ | ⟨rfl, -⟩
    · exact .inl ⟨_, rfl, s.subscriptions.extends_convertTrialToPaid hstatus⟩
    · exact .inr rfl
  | updateCurrent tenantId | markPastDueCurrent tenantId | cancelCurrent tenantId =>
    cases hperform
    refine .inl ⟨_, rfl, ?_⟩
    apply SubscriptionTable.extends_patchCurrent
    exact fun _ => rfl
  | deleteTombstonedEmpty => exact hcall.elim
  | _ => exact .inr ((perform_frame hperform).subscriptions rfl)

/-! ## Runs -/

section

variable {config : Config} {s : Database} {acts : List (licenses config).Action}
  {cfg cfg' : (licenses config).Config}

theorem issues_of_run (hrun : (licenses config).system.run (.start s) acts = some cfg) :
    cfg.Issues fun _ => OfLicenses :=
  World.Config.issues_of_run (Operation.all_body config) hrun

theorem performs_extends {i : ℕ} {th : (licenses config).Thread} {e : (licenses config).Event}
    (hissues : cfg.Issues fun _ => OfLicenses) (hperforms : cfg.Performs i th e cfg') :
    (∃ tenantId, licenseTenant e.call = some tenantId ∧
      cfg.state.subscriptions.Extends tenantId cfg'.state.subscriptions) ∨
      cfg'.state.subscriptions = cfg.state.subscriptions := by
  obtain ⟨choice, next, hth, hprog, hexec, -⟩ := hperforms
  have hall := hissues th (mem_of_getElem? hth)
  rw [hprog] at hall
  exact exec_extends hall.1 hexec

theorem step_extends {a : (licenses config).Action} (hissues : cfg.Issues fun _ => OfLicenses)
    (hstep : (licenses config).system.step cfg a = some cfg') :
    ∃ tenantId, cfg.state.subscriptions.Extends tenantId cfg'.state.subscriptions := by
  cases a with
  | spawn op =>
    cases hstep
    exact ⟨"", .refl _ _⟩
  | env e => exact e.elim
  | step i choice =>
    obtain ⟨th, e, hperforms⟩ := World.Config.performs_of_step hstep
    rcases performs_extends hissues hperforms with ⟨tenantId, -, hextends⟩ | hsame
    · exact ⟨tenantId, hextends⟩
    · exact ⟨"", by rw [hsame]; exact .refl _ _⟩

theorem keeps_of_run {later : List (licenses config).Action}
    (hrun : (licenses config).system.run (.start s) acts = some cfg)
    (hlater : (licenses config).system.run cfg later = some cfg') :
    cfg.state.subscriptions.Keeps cfg'.state.subscriptions := by
  have hpreserved : ∀ c a c', (c.Issues (fun _ => OfLicenses) ∧
      cfg.state.subscriptions.Keeps c.state.subscriptions) →
      (licenses config).system.step c a = some c' →
      c'.Issues (fun _ => OfLicenses) ∧ cfg.state.subscriptions.Keeps c'.state.subscriptions := by
    rintro c a c' ⟨hissues, hkeeps⟩ hstep
    obtain ⟨tenantId, hextends⟩ := step_extends hissues hstep
    exact ⟨hissues.step (Operation.all_body config) hstep, hkeeps.trans hextends.keeps⟩
  exact ((licenses config).system.run_invariant hpreserved ⟨issues_of_run hrun, .refl _⟩ hlater).2

variable (config s acts) in
/-- Along the run, row number `i` was created, as `sub`. -/
def Created (i : ℕ) (sub : Subscription) : Prop :=
  ∃ before a after cfg₁ cfg₂, acts = before ++ a :: after ∧
    (licenses config).system.run (.start s) before = some cfg₁ ∧
    (licenses config).system.step cfg₁ a = some cfg₂ ∧
    cfg₁.state.subscriptions.rows.length ≤ i ∧ cfg₂.state.subscriptions.rows[i]? = some sub

/-- A row that was created is still there, and what was created as a trial is the first row
of its tenant. -/
theorem Created.row {i : ℕ} {sub : Subscription} (hcreated : Created config s acts i sub)
    (hrun : (licenses config).system.run (.start s) acts = some cfg) :
    (∃ now, cfg.state.subscriptions.rows[i]? = some now ∧ now.tenantId = sub.tenantId) ∧
      (sub.status = .trialing → ∀ (j : ℕ) (other : Subscription),
        cfg.state.subscriptions.rows[j]? = some other → other.tenantId = sub.tenantId → i ≤ j) := by
  obtain ⟨before, a, after, cfg₁, cfg₂, rfl, hbefore, hstep, hi, hsub⟩ := hcreated
  have hafter : (licenses config).system.run cfg₁ (a :: after) = some cfg := by
    rwa [System.run_append, hbefore] at hrun
  have hlater : (licenses config).system.run cfg₂ after = some cfg := by
    simpa [hstep] using hafter
  have hmid : (licenses config).system.run (.start s) (before ++ [a]) = some cfg₂ :=
    (licenses config).system.run_concat_eq_some.mpr ⟨cfg₁, hbefore, hstep⟩
  obtain ⟨now, hnow, htenant, -⟩ := keeps_of_run hmid hlater i sub hsub
  refine ⟨⟨now, hnow, htenant⟩, fun htrial j other hother hsame => ?_⟩
  obtain ⟨tenantId, hextends⟩ := step_extends (issues_of_run hbefore) hstep
  obtain ⟨rfl, hfirst⟩ := hextends.added i sub hi hsub
  -- An earlier row has kept its tenant, and none was of this one.
  by_contra hlt
  have hj : j < cfg₁.state.subscriptions.rows.length := Nat.lt_of_not_le hlt
  obtain ⟨kept, hkept, hkeptTenant, -⟩ :=
    keeps_of_run hbefore hafter j _ (getElem?_eq_getElem hj)
  obtain rfl := Option.some.inj (hother.symm.trans hkept)
  have hnone := any_eq_false.mp (hfirst htrial) _ (getElem_mem hj)
  exact hnone (by simp [← hkeptTenant, hsame])

structure LicenseHistory (config : Config) (s : Database) (acts : List (licenses config).Action)
    (cfg : (licenses config).Config) : Prop where
  /-- At most one row of a tenant is not canceled. -/
  live : ∀ tenantId,
    ((cfg.state.subscriptions.rowsOf tenantId).filter (·.status ≠ .canceled)).length ≤ 1
  /-- A row that was created as a trial is the first of its tenant. -/
  trial_first : ∀ i sub, Created config s acts i sub → sub.status = .trialing →
    (∃ now, cfg.state.subscriptions.rows[i]? = some now ∧ now.tenantId = sub.tenantId) ∧
      ∀ (j : ℕ) (other : Subscription), cfg.state.subscriptions.rows[j]? = some other →
        other.tenantId = sub.tenantId → i ≤ j
  /-- At most one row of a tenant was created as a trial. -/
  trial_once : ∀ i sub j other, Created config s acts i sub → Created config s acts j other →
    sub.status = .trialing → other.status = .trialing → other.tenantId = sub.tenantId → i = j
  /-- A row that was canceled at some time has not changed since. -/
  canceled : ∀ before after cfg₁, acts = before ++ after →
    (licenses config).system.run (.start s) before = some cfg₁ → ∀ (i : ℕ) (sub : Subscription),
      cfg₁.state.subscriptions.rows[i]? = some sub → sub.status = .canceled →
        cfg.state.subscriptions.rows[i]? = some sub
  /-- A call leaves the rows of all tenants but its own as they are. -/
  others : ∀ before after cfg₁ cfg₂ i th e, acts = before ++ after →
    (licenses config).system.run (.start s) before = some cfg₁ → cfg₁.Performs i th e cfg₂ →
      ∀ tenantId, licenseTenant e.call ≠ some tenantId →
        cfg₂.state.subscriptions.rowsOf tenantId = cfg₁.state.subscriptions.rowsOf tenantId

end

theorem length_live_le_one (table : SubscriptionTable) (tenantId : String) :
    ((table.rowsOf tenantId).filter (·.status ≠ .canceled)).length ≤ 1 := by
  have hpairwise := table.live_unique.sublist (filter_sublist.trans filter_sublist :
      ((table.rowsOf tenantId).filter (·.status ≠ .canceled)).Sublist table.rows)
  have hall : ∀ sub ∈ (table.rowsOf tenantId).filter (·.status ≠ .canceled),
      sub.tenantId = tenantId ∧ sub.status ≠ .canceled := by
    intro sub hsub
    obtain ⟨hrow, hlive⟩ := mem_filter.mp hsub
    exact ⟨by simpa using (mem_filter.mp hrow).2, by simpa using hlive⟩
  generalize (table.rowsOf tenantId).filter (·.status ≠ .canceled) = live at hpairwise hall ⊢
  rcases live with - | ⟨a, - | ⟨b, rest⟩⟩
  · exact Nat.zero_le 1
  · exact Nat.le_refl 1
  · obtain ⟨hta, hla⟩ := hall a (by simp)
    obtain ⟨htb, hlb⟩ := hall b (by simp)
    have hapart := rel_of_pairwise_cons hpairwise (mem_cons_self (a := b))
    rcases hapart (hta.trans htb.symm) with hcanceled | hcanceled
    · exact absurd hcanceled hla
    · exact absurd hcanceled hlb

/-- However the operations of the license service and the webhook handlers interleave: every
tenant has at most one live license, at most one trial, which came first, canceled licenses
are final, and a call touches the licenses of its tenant only. -/
theorem license_history (config : Config) (s : Database) (acts : List (licenses config).Action)
    (cfg : (licenses config).Config)
    (hrun : (licenses config).system.run (.start s) acts = some cfg) :
    LicenseHistory config s acts cfg where
  live := length_live_le_one _
  trial_first i sub hcreated htrial := (hcreated.row hrun).imp_right fun hfirst => hfirst htrial
  trial_once i sub j other hi hj htrial htrial' htenant := by
    obtain ⟨⟨now, hnow, hnowTenant⟩, hfirst⟩ := hi.row hrun
    obtain ⟨⟨now', hnow', hnowTenant'⟩, hfirst'⟩ := hj.row hrun
    apply Nat.le_antisymm
    · exact hfirst htrial j now' hnow' (hnowTenant'.trans htenant)
    · exact hfirst' htrial' i now hnow (hnowTenant.trans htenant.symm)
  canceled := by
    rintro before after cfg₁ rfl hbefore i sub hsub hcanceled
    rw [System.run_append, hbefore] at hrun
    obtain ⟨now, hnow, -, hsame⟩ := keeps_of_run hbefore hrun i sub hsub
    rw [hnow, hsame hcanceled]
  others := by
    rintro before after cfg₁ cfg₂ i th e rfl hbefore hperforms tenantId hne
    rcases performs_extends (issues_of_run hbefore) hperforms with ⟨n, hn, hextends⟩ | hsame
    · apply hextends.others
      rintro rfl
      exact hne hn
    · rw [hsame]

def sampleTenant : Database := { Database.empty with
  tenants := ((TenantTable.empty.create "tenant-1" "ada@example.org").map Prod.snd).getD .empty }

/-- The tenant is given its trial while Stripe reports that it has paid, and the paid license
is canceled in the end. -/
def sampleConversion : List (licenses sampleConfig).Action :=
  [.createTrial "tenant-1", .convertTrialToPaid "tenant-1" "active" ⟨5, 5⟩ (some 100),
      .createTrial "tenant-1", .cancel "tenant-1"].map .spawn ++
    [0, 2, 0, 1, 2, 3, 3].map fun i => .step i ⟨0, false, "tenant-1", ["tenant-1"]⟩

theorem license_history_sample :
    ∃ cfg, (licenses sampleConfig).system.run (.start sampleTenant) sampleConversion = some cfg ∧
      (Database.subscriptions cfg.state).rows.length = 2 ∧
      LicenseHistory sampleConfig sampleTenant sampleConversion cfg :=
  ⟨_, System.run_eq_some_runD _ (by decide), by decide,
    license_history sampleConfig sampleTenant sampleConversion _
      (System.run_eq_some_runD _ (by decide))⟩

end Wardnet.Authority.History

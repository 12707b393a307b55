/-
# Who is entitled

Three places decide whether a license entitles its tenant. `is_active` of the
license service looks at the grace periods and gates token minting. The view that
the regional services read only asks whether there is a current row, and trusts the
reaper to end lapsed ones. Network registration asks for a current row as well, and
nothing else.

The three agree as far as the reaper and the reactors have caught up. A license
that lacks the date its status is judged by, or whose grace ends at the very instant
of the pass, is refused by the first and never reaped.
-/

import Wardnet.Auth.Token
import Wardnet.Authority.Effects
import Wardnet.Authority.Overdue

namespace Wardnet.Authority

open Base Subscriptions Tenants SubscriptionTable
open Auth (ClaimsSpec)

/-- `SubscriptionService::is_active`: the grace-aware check. -/
def isActive (policy : TrialPolicy) (now : Int) (sub : Subscription) : Bool :=
  match sub.status with
  | .active => true
  | .trialing => sub.trialExpiresAt.any fun t => now < t + days policy.trialGraceDays
  | .pastDue => sub.currentPeriodEnd.any fun c => now < c + days policy.paymentGraceDays
  | .canceled => false

def Database.isActive (policy : TrialPolicy) (now : Int) (s : Database) (tenantId : String) :
    Bool :=
  (s.subscriptions.findCurrent tenantId).any (Authority.isActive policy now)

/-- What the regional services conclude from the current row. -/
def Database.viewActive (s : Database) (tenantId : String) : Bool :=
  (s.subscriptions.findCurrent tenantId).any fun sub => sub.view.isActive

/-! ## Token minting -/

/-- The tenant of a daemon and the network it is bound to: a registered daemon first,
else a live pending enrollment. -/
def Database.scopeOf (s : Database) (now : Int) (publicKey : String) :
    Option (String × Option String) :=
  match s.fleet.daemons.get? publicKey with
  | some daemon => some (daemon.tenantId, some daemon.networkId)
  | none =>
    ((s.fleet.pending.get? publicKey).filter (now < ·.expiresAt)).map fun row =>
      (row.tenantId, none)

/-- `mint_jwt`, up to the signature. It only reads, here from one state. -/
def mintJwt (policy : TrialPolicy) (s : Database) (now : Int) (publicKey : String) :
    Except TenantsError ClaimsSpec :=
  match s.scopeOf now publicKey with
  | none => .error (.badCode "no registered daemon or live enrollment for this key")
  | some (tenantId, network) =>
    match s.tenants.findById tenantId with
    | none => .error (.notFound "tenant not found")
    | some tenant =>
      if tenant.deregisteredAt ≠ none then .error (.forbidden "tenant is deregistered")
      else if !s.isActive policy now tenantId then
        .error (.forbidden "tenant subscription is not active")
      else
        .ok
          { tenantId, principalType := .daemon, subject := publicKey, network
            cnfEd25519B64 := some publicKey
            audience :=
              if network.isSome then ["tenants", "ddns", "tunneller"] else ["tenants"] }

variable {policy : TrialPolicy} {s s' : Database} {now : Int} {publicKey : String}
  {sub : Subscription}

/-- A token is minted exactly for the daemons of live tenants with an active
license. -/
theorem isOk_mintJwt_iff : (mintJwt policy s now publicKey).isOk = true ↔
      ∃ tenantId network, s.scopeOf now publicKey = some (tenantId, network) ∧
        s.tenants.isLive tenantId = true ∧ s.isActive policy now tenantId = true := by
  unfold mintJwt
  cases hscope : s.scopeOf now publicKey with
  | none => simp [Except.isOk, Except.toBool]
  | some scope =>
    obtain ⟨tenantId, network⟩ := scope
    cases htenant : s.tenants.findById tenantId with
    | none =>
      have hlive : s.tenants.rows.get? tenantId = none := htenant
      simp [Except.isOk, Except.toBool, htenant, TenantTable.isLive, hlive]
    | some tenant =>
      have hlive : s.tenants.isLive tenantId = decide (tenant.deregisteredAt = none) := by
        rw [TenantTable.isLive, show s.tenants.rows.get? tenantId = some tenant from htenant,
          Option.any_some]
      by_cases hclosed : tenant.deregisteredAt = none
      · cases hactive : s.isActive policy now tenantId <;>
          simp [Except.isOk, Except.toBool, htenant, hlive, hclosed, hactive]
      · simp [Except.isOk, Except.toBool, htenant, hlive, hclosed]

/-! ## The reaper and the check -/

/-- The license has the date that its status is judged by, and its grace does not end
at this very instant. -/
def Decided (policy : TrialPolicy) (now : Int) (sub : Subscription) : Prop :=
  match sub.status with
  | .trialing => ∃ t ∈ sub.trialExpiresAt, t + days policy.trialGraceDays ≠ now
  | .pastDue => ∃ c ∈ sub.currentPeriodEnd, c + days policy.paymentGraceDays ≠ now
  | .active | .canceled => True

/-- A live license is active when it is decided and not overdue. -/
theorem isActive_iff (hlive : sub.status ≠ .canceled) :
    isActive policy now sub = true ↔ Decided policy now sub ∧ ¬ OverdueAt policy now sub := by
  unfold Decided isActive OverdueAt
  cases hstatus : sub.status with
  | active => simp
  | canceled => exact absurd hstatus hlive
  | trialing =>
    cases hdate : sub.trialExpiresAt with
    | none => simp
    | some t =>
      simp
      omega
  | pastDue =>
    cases hdate : sub.currentPeriodEnd with
    | none => simp
    | some c =>
      simp
      omega

theorem decided_of_overdueAt (hoverdue : OverdueAt policy now sub) : Decided policy now sub := by
  unfold Decided
  rcases hoverdue with ⟨hstatus, t, ht, hlapsed⟩ | ⟨hstatus, c, hc, hlapsed⟩
  · rw [hstatus]
    exact ⟨t, ht, by omega⟩
  · rw [hstatus]
    exact ⟨c, hc, by omega⟩

def Database.StepAt (now : Int) (c : Call) (s : Database) (r : c.Resp) (s' : Database) : Prop :=
  ∃ choice : Choice, choice.now = now ∧ Database.exec choice c s = some (r, s')

theorem Database.StepAt.step {c : Call} {r : c.Resp} (h : Database.StepAt now c s r s') :
    Database.Step c s r s' := by
  obtain ⟨choice, -, hexec⟩ := h
  exact ⟨choice, hexec⟩

section

variable {now : Int} {s s' : Database}

theorem subscriptions_of_cancel {tenantId : String}
    (hrun : (cancel tenantId).run.Runs (Database.StepAt now) s (.ok ()) s') :
    s'.subscriptions = (s.subscriptions.cancelCurrent tenantId).2 := by
  rcases (Prog.runs_exceptBind _).mp hrun with ⟨_, herror, -⟩ | ⟨canceled, t, hcancel, hpublish⟩
  · cases herror
  obtain ⟨choice, -, hexec⟩ := (runs_perform _).mp hcancel
  have ht : t.subscriptions = (s.subscriptions.cancelCurrent tenantId).2 := by
    cases perform_of_exec hexec nofun
    rfl
  rw [← ht]
  cases canceled with
  | false => rw [hpublish.2]
  | true =>
    obtain ⟨_, _, ⟨choice, -, hexec⟩, -, rfl⟩ := hpublish
    exact (exec_frame hexec).subscriptions rfl

theorem findCurrent_of_cancelAll {tenantIds : List String}
    (hrun : (cancelAll tenantIds).run.Runs (Database.StepAt now) s (.ok ()) s')
    (tenantId : String) : s'.subscriptions.findCurrent tenantId =
      if tenantId ∈ tenantIds then none else s.subscriptions.findCurrent tenantId := by
  induction tenantIds generalizing s with
  | nil =>
    rw [hrun.2]
    rfl
  | cons head rest ih =>
    rcases (Prog.runs_exceptBind _).mp hrun with ⟨_, herror, -⟩ | ⟨⟨⟩, t, hcancel, hrest⟩
    · cases herror
    rw [ih hrest, subscriptions_of_cancel hcancel, findCurrent_cancelCurrent]
    grind

/-- A pass that runs alone ends exactly the overdue licenses. -/
theorem findCurrent_of_expireOverdue {config : Config} {n : ℕ}
    (hrun : (expireOverdue config).run.Runs (Database.StepAt now) s (.ok n) s')
    (tenantId : String) :
    s'.subscriptions.findCurrent tenantId = (s.subscriptions.findCurrent tenantId).filter fun sub =>
        !sub.overdue (now - days config.policy.trialGraceDays)
          (now - days config.policy.paymentGraceDays) := by
  obtain ⟨clock, t, ⟨choice, hnow, hexec⟩, hrest⟩ := hrun
  cases perform_of_exec hexec nofun
  rw [hnow] at hrest
  rcases (Prog.runs_exceptBind _).mp hrest with ⟨_, herror, -⟩ | ⟨tenantIds, t, hlist, hcancel⟩
  · cases herror
  obtain ⟨choice, -, hexec⟩ := (runs_perform _).mp hlist
  obtain ⟨rfl, hmem⟩ := listed_of_exec hexec
  rcases (Prog.runs_exceptBind _).mp hcancel with ⟨_, herror, -⟩ | ⟨⟨⟩, t, hcancel, hend⟩
  · cases herror
  obtain ⟨-, rfl⟩ := hend
  rw [findCurrent_of_cancelAll hcancel]
  simp only [hmem, mem_listOverdue_iff]
  cases hcurrent : t.subscriptions.findCurrent tenantId with
  | none => simp
  | some sub =>
    cases hoverdue : sub.overdue (now - days config.policy.trialGraceDays)
      (now - days config.policy.paymentGraceDays) <;> simp [Option.filter, hoverdue]

end

/-- After a pass that ran alone, the view of a tenant's current license agrees with
the grace-aware check exactly if the license was decided at the time of the pass. -/
theorem entitlement_checks_agree (config : Config) (now : Int) (s s' : Database) (n : ℕ)
    (hrun : (expireOverdue config).run.Runs (Database.StepAt now) s (.ok n) s')
    (tenantId : String) :
    s'.viewActive tenantId = s'.isActive config.policy now tenantId ↔
      ∀ sub ∈ s.subscriptions.findCurrent tenantId, Decided config.policy now sub := by
  unfold Database.viewActive Database.isActive
  rw [findCurrent_of_expireOverdue hrun]
  cases hcurrent : s.subscriptions.findCurrent tenantId with
  | none => simp
  | some sub =>
    have hlive : sub.status ≠ .canceled :=
      (of_decide_eq_true (isCurrent_of_findCurrent hcurrent).2).2
    cases hoverdue : sub.overdue (now - days config.policy.trialGraceDays)
      (now - days config.policy.paymentGraceDays) with
    | true =>
      have hdecided := decided_of_overdueAt (overdueAt_iff.mpr hoverdue)
      simp [hoverdue, hdecided]
    | false =>
      have hactive : isActive config.policy now sub = true ↔ Decided config.policy now sub := by
        rw [isActive_iff hlive, overdueAt_iff, hoverdue]
        simp
      simp [hoverdue, ← hactive, SubscriptionView.isActive, Subscription.view, hlive]

/-! ## Registration and minting -/

/-- The subscription reactor has handled a deregistration of the tenant, the reaper
has nothing to do for it, and its license is decided. -/
structure CaughtUp (policy : TrialPolicy) (now : Int) (s : Database) (tenantId : String) :
    Prop where
  closed : s.tenants.isLive tenantId = false → s.subscriptions.findCurrent tenantId = none
  reaped : ∀ sub ∈ s.subscriptions.findCurrent tenantId, ¬ OverdueAt policy now sub
  decided : ∀ sub ∈ s.subscriptions.findCurrent tenantId, Decided policy now sub

theorem findCurrent_of_registerNetwork {config : Config} {networkId tenantId slug region : String}
    {displayName : Option String}
    (hrun : (registerNetwork config networkId tenantId publicKey slug displayName region).run.Runs
      Database.Step s (.ok ()) s') :
    ∃ sub, s.subscriptions.findCurrent tenantId = some sub := by
  unfold registerNetwork at hrun
  split at hrun
  · cases hrun.1
  dsimp only [pure_bind] at hrun
  split at hrun
  · cases hrun.1
  rcases (Prog.runs_exceptBind _).mp hrun with ⟨_, herror, -⟩ | ⟨found, t, hfind, hfound⟩
  · cases herror
  obtain ⟨choice, hexec⟩ := (runs_perform _).mp (runs_orInternal_ok.mp hfind)
  cases perform_of_exec hexec nofun
  split at hfound
  · cases hfound.1
  rcases (Prog.runs_exceptBind _).mp hfound with ⟨_, herror, -⟩ | ⟨current, t, hread, hcurrent⟩
  · cases herror
  obtain ⟨choice, hexec⟩ := (runs_perform _).mp (runs_orInternal_ok.mp hread)
  cases perform_of_exec hexec nofun
  split at hcurrent
  · cases hcurrent.1
  · rename_i sub hsub
    exact ⟨sub, hsub⟩

/-- A registration that succeeds is one for a tenant whose daemons may also mint tokens,
exactly if the reaper and the reactors have caught up with the tenant. -/
theorem registered_may_mint (config : Config) (now : Int)
    (networkId tenantId publicKey slug : String) (displayName : Option String) (region : String)
    (s s' : Database)
    (hrun : (registerNetwork config networkId tenantId publicKey slug displayName region).run.Runs
      Database.Step s (.ok ()) s') :
    (s.tenants.isLive tenantId = true ∧ s.isActive config.policy now tenantId = true ∧
      ∀ key network, s.scopeOf now key = some (tenantId, network) →
        (mintJwt config.policy s now key).isOk = true) ↔
      CaughtUp config.policy now s tenantId := by
  obtain ⟨sub, hcurrent⟩ := findCurrent_of_registerNetwork hrun
  have hnot : sub.status ≠ .canceled :=
    (of_decide_eq_true (isCurrent_of_findCurrent hcurrent).2).2
  have hactive : s.isActive config.policy now tenantId = true ↔
      Decided config.policy now sub ∧ ¬ OverdueAt config.policy now sub := by
    rw [Database.isActive, hcurrent, Option.any_some, isActive_iff hnot]
  constructor
  · rintro ⟨hlive, hentitled, -⟩
    obtain ⟨hdecided, hreaped⟩ := hactive.mp hentitled
    refine ⟨fun hdead => ?_, fun sub' hsub' => ?_, fun sub' hsub' => ?_⟩
    · rw [hlive] at hdead
      cases hdead
    · obtain rfl := Option.some.inj (hcurrent.symm.trans hsub')
      exact hreaped
    · obtain rfl := Option.some.inj (hcurrent.symm.trans hsub')
      exact hdecided
  · intro hcaught
    have hlive : s.tenants.isLive tenantId = true := by
      by_contra hdead
      have hnone := hcaught.closed (Bool.eq_false_iff.mpr hdead)
      rw [hcurrent] at hnone
      cases hnone
    have hentitled := hactive.mpr ⟨hcaught.decided sub hcurrent, hcaught.reaped sub hcurrent⟩
    exact ⟨hlive, hentitled, fun key network hscope =>
      isOk_mintJwt_iff.mpr ⟨tenantId, network, hscope, hlive, hentitled⟩⟩

/-! ## Licenses that fall between the checks -/

def runAt {α : Type} (now : Int) (order : List String) (p : Proc α) (s : Database) :
    Option (α × Database) :=
  p.runWith (Database.exec ⟨now, false, "tenant-1", order⟩) s

def stateAt {α : Type} (now : Int) (order : List String) (p : Proc α) (s : Database) : Database :=
  ((runAt now order p s).map Prod.snd).getD s

theorem runs_stateAt {α : Type} {order : List String} {p : Proc α} {value : α}
    (h : (runAt now order p s).map Prod.fst = some value) :
    p.Runs (Database.StepAt now) s value (stateAt now order p s) := by
  obtain ⟨⟨value, s'⟩, hrun, rfl⟩ := Option.map_eq_some_iff.mp h
  rw [stateAt, hrun]
  exact Prog.runs_of_runWith _ (fun c s r s' hexec => ⟨_, rfl, hexec⟩) hrun

def stateAfter (acts : List (world sampleConfig).Action) : Database :=
  ((world sampleConfig).system.runD (.start .empty) acts).state

def sampleUndated : List (world sampleConfig).Action :=
  signup ++ .spawn (.applyEvent ⟨"evt-1", .subscriptionUpsert
      ⟨some "tenant-1", "sub-1", "cus-1", some "price-1", some ⟨5, 5⟩, .active, none⟩⟩) ::
    calls 2 6 0 ++ .spawn (.applyEvent ⟨"evt-2", .paymentFailed "sub-1"⟩) :: calls 3 4 0

def sampleClosed : List (world sampleConfig).Action :=
  signup ++ .spawn (.deregisterTenant "tenant-1") :: calls 2 3 0

/-- A trial in its fourth week is reaped. -/
theorem entitlement_checks_agree_sample :
    (stateAt (days 20) ["tenant-1"] (expireOverdue sampleConfig).run
        (stateAfter signup)).viewActive "tenant-1" =
      (stateAt (days 20) ["tenant-1"] (expireOverdue sampleConfig).run
        (stateAfter signup)).isActive sampleConfig.policy (days 20) "tenant-1" :=
  (entitlement_checks_agree sampleConfig (days 20) _ _ 1 (runs_stateAt (by decide))
    "tenant-1").mpr (by
    intro sub hsub
    have hcurrent : (stateAfter signup).subscriptions.findCurrent "tenant-1" =
        some ⟨"tenant-1", .trialing, .default, some (days 14), none⟩ := by decide
    rw [hcurrent] at hsub
    cases hsub
    exact ⟨days 14, rfl, by decide⟩)

/-- After the run, a pass at `now` leaves a license current that the check refuses. -/
def LapsesUnreaped (acts : List (world sampleConfig).Action) (now : Int) : Prop :=
  ∃ cfg s', (world sampleConfig).system.run (.start .empty) acts = some cfg ∧
    (expireOverdue sampleConfig).run.Runs (Database.StepAt now) cfg.state (.ok 0) s' ∧
    s'.viewActive "tenant-1" = true ∧ s'.isActive sampleConfig.policy now "tenant-1" = false

/-- A license is refused by the check and still current after the pass: a trial whose
grace ends at the time of the pass, and at any time an unpaid license without a
date. -/
theorem lapsed_license_stays_current :
    LapsesUnreaped signup (days 17) ∧ LapsesUnreaped sampleUndated (days 100) := by
  constructor
  · exact ⟨_, _, System.run_eq_some_runD _ (by decide),
      runs_stateAt (show (runAt _ [] _ _).map Prod.fst = _ by decide), by decide, by decide⟩
  · exact ⟨_, _, System.run_eq_some_runD _ (by decide),
      runs_stateAt (show (runAt _ [] _ _).map Prod.fst = _ by decide), by decide, by decide⟩

def sampleRegistration : Proc (Except TenantsError Unit) :=
  (registerNetwork sampleConfig "net-1" "tenant-1" "key-1" "home" none "eu").run

theorem registered_may_mint_sample : (stateAfter signup).tenants.isLive "tenant-1" = true ∧
      (stateAfter signup).isActive sampleConfig.policy 0 "tenant-1" = true ∧
      ∀ key network, (stateAfter signup).scopeOf 0 key = some ("tenant-1", network) →
        (mintJwt sampleConfig.policy (stateAfter signup) 0 key).isOk = true := by
  have hcurrent : (stateAfter signup).subscriptions.findCurrent "tenant-1" =
      some ⟨"tenant-1", .trialing, .default, some (days 14), none⟩ := by decide
  have hrun := (runs_stateAt
    (show (runAt 0 [] sampleRegistration (stateAfter signup)).map Prod.fst =
    some (.ok ()) by decide)).mono _ fun c s r s' hstep => hstep.step
  refine (registered_may_mint sampleConfig 0 "net-1" "tenant-1" "key-1" "home" none "eu" _ _
    hrun).mpr ⟨fun hdead => ?_, fun sub hsub => ?_, fun sub hsub => ?_⟩
  · exact absurd hdead (by decide)
  · rw [hcurrent] at hsub
    cases hsub
    simp [OverdueAt, days, sampleConfig]
  · rw [hcurrent] at hsub
    cases hsub
    exact ⟨days 14, rfl, by decide⟩

/-- After the run, a registration at `now` succeeds for a tenant that is not both live and
active, and its daemon is refused a token. -/
def RegistersUnentitled (acts : List (world sampleConfig).Action) (now : Int) (message : String) :
    Prop :=
  ∃ cfg s', (world sampleConfig).system.run (.start .empty) acts = some cfg ∧
    sampleRegistration.Runs (Database.StepAt now) cfg.state (.ok ()) s' ∧
    ¬ (cfg.state.tenants.isLive "tenant-1" = true ∧
      cfg.state.isActive sampleConfig.policy now "tenant-1" = true) ∧
    mintJwt sampleConfig.policy s' now "key-1" = .error (.forbidden message)

/-- A registration succeeds for a tenant whose daemon is then refused a token: the
account is closed, or the trial lapsed long ago. -/
theorem registered_may_not_mint : RegistersUnentitled sampleClosed 0 "tenant is deregistered" ∧
      RegistersUnentitled signup (days 100) "tenant subscription is not active" := by
  constructor
  · exact ⟨_, _, System.run_eq_some_runD _ (by decide),
      runs_stateAt (show (runAt _ [] _ _).map Prod.fst = _ by decide), by decide, by decide⟩
  · exact ⟨_, _, System.run_eq_some_runD _ (by decide),
      runs_stateAt (show (runAt _ [] _ _).map Prod.fst = _ by decide), by decide, by decide⟩

end Wardnet.Authority

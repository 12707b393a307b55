/-
# What an operation does when it runs alone

One lemma per operation and reaction: the state it leaves when no call fails, seen
through the tenants there are, the live ones among them, their licenses, the
networks and the published events.
-/

import Wardnet.Authority.Calls
import Wardnet.Authority.License

namespace Wardnet.Authority

open Base Billing Subscriptions Tenants Prog TenantTable

def Database.Succeeds (c : Call) (s : Database) (r : c.Resp) (s' : Database) : Prop :=
  ∃ choice, Database.perform choice c s = some (r, s')

structure SameAccounts (s s' : Database) : Prop where
  tenantExists : ∀ n, s'.tenantExists n = s.tenantExists n
  isLive : ∀ n, s'.tenants.isLive n = s.tenants.isLive n
  subscriptions : s'.subscriptions = s.subscriptions
  fleet : s'.fleet = s.fleet
  published : s'.published = s.published

structure SignedUp (id : String) (s s' : Database) : Prop where
  fresh : s.tenantExists id = false
  tenantExists : ∀ n, s'.tenantExists n = (s.tenantExists n || decide (n = id))
  isLive : ∀ n, s'.tenants.isLive n = (s.tenants.isLive n || decide (n = id))
  subscriptions : s'.subscriptions = s.subscriptions
  fleet : s'.fleet = s.fleet
  published : s'.published = s.published ++ [.tenantCreated id]

def MaySignUp (id : String) (s s' : Database) : Prop := SameAccounts s s' ∨ SignedUp id s s'

structure ClosedDown (tenantId : String) (s s' : Database) : Prop where
  live : s.tenants.isLive tenantId = true
  tenantExists : ∀ n, s'.tenantExists n = s.tenantExists n
  isLive : ∀ n, s'.tenants.isLive n = (s.tenants.isLive n && decide (n ≠ tenantId))
  subscriptions : s'.subscriptions = s.subscriptions
  fleet : s'.fleet = s.fleet
  published : s'.published = s.published ++ [.tenantDeregistered tenantId]

structure Registered (networkId tenantId : String) (s s' : Database) : Prop where
  licensed : s.subscriptions.findCurrent tenantId ≠ none
  tenants : s'.tenants = s.tenants
  subscriptions : s'.subscriptions = s.subscriptions
  networks : ∃ row, row.tenantId = tenantId ∧
    s'.fleet.networks = s.fleet.networks.insert networkId row
  published : s'.published = s.published

/-- The license of a tenant was ended, and its end announced if there was one. -/
def Database.canceled (s : Database) (tenantId : String) : Database :=
  { s with
    subscriptions := (s.subscriptions.cancelCurrent tenantId).2
    published := s.published ++ if s.subscriptions.findCurrent tenantId = none then []
      else [.subscriptionDeactivated tenantId] }

def Database.slated (s : Database) (tenantId : String) : Database :=
  { s with fleet := { s.fleet with
    networks := (s.fleet.networks.setDeprovisioningForTenant tenantId).2 } }

variable {email tenantId : String} {config : Config}

variable {row : NetworkRow} {t u : Database} {result : Except Failure Unit} {choice : Choice}
  {networkId publicKey : String}

/-- A row that is not being torn down afterwards is an old row of another tenant. -/
theorem Database.row_of_slated {s : Database} {id : String}
    (hrow : (s.slated tenantId).fleet.networks.get? id = some row) :
    ∃ old, s.fleet.networks.get? id = some old ∧ row.tenantId = old.tenantId ∧
      (row.provisioningState ≠ .deprovisioning → row = old ∧ old.tenantId ≠ tenantId) := by
  simp only [Database.slated, NetworkTable.setDeprovisioningForTenant_snd, Store.get?_modify,
    Option.map_eq_some_iff] at hrow
  obtain ⟨old, hold, hrow⟩ := hrow
  refine ⟨old, hold, ?_⟩
  split at hrow
  · subst hrow
    exact ⟨rfl, fun hstate => absurd rfl hstate⟩
  · rename_i hne
    exact ⟨by rw [hrow], fun _ => ⟨hrow.symm, hne⟩⟩

theorem SameAccounts.refl (s : Database) : SameAccounts s s :=
  ⟨fun _ => rfl, fun _ => rfl, rfl, rfl, rfl⟩

theorem SameAccounts.trans {s : Database} (h : SameAccounts s t) (h' : SameAccounts t u) :
    SameAccounts s u where
  tenantExists n := (h'.tenantExists n).trans (h.tenantExists n)
  isLive n := (h'.isLive n).trans (h.isLive n)
  subscriptions := h'.subscriptions.trans h.subscriptions
  fleet := h'.fleet.trans h.fleet
  published := h'.published.trans h.published

/-- The calls that leave tenants, licenses, networks and events alone. -/
def Call.isLogin : Call → Bool
  | .utcNow | .findCurrent _ | .findTenant _ | .findTenantByEmail _ | .findIdentity ..
  | .insertIdentity .. | .deleteSessionsForTenant _ | .deleteIdentitiesForTenant _ => true
  | _ => false

variable {s s' : Database}

theorem SameAccounts.of_call {c : Call} {r : c.Resp} (hcall : c.isLogin = true)
    (h : Database.Succeeds c s r s') : SameAccounts s s' := by
  obtain ⟨choice, hperform⟩ := h
  cases c with
  | utcNow | findCurrent | findTenant | findTenantByEmail | findIdentity
  | deleteSessionsForTenant | deleteIdentitiesForTenant =>
    cases hperform
    exact ⟨fun _ => rfl, fun _ => rfl, rfl, rfl, rfl⟩
  | insertIdentity =>
    simp only [Database.perform] at hperform
    split at hperform
    · rcases ifTenant_eq (Option.some.inj hperform) with ⟨-, rfl, -⟩ | ⟨rfl, -⟩
      · exact ⟨fun _ => rfl, fun _ => rfl, rfl, rfl, rfl⟩
      · exact .refl _
    · cases hperform
      exact .refl _
  | _ => cases hcall

theorem SameAccounts.of_runs {α : Type} {p : Proc α} {result : α}
    (hall : p.All fun c => c.isLogin = true) (hrun : p.Runs Database.Succeeds s result s') :
    SameAccounts s s' :=
  Runs.invariant _ _ (fun _ _ _ _ hcall hstep hsame => hsame.trans (.of_call hcall hstep))
    hall hrun (.refl s)

section

variable {α : Type} {step : (c : Call) → Database → c.Resp → Database → Prop}

theorem runs_orInternal_ok {p : Proc (Except Failure α)} {value : α} :
    (orInternal p).run.Runs step s (.ok value) s' ↔ p.Runs step s (.ok value) s' := by
  have hbind : (orInternal p).run = p.bind fun answer =>
    .ret (answer.mapError fun _ => TenantsError.internal) := rfl
  rw [hbind, runs_bind]
  constructor
  · rintro ⟨answer, _, hp, hanswer, rfl⟩
    cases answer with
    | error => cases hanswer
    | ok value' =>
      cases hanswer
      exact hp
  · intro hp
    exact ⟨.ok value, s', hp, rfl, rfl⟩

theorem failed_of_runs_orInternal {p : Proc (Except Failure α)} {e : TenantsError}
    (hrun : (orInternal p).run.Runs step s (.error e) s') : p.Runs step s (.error .failed) s' := by
  obtain ⟨answer, _, hp, hanswer, rfl⟩ := (runs_bind _).mp hrun
  cases answer with
  | error failure => exact hp
  | ok value => cases hanswer

end

/-! ## Signup -/

theorem SignedUp.of_create {id : String} {table : TenantTable}
    (hcreate : s.tenants.create id email = some (.created, table)) :
    SignedUp id s { s with
      tenants := table, published := s.published ++ [.tenantCreated id] } := by
  rcases TenantTable.create_cases hcreate with ⟨hout, -⟩ | ⟨-, hfresh, hrows⟩
  · cases hout
  · refine ⟨?_, fun n => ?_, fun n => ?_, rfl, rfl, rfl⟩
    · simp [Database.tenantExists, TenantTable.findById, hfresh]
    · by_cases heq : n = id <;>
        simp [Database.tenantExists, TenantTable.findById, hrows, heq]
    · by_cases heq : n = id <;> simp [TenantTable.isLive, hrows, heq]

/-- A signup adds the tenant and announces it, or changes nothing. -/
theorem registerTenant_effect {id : String} {result : Except TenantsError String}
    (hrun : (registerTenant config id email).run.Runs Database.Succeeds s result s') :
    MaySignUp id s s' := by
  rcases (runs_exceptBind _).mp hrun with ⟨_, -, -, rfl⟩ | ⟨email', _, ⟨-, rfl⟩, hvalid⟩
  · exact .inl (.refl _)
  rcases (runs_exceptBind _).mp hvalid with ⟨e, -, hcreate⟩ | ⟨outcome, t, hcreate, hrest⟩
  · obtain ⟨choice, hperform⟩ := (runs_perform _).mp (failed_of_runs_orInternal hcreate)
    simp only [Database.perform] at hperform
    split at hperform
    · cases hperform
    · cases hperform
      exact .inl (.refl _)
  · obtain ⟨choice, hperform⟩ := (runs_perform _).mp (runs_orInternal_ok.mp hcreate)
    simp only [Database.perform] at hperform
    split at hperform
    · rename_i out hout
      obtain ⟨outcome', table⟩ := out
      cases hperform
      cases outcome' with
      | created =>
        obtain ⟨_, _, ⟨_, hpublish⟩, hpure⟩ := hrest
        cases hpublish
        obtain ⟨rfl, rfl⟩ := hpure
        exact .inr (.of_create hout)
      | emailTaken =>
        obtain ⟨rfl, rfl⟩ := hrest
        rcases create_cases hout with ⟨-, rfl⟩ | ⟨hcreated, -⟩
        · exact .inl (.refl _)
        · cases hcreated
    · cases hperform

theorem MaySignUp.between {id : String} (hbefore : SameAccounts s t) (h : MaySignUp id t u)
    (hafter : SameAccounts u s') : MaySignUp id s s' := by
  rcases h with hsame | hsigned
  · exact .inl ((hbefore.trans hsame).trans hafter)
  · right
    exact
      { fresh := (hbefore.tenantExists id).symm.trans hsigned.fresh
        tenantExists := fun n => by
          rw [hafter.tenantExists, hsigned.tenantExists, hbefore.tenantExists]
        isLive := fun n => by rw [hafter.isLive, hsigned.isLive, hbefore.isLive]
        subscriptions := by
          rw [hafter.subscriptions, hsigned.subscriptions, hbefore.subscriptions]
        fleet := by rw [hafter.fleet, hsigned.fleet, hbefore.fleet]
        published := by rw [hafter.published, hsigned.published, hbefore.published] }

theorem login_findTenantByEmail (config : Config) (email : String) :
    (orTenantsError (findTenantByEmail config email)).run.All fun c => c.isLogin = true := by
  apply all_orTenantsError
  apply All.exceptBind
  · trivial
  · intro email'
    exact all_orInternal ⟨rfl, fun _ => trivial⟩

theorem resolveTenant_effect {id : String} {result : Except IdentitiesError String}
    (hrun : (resolveTenant config id email).run.Runs Database.Succeeds s result s') :
    MaySignUp id s s' := by
  have hlogin := login_findTenantByEmail config email
  rcases (runs_exceptBind _).mp hrun with ⟨_, -, hfind⟩ | ⟨found, t, hfind, hrest⟩
  · exact .inl (.of_runs hlogin hfind)
  have hsame : SameAccounts s t := .of_runs hlogin hfind
  cases found with
  | some tenantId =>
    obtain ⟨-, rfl⟩ := hrest
    exact .inl hsame
  | none =>
    rcases (runs_exceptBind _).mp hrest with ⟨_, -, hregister⟩ | ⟨registered, u, hregister, hafter⟩
    · obtain ⟨_, -, hok⟩ := (runs_exceptLift _).mp hregister
      cases hok
    obtain ⟨_, hregister, -⟩ := (runs_exceptLift _).mp hregister
    have hlater : SameAccounts u s' := by
      split at hafter
      · obtain ⟨-, rfl⟩ := hafter
        exact .refl _
      · apply SameAccounts.of_runs (hlogin.exceptBind fun winner => ?_) hafter
        cases winner with
        | some | none => trivial
      · obtain ⟨-, rfl⟩ := hafter
        exact .refl _
    exact .between hsame (registerTenant_effect hregister) hlater

theorem resolveIdentity_effect {id : String} {verified : VerifiedIdentity}
    {secretHash : Option String} {result : Except IdentitiesError (String × Bool)}
    (hrun : (resolveIdentity config id verified secretHash).run.Runs Database.Succeeds s result
      s') :
    MaySignUp id s s' := by
  have hlogin : (orTenantsError (orInternal (issue
      (.findIdentity verified.provider verified.subject)))).run.All fun c => c.isLogin = true :=
    all_orTenantsError (all_orInternal ⟨rfl, fun _ => trivial⟩)
  rcases (runs_exceptBind _).mp hrun with ⟨_, -, hfind⟩ | ⟨existing, t, hfind, hrest⟩
  · exact .inl (.of_runs hlogin hfind)
  have hsame : SameAccounts s t := .of_runs hlogin hfind
  cases existing with
  | some existing =>
    obtain ⟨-, rfl⟩ := hrest
    exact .inl hsame
  | none =>
    dsimp only at hrest
    split at hrest
    · obtain ⟨-, rfl⟩ := hrest
      exact .inl hsame
    rcases (runs_exceptBind _).mp hrest with ⟨_, -, -, rfl⟩ | ⟨email, _, ⟨-, rfl⟩, hvalid⟩
    · exact .inl hsame
    rcases (runs_exceptBind _).mp hvalid with
      ⟨_, -, hresolve⟩ | ⟨tenantId, u, hresolve, hinsert⟩
    · exact .between hsame (resolveTenant_effect hresolve) (.refl _)
    · apply MaySignUp.between hsame (resolveTenant_effect hresolve)
      apply SameAccounts.of_runs (All.exceptBind ?_ fun _ => ?_) hinsert
      · exact all_orTenantsError (all_orInternal ⟨rfl, fun _ => trivial⟩)
      · trivial

/-! ## Deregistration -/

/-- A deregistration tombstones a live tenant and announces it, or changes
nothing. -/
theorem deregisterTenant_effect {result : Except TenantsError Bool}
    (hrun : (deregisterTenant tenantId).run.Runs Database.Succeeds s result s') :
    SameAccounts s s' ∨ ClosedDown tenantId s s' := by
  rcases (runs_exceptBind _).mp hrun with ⟨_, -, hfind⟩ | ⟨found, _, hfind, hrest⟩
  · obtain ⟨choice, hperform⟩ := (runs_perform _).mp (failed_of_runs_orInternal hfind)
    cases hperform
  obtain ⟨choice, hperform⟩ := (runs_perform _).mp (runs_orInternal_ok.mp hfind)
  cases hperform
  cases hfound : s.tenants.findById tenantId with
  | none =>
    rw [hfound] at hrest
    obtain ⟨-, rfl⟩ := hrest
    exact .inl (.refl _)
  | some tenant =>
    rw [hfound] at hrest
    rcases (runs_exceptBind _).mp hrest with ⟨_, -, hstamp⟩ | ⟨stamped, t, hstamp, hafter⟩
    · obtain ⟨choice, hperform⟩ := (runs_perform _).mp (failed_of_runs_orInternal hstamp)
      cases hperform
    obtain ⟨choice, hperform⟩ := (runs_perform _).mp (runs_orInternal_ok.mp hstamp)
    have hlive : stamped = s.tenants.isLive tenantId := by
      cases hperform
      exact setDeregistered_fst ..
    cases hperform
    rw [hlive] at hafter
    cases hbefore : s.tenants.isLive tenantId with
    | true =>
      rw [hbefore] at hafter
      obtain ⟨_, _, ⟨_, hpublish⟩, hpure⟩ := hafter
      cases hpublish
      obtain ⟨rfl, rfl⟩ := hpure
      exact .inr ⟨hbefore, fun n => isSome_findById_setDeregistered ..,
        fun n => isLive_setDeregistered .., rfl, rfl, rfl⟩
    | false =>
      rw [hbefore] at hafter
      obtain ⟨-, rfl⟩ := hafter
      refine .inl ⟨fun n => isSome_findById_setDeregistered .., fun n => ?_,
        rfl, rfl, rfl⟩
      rw [isLive_setDeregistered]
      by_cases heq : n = tenantId
      · simp [heq, hbefore]
      · simp [heq]

/-! ## Licenses and networks -/

theorem cancel_effect (hrun : (cancel tenantId).run.Runs Database.Succeeds s result s') :
    s' = s.canceled tenantId := by
  rcases (runs_exceptBind _).mp hrun with ⟨e, -, hcancel⟩ | ⟨canceled, t, hcancel, hpublish⟩
  · obtain ⟨choice, hperform⟩ := (runs_perform _).mp hcancel
    cases hperform
  obtain ⟨choice, hperform⟩ := (runs_perform _).mp hcancel
  have hcanceled : canceled = (s.subscriptions.findCurrent tenantId).isSome := by
    cases hperform
    exact SubscriptionTable.patchCurrent_fst _ _ _
  cases hperform
  rw [hcanceled] at hpublish
  cases hcurrent : s.subscriptions.findCurrent tenantId with
  | none =>
    rw [hcurrent] at hpublish
    obtain ⟨-, rfl⟩ := hpublish
    simp [Database.canceled, hcurrent]
  | some sub =>
    rw [hcurrent] at hpublish
    obtain ⟨_, _, ⟨_, hperform⟩, hpure⟩ := hpublish
    cases hperform
    obtain ⟨-, rfl⟩ := hpure
    simp [Database.canceled, hcurrent]

theorem perform_createTrial {sub : Subscription} {r : Except Failure Bool}
    (hperform : Database.perform choice (.createTrial sub) s = some (r, s')) :
    (r = .error .failed ∧ s.tenantExists sub.tenantId = false) ∨
      (r = .ok (!s.subscriptions.hasHistory sub.tenantId) ∧
        s' = { s with subscriptions := (s.subscriptions.createTrial sub).2 }) := by
  simp only [Database.perform] at hperform
  rcases s.subscriptions.createTrial_cases sub with ⟨hhistory, htrial⟩ | ⟨hhistory, hopened⟩
  · rw [htrial] at hperform ⊢
    cases hperform
    exact .inr ⟨by rw [hhistory]; rfl, rfl⟩
  · rw [if_pos hopened] at hperform
    simp only [Database.ifTenant] at hperform
    split at hperform
    · cases hperform
      exact .inr ⟨by rw [hhistory]; rfl, rfl⟩
    · rename_i hmissing
      cases hperform
      exact .inl ⟨rfl, Bool.eq_false_iff.mpr hmissing⟩

theorem createTrial_effect {result : Except Failure Bool}
    (hrun : (createTrial config tenantId).run.Runs Database.Succeeds s result s')
    (hexists : s.tenantExists tenantId = true) :
    ∃ sub : Subscription, sub.tenantId = tenantId ∧ sub.status = .trialing ∧
      s' = { s with subscriptions := (s.subscriptions.createTrial sub).2 } := by
  obtain ⟨now, t, ⟨_, hnow⟩, hcreate⟩ := hrun
  cases hnow
  obtain ⟨choice, hperform⟩ := (runs_perform _).mp hcreate
  rcases perform_createTrial hperform with ⟨-, hmissing⟩ | ⟨-, hopened⟩
  · rw [hexists] at hmissing
    cases hmissing
  · exact ⟨_, rfl, rfl, hopened⟩

/-- The same for a call that may fail: a trial that reports success was opened, or
was not due. -/
theorem createTrial_step {opened : Bool}
    (hrun : (createTrial config tenantId).run.Runs Database.Step s (.ok opened) s') :
    ∃ sub : Subscription, sub.tenantId = tenantId ∧ sub.status = .trialing ∧
      opened = (!s.subscriptions.hasHistory tenantId) ∧
        s' = { s with subscriptions := (s.subscriptions.createTrial sub).2 } := by
  obtain ⟨now, t, ⟨_, hnow⟩, hcreate⟩ := hrun
  cases perform_of_exec hnow nofun
  obtain ⟨choice, hexec⟩ := (runs_perform _).mp hcreate
  have hperform := perform_of_exec hexec nofun
  rcases perform_createTrial hperform with ⟨herror, -⟩ | ⟨hanswer, hopened⟩
  · cases herror
  · cases hanswer
    exact ⟨_, rfl, rfl, rfl, hopened⟩

theorem perform_registerNetwork {maxNetworks maxDaemons : ℕ}
    {r : Except Failure RegisterNetworkOutcome}
    (hperform : Database.perform choice
      (.registerNetwork networkId row publicKey maxNetworks maxDaemons) s = some (r, s')) :
    s' = s ∨ ∃ fleet, s' = { s with fleet } ∧
      fleet.networks = s.fleet.networks.insert networkId row := by
  simp only [Database.perform] at hperform
  split at hperform
  · rename_i fleet hregister
    rcases ifTenant_eq (Option.some.inj hperform) with ⟨-, rfl, -⟩ | ⟨rfl, -⟩
    · refine .inr ⟨fleet, rfl, ?_⟩
      simp only [Fleet.registerNetwork] at hregister
      repeat' split at hregister
      all_goals cases hregister
      rfl
    · exact .inl rfl
  · rcases ifTenant_eq (Option.some.inj hperform) with ⟨-, rfl, -⟩ | ⟨rfl, -⟩
    · exact .inl rfl
    · exact .inl rfl
  · cases hperform
    exact .inl rfl
  · cases hperform
    exact .inl rfl

/-- A network is registered for a licensed tenant only. -/
theorem registerNetwork_effect {slug region : String} {displayName : Option String}
    {result : Except TenantsError Unit}
    (hrun : (registerNetwork config networkId tenantId publicKey slug displayName region).run.Runs
      Database.Succeeds s result s') :
    s' = s ∨ Registered networkId tenantId s s' := by
  unfold registerNetwork at hrun
  split at hrun
  · exact .inl hrun.2
  dsimp only [pure_bind] at hrun
  split at hrun
  · exact .inl hrun.2
  rcases (runs_exceptBind _).mp hrun with ⟨_, -, hfind⟩ | ⟨found, _, hfind, hfound⟩
  · obtain ⟨choice, hperform⟩ := (runs_perform _).mp (failed_of_runs_orInternal hfind)
    cases hperform
  obtain ⟨choice, hperform⟩ := (runs_perform _).mp (runs_orInternal_ok.mp hfind)
  cases hperform
  split at hfound
  · exact .inl hfound.2
  rcases (runs_exceptBind _).mp hfound with ⟨_, -, hread⟩ | ⟨current, _, hread, hcurrent⟩
  · obtain ⟨choice, hperform⟩ := (runs_perform _).mp (failed_of_runs_orInternal hread)
    cases hperform
  obtain ⟨choice, hperform⟩ := (runs_perform _).mp (runs_orInternal_ok.mp hread)
  cases hperform
  split at hcurrent
  · exact .inl hcurrent.2
  rename_i sub hlicense
  have hlicensed : s.subscriptions.findCurrent tenantId ≠ none := by
    rw [hlicense]
    nofun
  rcases (runs_exceptBind _).mp hcurrent with ⟨_, -, hcall⟩ | ⟨outcome, t, hcall, hend⟩
  · obtain ⟨choice, hperform⟩ := (runs_perform _).mp (failed_of_runs_orInternal hcall)
    rcases perform_registerNetwork hperform with rfl | ⟨fleet, rfl, hinsert⟩
    · exact .inl rfl
    · exact .inr ⟨hlicensed, rfl, rfl, ⟨_, rfl, hinsert⟩, rfl⟩
  · obtain ⟨choice, hperform⟩ := (runs_perform _).mp (runs_orInternal_ok.mp hcall)
    have hlast : s' = t := by
      cases outcome with
      | created | slugTaken | networkLimit | daemonLimit | daemonExists => exact hend.2
    subst hlast
    rcases perform_registerNetwork hperform with rfl | ⟨fleet, rfl, hinsert⟩
    · exact .inl rfl
    · exact .inr ⟨hlicensed, rfl, rfl, ⟨_, rfl, hinsert⟩, rfl⟩

theorem deprovisionNetworksFor_effect {result : Except TenantsError Unit}
    (hrun : (deprovisionNetworksFor tenantId).run.Runs Database.Succeeds s result s') :
    s' = s.slated tenantId := by
  rcases (runs_exceptBind _).mp hrun with ⟨_, -, hcall⟩ | ⟨_, _, hcall, -, rfl⟩
  · obtain ⟨choice, hperform⟩ := (runs_perform _).mp (failed_of_runs_orInternal hcall)
    cases hperform
  · obtain ⟨choice, hperform⟩ := (runs_perform _).mp (runs_orInternal_ok.mp hcall)
    cases hperform
    rfl

theorem purgeFor_effect (hrun : (purgeFor tenantId).run.Runs Database.Succeeds s result s') :
    SameAccounts s s' := by
  apply SameAccounts.of_runs (All.exceptBind ?_ fun _ => All.exceptBind ?_ fun _ => ?_) hrun
  · exact ⟨rfl, fun _ => trivial⟩
  · exact ⟨rfl, fun _ => trivial⟩
  · trivial

end Wardnet.Authority

/-
# Tearing down the networks of a tenant

The network reactor slates a tenant's networks because it is told that the license
has ended, a reconcile pass because it has read that there is none. Either may be
late: a license that is granted in between is not looked at again. In every run in
which a license is granted only when nothing of the kind is under way, networks
are slated of tenants without a license only.
-/

import Wardnet.Authority.Effects

namespace Wardnet.Authority

open Base Billing Subscriptions Tenants Outline World Thread Restores List

/-- The tenants to whom a call gives a license if they have none. -/
def Call.grantees (s : Database) : Call → List String
  | .convertTrialToPaid tenantId paid => [tenantId, paid.tenantId]
  | .createTrial sub => if s.subscriptions.hasHistory sub.tenantId then [] else [sub.tenantId]
  | _ => []

theorem findCurrent_eq_none_of_not_grantee {choice : Choice} {c : Call} {s s' : Database}
    {r : c.Resp} (hexec : Database.exec choice c s = some (r, s')) {tenantId : String}
    (hother : tenantId ∉ c.grantees s) (hnone : s.subscriptions.findCurrent tenantId = none) :
    s'.subscriptions.findCurrent tenantId = none := by
  by_cases hopens : c.opensLicense = true
  · cases exec_license hexec tenantId with
    | same h => rw [h, hnone]
    | ended _ h => exact h
    | opened sub hcall htenant hfirst =>
      have hhistory : s.subscriptions.hasHistory tenantId = false :=
        Bool.eq_false_iff.mpr fun h => hfirst (.inl h)
      subst hcall htenant
      simp [Call.grantees, hhistory] at hother
    | written hwrites =>
      cases c with
      | convertTrialToPaid n paid => exact absurd hwrites hother
      | createTrial sub => cases hwrites
      | _ => cases hopens
  · exact findCurrent_eq_none_of_exec hexec (Bool.eq_false_iff.mpr hopens) hnone

def Task.told : Task → Option String
  | .applyToNetwork (.subscriptionDeactivated tenantId) => some tenantId
  | _ => none

/-! ## What a task is about to do -/

section

variable {config : Config}

/-- The tenant whose license a task has just ended or, if it is a reconcile pass,
found missing, after one more call. -/
def aboutStep (task : Task) (old : Option String) : (world config).Event → Option String
  | ⟨.cancelCurrent tenantId, .ok true⟩ => some tenantId
  | ⟨.findCurrent tenantId, .ok none⟩ => if task = .reconcile then some tenantId else none
  | ⟨.utcNow, _⟩ => old
  | ⟨.createTrial _, .ok false⟩ => old
  | _ => none

/-- The tenant whose license a task has just ended or found missing, and on whose
account it is about to act. -/
def about (task : Task) (log : List (world config).Event) : Option String :=
  log.foldl (aboutStep task) none

theorem about_concat (task : Task) (log : List (world config).Event) (e : (world config).Event) :
    about task (log ++ [e]) = aboutStep task (about task log) e := by
  simp [about, foldl_append]

/-- The calls with which a task neither ends nor misses a license, nor acts on it. -/
def Call.Inert (task : Task) : Call → Prop
  | .cancelCurrent _ | .setDeprovisioningForTenant _ | .publish (.subscriptionDeactivated _) =>
    False
  | .findCurrent _ => task ≠ .reconcile
  | _ => True

theorem about_concat_of_inert {task : Task} {log : List (world config).Event} {c : Call}
    (hlog : about task log = none) (hinert : c.Inert task) (r : c.Resp) :
    about task (log ++ [(⟨c, r⟩ : (world config).Event)]) = none := by
  rw [about_concat, hlog]
  cases c with
  | cancelCurrent => exact hinert.elim
  | findCurrent n =>
    cases r with
    | error e => rfl
    | ok current =>
      cases current with
      | none => exact if_neg hinert
      | some sub => rfl
  | createTrial sub =>
    cases r with
    | error e => rfl
    | ok opened => cases opened <;> rfl
  | _ => rfl

end

/-! ## The outline -/

/-- A task is annotated with the tenant on whose account it is about to act. That
tenant has no license. -/
@[reducible]
def teardown (config : Config) : Outline (world config) (Option String) where
  Inv s notes := ∀ tenantId, some tenantId ∈ notes → s.subscriptions.findCurrent tenantId = none
  Sees _ g task log pending := g = about task log ∧
    (∀ tenantId, pending = some (.publish (.subscriptionDeactivated tenantId)) →
      g = some tenantId) ∧
    (∀ tenantId, pending = some (.setDeprovisioningForTenant tenantId) →
      g = some tenantId ∨ task.told = some tenantId)
  Permits s _ rest c _ := ∀ tenantId ∈ c.grantees s, some tenantId ∉ rest

variable {config : Config} {i : ℕ} {task : Task} {s s' : Database} {rest : Set (Option String)}
  {choice : Choice} {c : Call} {r : c.Resp}

/-- A task moves on to a tenant without a license, or to none. -/
theorem teardown_inv_step {g g' : Option String} (hinv : (teardown config).Inv s (insert g rest))
    (hpermits : (teardown config).Permits s g rest c choice)
    (hexec : Database.exec choice c s = some (r, s'))
    (hg' : ∀ tenantId ∈ g', s'.subscriptions.findCurrent tenantId = none) :
    (teardown config).Inv s' (insert g' rest) := by
  intro tenantId hmem
  rcases Set.mem_insert_iff.mp hmem with hself | hrest
  · exact hg' tenantId hself.symm
  · exact findCurrent_eq_none_of_not_grantee hexec
      (fun hgrantee => hpermits tenantId hgrantee hrest)
      (hinv tenantId (Set.mem_insert_of_mem _ hrest))

abbrev Rests (config : Config) (i : ℕ) (task : Task) {α : Type} (p : Proc α) : Prop :=
  (teardown config).Restores i task none (fun log => about task log = none) p

theorem Rests.call {α : Type} {c : Call} {next : c.Resp → Proc α} (hinert : c.Inert task)
    (hnext : ∀ r, Rests config i task (next r)) : Rests config i task (.call c next) := by
  intro log hlog
  refine ⟨⟨hlog.symm, ?_, ?_⟩, fun s rest choice r s' hinv hpermits hexec =>
    ⟨none, teardown_inv_step hinv hpermits hexec nofun,
      hnext r _ (about_concat_of_inert hlog hinert r)⟩⟩
  · rintro tenantId ⟨⟩
    exact hinert.elim
  · rintro tenantId ⟨⟩
    exact hinert.elim

theorem Rests.of_inert {α : Type} {p : Proc α} (hall : p.All (Call.Inert task)) :
    Rests config i task p := by
  induction p with
  | ret value => exact .ret value
  | call c next ih => exact .call hall.1 fun r => ih r (hall.2 r)

theorem Rests.cancel (tenantId : String) : Rests config i task (cancel tenantId).run := by
  intro log hlog
  apply Wp.exceptBind
  refine ⟨⟨hlog.symm, nofun, nofun⟩, fun s rest choice r s' hinv hpermits hexec => ?_⟩
  cases r with
  | error e =>
    exact ⟨none, teardown_inv_step hinv hpermits hexec nofun, rfl, about_concat ..⟩
  | ok canceled =>
    cases canceled with
    | false => exact ⟨none, teardown_inv_step hinv hpermits hexec nofun, rfl, about_concat ..⟩
    | true =>
      refine ⟨some tenantId, teardown_inv_step hinv hpermits hexec ?_,
        ⟨?_, ?_, nofun⟩, fun s rest choice r s' hinv hpermits hexec =>
          ⟨none, teardown_inv_step hinv hpermits hexec nofun, rfl, about_concat ..⟩⟩
      · rintro _ ⟨⟩
        exact findCurrent_eq_none_of_canceled hexec
      · rw [about_concat]
        rfl
      · rintro _ ⟨⟩
        rfl

theorem Rests.cancelAll (ids : List String) : Rests config i task (cancelAll ids).run := by
  induction ids with
  | nil => exact .ret _
  | cons tenantId ids ih => exact .exceptBind (Rests.cancel tenantId) fun _ => ih

theorem wp_createTrial {tenantId : String} {log : List (world config).Event}
    (hlog : about .reconcile log = some tenantId) :
    (teardown config).Wp i .reconcile (fun g log' r => if r = .ok false
        then g = some tenantId ∧ about .reconcile log' = some tenantId
        else g = none ∧ about .reconcile log' = none)
      (some tenantId) log (createTrial config tenantId).run := by
  refine ⟨⟨hlog.symm, nofun, nofun⟩, fun s rest choice now s' hinv hpermits hexec => ?_⟩
  have hlog' : about .reconcile (log ++ [⟨.utcNow, now⟩]) = some tenantId := by
    rw [about_concat, hlog]
    rfl
  refine ⟨some tenantId, teardown_inv_step hinv hpermits hexec ?_, ⟨hlog'.symm, nofun, nofun⟩,
    fun s rest choice r s' hinv hpermits hexec => ?_⟩
  · rintro _ ⟨⟩
    exact findCurrent_eq_none_of_not_grantee hexec nofun (hinv tenantId (Set.mem_insert _ _))
  cases r with
  | error e =>
    refine ⟨none, teardown_inv_step hinv hpermits hexec nofun, ?_⟩
    exact ⟨rfl, about_concat ..⟩
  | ok opened =>
    cases opened with
    | true =>
      refine ⟨none, teardown_inv_step hinv hpermits hexec nofun, ?_⟩
      exact ⟨rfl, about_concat ..⟩
    | false =>
      -- The tenant has a history, so the trial was not opened.
      refine ⟨some tenantId, teardown_inv_step hinv hpermits hexec ?_, ?_⟩
      · rintro _ ⟨⟩
        apply findCurrent_eq_none_of_not_grantee hexec _ (hinv tenantId (Set.mem_insert _ _))
        have hperform := perform_of_exec hexec nofun
        rcases perform_createTrial hperform with ⟨herror, -⟩ | ⟨hanswer, -⟩
        · cases herror
        · simp only [Except.ok.injEq, Bool.false_eq, Bool.not_eq_false'] at hanswer
          simp [Call.grantees, hanswer]
      · refine ⟨rfl, ?_⟩
        rw [about_concat, hlog']
        rfl

theorem Rests.reconcileTenant (tenantId : String) :
    Rests config i .reconcile (reconcileTenant config tenantId).run := by
  intro log hlog
  apply Wp.exceptBind
  refine ⟨⟨hlog.symm, nofun, nofun⟩, fun s rest choice r s' hinv hpermits hexec => ?_⟩
  rcases exec_eq_some hexec with ⟨-, rfl, hrefuse⟩ | ⟨-, hperform⟩
  · cases hrefuse
    exact ⟨none, teardown_inv_step hinv hpermits hexec nofun, rfl, about_concat ..⟩
  cases hperform
  cases hcurrent : s.subscriptions.findCurrent tenantId with
  | some sub =>
    exact ⟨none, teardown_inv_step hinv hpermits hexec nofun, rfl, about_concat ..⟩
  | none =>
    refine ⟨some tenantId, teardown_inv_step hinv hpermits hexec (by rintro _ ⟨⟩; exact hcurrent),
      ?_⟩
    have hlog' : about .reconcile (log ++ [⟨.findCurrent tenantId, .ok none⟩]) = some tenantId := by
      rw [about_concat]
      rfl
    apply Wp.exceptBind
    apply (wp_createTrial hlog').mono
    intro g log' r hr
    cases r with
    | error e => exact hr
    | ok opened =>
      cases opened with
      | true => exact hr
      | false =>
        obtain ⟨rfl, hlog''⟩ := hr
        apply Wp.exceptBind
        refine ⟨⟨hlog''.symm, nofun, ?_⟩, fun s rest choice r s' hinv hpermits hexec =>
          ⟨none, teardown_inv_step hinv hpermits hexec nofun, ?_⟩⟩
        · rintro _ ⟨⟩
          exact .inl rfl
        · cases r with
          | error | ok => exact ⟨rfl, about_concat ..⟩

theorem Rests.reconcileAll (ids : List String) :
    Rests config i .reconcile (reconcileAll config ids).run := by
  induction ids with
  | nil => exact .ret _
  | cons tenantId ids ih => exact .exceptBind (Rests.reconcileTenant tenantId) fun _ => ih

theorem Rests.applyUpsert (htask : task ≠ .reconcile) (data : SubscriptionData) :
    Rests config i task (applyUpsert data).run := by
  apply exceptBind
  · exact Rests.of_inert ⟨trivial, fun _ => trivial⟩
  intro known
  split
  · exact .ret _
  · rename_i tenantId _
    split
    · cases known with
      | none => exact .ret _
      | some known => exact Rests.cancel known
    · exact Rests.of_inert (all_grant htask trivial (fun _ => trivial) fun _ _ => trivial)

theorem Rests.forRecorded {stripeSubscriptionId : String} {act : String → Service Unit}
    (hact : ∀ tenantId, Rests config i task (act tenantId).run) :
    Rests config i task (forRecorded stripeSubscriptionId act).run := by
  apply exceptBind
  · exact Rests.of_inert ⟨trivial, fun _ => trivial⟩
  intro known
  cases known with
  | none => exact .ret _
  | some tenantId => exact hact tenantId

theorem Rests.applyEventKind (htask : task ≠ .reconcile) (kind : StripeEventKind) :
    Rests config i task (applyEventKind kind).run := by
  cases kind with
  | subscriptionUpsert data => exact Rests.applyUpsert htask data
  | subscriptionDeleted id => exact Rests.forRecorded Rests.cancel
  | paymentFailed id =>
    exact Rests.forRecorded fun tenantId => Rests.of_inert (all_markPastDue trivial)
  | cardSetupCompleted customer setupIntent =>
    apply Rests.of_inert
    apply Prog.All.exceptBind
    · exact ⟨trivial, fun _ => trivial⟩
    · intro _
      exact ⟨trivial, fun _ => trivial⟩
  | catalogChanged => exact Rests.of_inert ⟨trivial, fun _ => trivial⟩
  | ignored => exact .ret _

theorem Rests.applyEvent (htask : task ≠ .reconcile) (event : StripeEvent) :
    Rests config i task (applyEvent event).run := by
  apply exceptBind
  · exact Rests.of_inert ⟨trivial, fun _ => trivial⟩
  intro processed
  cases processed with
  | true => exact .ret _
  | false =>
    apply exceptBind (Rests.applyEventKind htask event.kind)
    intro _
    exact Rests.of_inert ⟨trivial, fun _ => trivial⟩

theorem Call.Account.inert {c : Call} (h : c.Account) (hquiet : c.isDeactivation = false) :
    c.Inert task := by
  cases c with
  | cancelCurrent | setDeprovisioningForTenant | findCurrent => exact h.elim
  | publish event =>
    cases event with
    | subscriptionDeactivated => cases hquiet
    | tenantCreated | tenantDeregistered => trivial
  | _ => trivial

/-- The networks are slated by the reactor that was told to. -/
theorem Rests.applyToNetwork (event : DomainEvent) :
    Rests config i (.applyToNetwork event) (applyToNetwork event) := by
  cases event with
  | subscriptionDeactivated tenantId =>
    intro log hlog
    refine ⟨⟨hlog.symm, nofun, ?_⟩, fun s rest choice r s' hinv hpermits hexec =>
      ⟨none, teardown_inv_step hinv hpermits hexec nofun, ?_⟩⟩
    · rintro _ ⟨⟩
      exact .inr rfl
    · cases r with
      | error | ok => exact ⟨rfl, about_concat ..⟩
  | tenantCreated | tenantDeregistered => exact .ret _

/-- Every task starts and ends with nothing to act on. -/
theorem Rests.body (task : Task) : Rests config i task (task.body config) := by
  have discard : ∀ {α : Type} {p : Proc α}, Rests config i task p →
      Rests config i task (discard p) := fun hp => .bind hp fun _ => .ret _
  have account : ∀ c : Call, c.Account → c.isDeactivation = false → c.Inert task :=
    fun _ h hquiet => h.inert hquiet
  have resolves : ∀ c : Call, c.Resolves → c.isDeactivation = false → c.Inert task :=
    fun c hc => account c hc.account
  cases task with
  | expireOverdue =>
    apply discard
    refine Rests.call (c := .utcNow) trivial fun now => ?_
    apply exceptBind
    · exact Rests.of_inert ⟨trivial, fun _ => trivial⟩
    · intro ids
      exact .exceptBind (Rests.cancelAll ids) fun _ => .ret _
  | applyEvent event =>
    have htask : Task.applyEvent event ≠ .reconcile := nofun
    exact discard (Rests.applyEvent htask event)
  | cancel tenantId => exact discard (Rests.cancel tenantId)
  | applyToSubscription event =>
    cases event with
    | tenantCreated tenantId =>
      exact discard (Rests.of_inert (all_createTrial trivial fun _ _ => trivial))
    | tenantDeregistered tenantId => exact discard (Rests.cancel tenantId)
    | subscriptionDeactivated tenantId => exact .ret _
  | applyToNetwork event => exact Rests.applyToNetwork event
  | applyToIdentities event =>
    cases event with
    | tenantDeregistered tenantId => exact discard (Rests.of_inert (all_purgeFor account tenantId))
    | tenantCreated | subscriptionDeactivated => exact .ret _
  | registerTenant id email =>
    exact discard (Rests.of_inert (all_registerTenant resolves config id email))
  | resolveIdentity id verified secretHash =>
    exact discard (Rests.of_inert (all_resolveIdentity resolves config id verified secretHash))
  | deregisterTenant tenantId =>
    exact discard (Rests.of_inert (all_deregisterTenant account tenantId))
  | registerNetwork =>
    exact discard (Rests.of_inert (all_registerNetwork trivial nofun fun _ _ _ _ => trivial))
  | reconcile =>
    apply discard
    apply exceptBind
    · exact Rests.of_inert ⟨trivial, fun _ => trivial⟩
    · exact Rests.reconcileAll
  | sweepDeregistered => exact Rests.of_inert ⟨trivial, fun _ => trivial⟩

/-! ## The condition on a run -/

/-- The deliveries of the end of a tenant's license to the network reactor, done or
not. -/
def deliveries (cfg : (world config).Config) (tenantId : String) : ℕ :=
  cfg.threads.countP fun th => th.task.told = some tenantId

def handled (cfg : (world config).Config) (tenantId : String) : ℕ :=
  cfg.threads.countP fun th => decide (th.task.told = some tenantId) && th.done

/-- The condition on a step. The end of a license is delivered once each time it is
announced. A license is granted to a tenant only when every announced end of its
license has been handled by the network reactor, and no other task is about to
announce one or, a reconcile pass, to slate the tenant's networks. -/
def Orderly (cfg : (world config).Config) : (world config).Action → Prop
  | .spawn task => ∀ tenantId ∈ task.told,
      deliveries cfg tenantId < cfg.state.published.count (.subscriptionDeactivated tenantId)
  | .step i _ => ∀ c ∈ cfg.threads[i]?.bind World.Thread.pending,
      ∀ tenantId ∈ c.grantees cfg.state,
        cfg.state.published.count (.subscriptionDeactivated tenantId) ≤ handled cfg tenantId ∧
          ∀ j : Fin cfg.threads.length, (j : ℕ) ≠ i →
            about (cfg.threads.get j).task (cfg.threads.get j).log ≠ some tenantId
  | .env _ => True

instance (cfg : (world config).Config) : DecidablePred (Orderly cfg)
  | .spawn _ => inferInstanceAs (Decidable (∀ _, _))
  | .step _ _ => inferInstanceAs (Decidable (∀ _, _))
  | .env _ => isTrue trivial

theorem teardown_sound : (teardown config).Sound (fun _ _ => True) Orderly where
  spawn cfg task notes _ hinv := by
    refine ⟨none, ?_, ?_⟩
    · apply (Rests.body task [] rfl).mono
      rintro _ log _ ⟨rfl, hlog⟩
      exact ⟨⟨hlog.symm, nofun, nofun⟩, trivial⟩
    · intro tenantId hmem
      rcases Set.mem_insert_iff.mp hmem with hself | hmem
      · cases hself
      · exact hinv tenantId hmem
  env _ e := e.elim
  permits cfg i choice th c next g rest hguard hth hprog hsees hrest := by
    intro tenantId hgrantee hmem
    have hpending : th.pending = some c := by simp [pending, hprog]
    obtain ⟨j, th', hth', hsees', hne⟩ := hrest _ hmem
    obtain ⟨hj, hget⟩ := List.getElem?_eq_some_iff.mp hth'
    have habout := (hguard c (by simp [hth, hpending]) tenantId hgrantee).2 ⟨j, hj⟩ hne
    rw [List.get_eq_getElem, hget] at habout
    exact habout hsees'.1.symm

/-! ## Announced, delivered, handled -/

/-- An end of a license is announced by publishing it only. -/
theorem count_published_of_exec (hexec : Database.exec choice c s = some (r, s'))
    (event : DomainEvent) : s.published.count event ≤ s'.published.count event ∧
      (c ≠ .publish event → s'.published.count event = s.published.count event) := by
  rcases exec_eq_some hexec with ⟨-, rfl, -⟩ | ⟨-, hperform⟩
  · exact ⟨Nat.le_refl _, fun _ => rfl⟩
  cases c with
  | publish other =>
    cases hperform
    refine ⟨by simp, fun hne => ?_⟩
    have hother : other ≠ event := fun heq => hne (by rw [heq])
    simp [hother]
  | _ =>
    have hsame := (perform_frame hperform).published nofun
    exact ⟨by rw [hsame], fun _ => by rw [hsame]⟩

/-- Every delivery was announced, and a tenant with a license has no end of a license
that is still to be handled. -/
structure Ledger (cfg : (world config).Config) : Prop where
  announced : ∀ tenantId, deliveries cfg tenantId ≤
    cfg.state.published.count (.subscriptionDeactivated tenantId)
  licensed : ∀ tenantId, cfg.state.subscriptions.findCurrent tenantId ≠ none →
    cfg.state.published.count (.subscriptionDeactivated tenantId) ≤ handled cfg tenantId

variable {cfg cfg' : (world config).Config} {th : (world config).Thread} {e : (world config).Event}
  {tenantId : String}

/-- A delivery that is not done is not handled. -/
theorem handled_lt_deliveries (hth : th ∈ cfg.threads) (htold : th.task.told = some tenantId)
    (hopen : th.done = false) : handled cfg tenantId < deliveries cfg tenantId := by
  have hsplit : deliveries cfg tenantId = handled cfg tenantId +
      (cfg.threads.filter fun th => !th.done).countP fun th => th.task.told = some tenantId := by
    rw [deliveries, countP_eq_countP_filter_add cfg.threads _ done,
      countP_filter, handled]
  rw [hsplit]
  apply Nat.lt_add_of_pos_right
  rw [countP_filter, countP_pos_iff]
  exact ⟨th, hth, by simp [htold, hopen]⟩

theorem deliveries_of_performs (h : cfg.Performs i th e cfg') :
    deliveries cfg' tenantId = deliveries cfg tenantId := by
  obtain ⟨_, next, hth, -, -, hthreads⟩ := h
  obtain ⟨hi, hget⟩ := List.getElem?_eq_some_iff.mp hth
  unfold deliveries
  rw [hthreads, List.countP_set hi, hget]
  by_cases htold : th.task.told = some tenantId
  · have hpos : 0 < cfg.threads.countP fun th => th.task.told = some tenantId :=
      countP_pos_iff.mpr ⟨th, mem_of_getElem? hth, by simp [htold]⟩
    simp only [htold, decide_true, if_true]
    omega
  · simp [htold]

theorem handled_le_of_performs (h : cfg.Performs i th e cfg') :
    handled cfg tenantId ≤ handled cfg' tenantId := by
  obtain ⟨_, next, hth, hprog, -, hthreads⟩ := h
  obtain ⟨hi, hget⟩ := List.getElem?_eq_some_iff.mp hth
  have hopen : th.done = false := by simp [done, pending, hprog]
  unfold handled
  rw [hthreads, List.countP_set hi, hget]
  simp [hopen]

/-- An announced end of a license finds the tenant without one. -/
theorem findCurrent_eq_none_of_announces {note : ℕ → Option String}
    (hnote : (teardown config).Annotates (fun _ _ => True) note cfg)
    (hth : cfg.threads[i]? = some th)
    (hpending : th.pending = some (.publish (.subscriptionDeactivated tenantId))) :
    cfg.state.subscriptions.findCurrent tenantId = none := by
  have hsees := (hnote.1 i th hth).sees
  exact hnote.2 tenantId ⟨i, (List.getElem?_eq_some_iff.mp hth).1, hsees.2.1 tenantId hpending⟩

theorem Ledger.spawn (h : Ledger cfg) (horderly : Orderly cfg (.spawn task)) :
    Ledger ⟨cfg.state, cfg.threads ++ [⟨task, [], Task.body config task⟩]⟩ where
  announced n := by
    have hcount := h.announced n
    unfold deliveries at hcount ⊢
    rw [countP_append]
    by_cases htold : task.told = some n
    · have hroom := horderly n htold
      unfold deliveries at hroom
      simp only [countP_singleton, htold, decide_true, if_true]
      exact hroom
    · simpa [htold] using hcount
  licensed n hn := by
    apply (h.licensed n hn).trans
    unfold handled
    rw [countP_append]
    exact Nat.le_add_right _ _

/-- A call announces or handles the end of a license, and the ledger follows. -/
theorem Ledger.performs {note : ℕ → Option String} (h : Ledger cfg)
    (hnote : (teardown config).Annotates (fun _ _ => True) note cfg)
    (horderly : Orderly cfg (.step i choice)) (hperforms : cfg.Performs i th e cfg') :
    Ledger cfg' := by
  obtain ⟨choice', next, hth, hprog, hexec, -⟩ := id hperforms
  have hpending : th.pending = some e.call := by simp [pending, hprog]
  have hpublished := fun n => count_published_of_exec hexec (.subscriptionDeactivated n)
  refine ⟨fun n => ?_, fun n hlicensed => ?_⟩
  · rw [deliveries_of_performs hperforms]
    exact (h.announced n).trans (hpublished n).1
  · apply Nat.le_trans _ (handled_le_of_performs hperforms)
    by_cases hnone : cfg.state.subscriptions.findCurrent n = none
    · -- The license has just been granted.
      have hgrantee : n ∈ e.call.grantees cfg.state := by
        by_contra hother
        exact hlicensed (findCurrent_eq_none_of_not_grantee hexec hother hnone)
      have hcall : e.call ≠ .publish (.subscriptionDeactivated n) := by
        intro hcall
        rw [hcall] at hgrantee
        cases hgrantee
      rw [(hpublished n).2 hcall]
      exact (horderly e.call (by simp [hth, hpending]) n hgrantee).1
    · have hcall : e.call ≠ .publish (.subscriptionDeactivated n) := by
        intro hcall
        rw [hcall] at hpending
        exact hnone (findCurrent_eq_none_of_announces hnote hth hpending)
      rw [(hpublished n).2 hcall]
      exact h.licensed n hnone

structure Kept (cfg : (world config).Config) : Prop where
  annotated : ∃ note, (teardown config).Annotates (fun _ _ => True) note cfg
  ledger : Ledger cfg

theorem Kept.start (hpublished : s.published = []) :
    Kept (World.Config.start s : (world config).Config) where
  annotated := annotates_start nofun
  ledger := by
    constructor
    · intro n
      exact Nat.zero_le _
    · intro n _
      simp [Config.start, hpublished]

theorem Kept.step {a : (world config).Action} (h : Kept cfg) (horderly : Orderly cfg a)
    (hstep : cfg.step a = some cfg') : Kept cfg' := by
  refine ⟨teardown_sound.step horderly h.annotated hstep, ?_⟩
  obtain ⟨note, hnote⟩ := h.annotated
  cases a with
  | spawn task =>
    cases hstep
    exact h.ledger.spawn horderly
  | step i choice =>
    obtain ⟨th, e, hperforms⟩ := Config.performs_of_step hstep
    exact h.ledger.performs hnote horderly hperforms
  | env e => exact e.elim

theorem tenantId_of_slated {choice : Choice} {s s' : Database} {tenantId networkId : String}
    {count : ℕ} {row : NetworkRow}
    (hexec : Database.exec choice (.setDeprovisioningForTenant tenantId) s = some (.ok count, s'))
    (hafter : s'.fleet.networks.get? networkId = some row)
    (hbefore : s.fleet.networks.get? networkId ≠ some row) : row.tenantId = tenantId := by
  unfold Database.exec at hexec
  split at hexec
  · cases hexec
  · cases hexec
    simp only [NetworkTable.setDeprovisioningForTenant_snd, Store.get?_modify,
      Option.map_eq_some_iff] at hafter
    obtain ⟨old, hold, hrow⟩ := hafter
    split at hrow
    · rename_i hsame
      rw [← hrow]
      exact hsame
    · rw [hrow] at hold
      exact absurd hold hbefore

/-- In an orderly run, networks are slated of tenants without a license only: whatever network the
statement has changed is one of a tenant without a license. -/
theorem slates_unlicensed (config : Config) (s : Database) (hpublished : s.published = [])
    (acts : List (world config).Action) (cfg cfg' : (world config).Config)
    (hrun : (world config).system.run (.start s) acts = some cfg)
    (horderly : (world config).system.Along Orderly (.start s) acts) (i : ℕ)
    (th : (world config).Thread) (tenantId : String) (count : ℕ)
    (hslates : cfg.Performs i th ⟨.setDeprovisioningForTenant tenantId, .ok count⟩ cfg') :
    cfg.state.subscriptions.findCurrent tenantId = none ∧
      ∀ networkId row, cfg'.state.fleet.networks.get? networkId = some row →
        cfg.state.fleet.networks.get? networkId ≠ some row →
        cfg.state.subscriptions.findCurrent row.tenantId = none := by
  have hkept : Kept cfg :=
    (world config).system.run_invariant_along (fun _ _ _ horderly h hstep => h.step horderly hstep)
      (Kept.start hpublished) horderly hrun
  obtain ⟨note, hnote⟩ := hkept.annotated
  obtain ⟨_, _, hth, hprog, hexec, -⟩ := hslates
  have hpending : th.pending = some (.setDeprovisioningForTenant tenantId) := by
    simp [pending, hprog]
  suffices hnone : cfg.state.subscriptions.findCurrent tenantId = none by
    refine ⟨hnone, fun networkId row hafter hbefore => ?_⟩
    rw [tenantId_of_slated hexec hafter hbefore]
    exact hnone
  rcases (hnote.1 i th hth).sees.2.2 tenantId hpending with hmarked | htold
  · exact hnote.2 tenantId ⟨i, (List.getElem?_eq_some_iff.mp hth).1, hmarked⟩
  · by_contra hlicensed
    have hopen : th.done = false := by simp [done, hpending]
    have hlt := handled_lt_deliveries (List.mem_of_getElem? hth) htold hopen
    have hannounced := hkept.ledger.announced tenantId
    have hhandled := hkept.ledger.licensed tenantId hlicensed
    omega

/-! ## A late delivery, and one in time -/

/-- A tenant on its trial registers a network, and its license is canceled. -/
def sampleCanceled : List (world sampleConfig).Action :=
  signup ++ .spawn (.registerNetwork "net-1" "tenant-1" "key-1" "home" none "eu") :: calls 2 3 0 ++
    .spawn (.cancel "tenant-1") :: calls 3 2 0

/-- The tenant subscribes again before the end of its trial is delivered. -/
def sampleLate : List (world sampleConfig).Action :=
  sampleCanceled ++ .spawn (.applyEvent (samplePaid "evt-1" 50)) :: calls 4 6 0 ++
    [.spawn (.applyToNetwork (.subscriptionDeactivated "tenant-1"))]

def sampleInTime : List (world sampleConfig).Action :=
  sampleCanceled ++ [.spawn (.applyToNetwork (.subscriptionDeactivated "tenant-1"))]

def slatedBy : (world sampleConfig).Event → Option (String × ℕ)
  | ⟨.setDeprovisioningForTenant tenantId, .ok count⟩ => some (tenantId, count)
  | _ => none

theorem eq_of_slatedBy {e : (world sampleConfig).Event} {tenantId : String} {count : ℕ}
    (h : slatedBy e = some (tenantId, count)) :
    e = ⟨.setDeprovisioningForTenant tenantId, .ok count⟩ := by
  unfold slatedBy at h
  split at h
  · cases h
    rfl
  · cases h

theorem performs_slate {acts : List (world sampleConfig).Action} {tenantId : String} {i count : ℕ}
    (hrun : ((world sampleConfig).system.run (.start .empty) (acts ++ calls i 1 0)).isSome)
    (hslated : (((world sampleConfig).system.runD (.start .empty)
      (acts ++ calls i 1 0)).threads[i]?.bind (·.log.getLast?)).bind slatedBy =
        some (tenantId, count)) :
    ∃ th, ((world sampleConfig).system.runD (.start .empty) acts).Performs i th
        ⟨.setDeprovisioningForTenant tenantId, .ok count⟩
        ((world sampleConfig).system.runD (.start .empty) (acts ++ calls i 1 0)) ∧
      ((world sampleConfig).system.runD (.start .empty)
        (acts ++ calls i 1 0)).threads[i]?.map World.Thread.task = some th.task := by
  obtain ⟨th, e, hperforms, htask, hlast⟩ := exists_performs_runD hrun
  have hlast' : ((world sampleConfig).system.runD (.start .empty)
      (acts ++ calls i 1 0)).threads[i]?.bind (·.log.getLast?) = some e := hlast
  rw [hlast'] at hslated
  obtain rfl := eq_of_slatedBy hslated
  exact ⟨th, hperforms, htask⟩

/-- The delivery reaches a tenant that is paying, and slates its network. -/
theorem slates_paying_tenant :
    ∃ (acts : List (world sampleConfig).Action) (cfg cfg' : (world sampleConfig).Config) (i : ℕ)
      (th : (world sampleConfig).Thread) (count : ℕ),
      (world sampleConfig).system.run (.start .empty) acts = some cfg ∧
      th.task = .applyToNetwork (.subscriptionDeactivated "tenant-1") ∧
      cfg.Performs i th ⟨.setDeprovisioningForTenant "tenant-1", .ok count⟩ cfg' ∧
      cfg.state.published.count (.subscriptionDeactivated "tenant-1") = 1 ∧
      cfg.state.tenants.isLive "tenant-1" = true ∧
      (cfg.state.subscriptions.findCurrent "tenant-1").isSome = true ∧
      (cfg.state.fleet.networks.get? "net-1").map NetworkRow.provisioningState =
        some .provisioning ∧
      (cfg'.state.fleet.networks.get? "net-1").map NetworkRow.provisioningState =
        some .deprovisioning := by
  obtain ⟨th, hperforms, htask⟩ := performs_slate
    (show ((world sampleConfig).system.run (.start .empty) (sampleLate ++ calls 5 1 0)).isSome
      by decide)
    (show _ = some ("tenant-1", 1) by decide)
  have htask' : ((world sampleConfig).system.runD (.start .empty)
      (sampleLate ++ calls 5 1 0)).threads[5]?.map task =
        some (Task.applyToNetwork (.subscriptionDeactivated "tenant-1")) := by decide
  exact ⟨sampleLate, _, _, 5, th, 1, System.run_eq_some_runD _ (by decide),
    Option.some.inj (htask.symm.trans htask'), hperforms, by decide, by decide, by decide,
    by decide, by decide⟩

/-- A delivery in time finds the tenant without a license. -/
theorem slates_unlicensed_sample : ((world sampleConfig).system.runD (.start .empty)
      sampleInTime).state.subscriptions.findCurrent "tenant-1" = none := by
  obtain ⟨th, hperforms, -⟩ := performs_slate
    (show ((world sampleConfig).system.run (.start .empty) (sampleInTime ++ calls 4 1 0)).isSome
      by decide)
    (show _ = some ("tenant-1", 1) by decide)
  exact (slates_unlicensed sampleConfig .empty rfl sampleInTime _ _
    (System.run_eq_some_runD _ (by decide)) (by decide) 4 th "tenant-1" 1 hperforms).1

end Wardnet.Authority

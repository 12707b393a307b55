/-
# Reconcile after lost events

The reconcile pass opens the trials that live tenants never got and slates the
networks of live tenants whose license has ended. After a schedule that loses
events of live tenants only, and whose later operations did not see the loss, one
pass brings the lossy run to the licenses, networks and login methods of the
complete run. It does not repair a lost deregistration: the pass looks at live
tenants only.
-/

import Wardnet.Authority.Complete
import Wardnet.Authority.Mirror

namespace Wardnet.Authority

open Base Billing Subscriptions Tenants SubscriptionTable List Subscription Option

/-! ## What may be lost -/

/-- What the complete run knows about the lost events. -/
structure Loss (dropped delivered : List DomainEvent) (b : Database) : Prop where
  untried_delivered : ∀ n, .tenantCreated n ∈ dropped → .tenantCreated n ∈ delivered
  /-- The trial of a tenant whose signup was lost ends with the tenant. -/
  untried_live : ∀ n, .tenantCreated n ∈ dropped → b.tenants.isLive n = true →
    b.subscriptions.findCurrent n ≠ none
  untried_gone : ∀ n, .tenantCreated n ∈ dropped → b.subscriptions.findCurrent n ≠ none →
    b.tenants.isLive n = true ∨ Pending delivered b (.tenantDeregistered n)
  /-- A tenant whose signup was lost has no networks. -/
  unserved : ∀ id row, b.fleet.networks.get? id = some row →
    .tenantCreated row.tenantId ∉ dropped
  /-- A tenant whose deactivation was lost is live. -/
  lost : ∀ n, .subscriptionDeactivated n ∈ dropped →
    .subscriptionDeactivated n ∈ b.published ∧ b.tenants.isLive n = true

theorem Loss.empty : Loss [] [] .empty where
  untried_delivered := nofun
  untried_live := nofun
  untried_gone := nofun
  unserved := nofun
  lost := nofun

variable {dropped delivered delivered' : List DomainEvent} {a a' b b' : Database}

section

variable (h : Loss dropped delivered b)
include h

theorem Loss.frame (hcurrent : ∀ n, .tenantCreated n ∈ dropped → b'.subscriptions.findCurrent n =
      b.subscriptions.findCurrent n)
    (hlive : ∀ n, .tenantCreated n ∈ dropped ∨ .subscriptionDeactivated n ∈ dropped →
      b'.tenants.isLive n = b.tenants.isLive n)
    (hrows : ∀ id row, b'.fleet.networks.get? id = some row → .tenantCreated row.tenantId ∉ dropped
      ∨ ∃ old, b.fleet.networks.get? id = some old ∧ row.tenantId = old.tenantId)
    (hpublished : ∀ e ∈ b.published, e ∈ b'.published)
    (hdelivered : ∀ e ∈ delivered, e ∈ delivered')
    (hderegistered : ∀ n, .tenantDeregistered n ∈ delivered' → .tenantDeregistered n ∈ delivered) :
    Loss dropped delivered' b' := by
  refine ⟨?_, ?_, ?_, ?_, ?_⟩
  · intro n hn
    exact hdelivered _ (h.untried_delivered n hn)
  · intro n hn hlive'
    rw [hcurrent n hn]
    exact h.untried_live n hn ((hlive n (.inl hn)).symm.trans hlive')
  · intro n hn hlicensed
    rw [hcurrent n hn] at hlicensed
    rw [hlive n (.inl hn)]
    exact (h.untried_gone n hn hlicensed).imp_right fun hpending =>
      ⟨hpublished _ hpending.1, mt (hderegistered n) hpending.2⟩
  · intro id row hrow
    rcases hrows id row hrow with htried | ⟨old, hold, htenant⟩
    · exact htried
    · exact htenant ▸ h.unserved id old hold
  · intro n hn
    obtain ⟨hannounced, hlive'⟩ := h.lost n hn
    exact ⟨hpublished _ hannounced, (hlive n (.inr hn)).trans hlive'⟩

theorem Loss.tenantExists (hb : Healthy delivered b) {n : String}
    (hn : .tenantCreated n ∈ dropped ∨ .subscriptionDeactivated n ∈ dropped) :
    b.tenantExists n = true := by
  rcases hn with hcreated | hdeactivated
  · exact hb.known n (hb.delivered _ (h.untried_delivered n hcreated))
  · exact TenantTable.isSome_findById_of_isLive (h.lost n hdeactivated).2

theorem Loss.sameAccounts (hsame : SameAccounts b b') : Loss dropped delivered b' := by
  apply h.frame (fun n _ => by rw [hsame.subscriptions]) (fun n _ => hsame.isLive n)
    (fun id row hrow => ?_) (fun e he => hsame.published ▸ he) (fun _ he => he) fun _ he => he
  rw [hsame.fleet] at hrow
  exact .inr ⟨row, hrow, rfl⟩

theorem Loss.signedUp {id : String} (hb : Healthy delivered b) (hsigned : SignedUp id b b') :
    Loss dropped delivered b' := by
  apply h.frame (fun n _ => by rw [hsigned.subscriptions]) (fun n hn => ?_)
    (fun id row hrow => ?_) (fun e he => ?_) (fun _ he => he) fun _ he => he
  · have hne : n ≠ id := by
      rintro rfl
      have hexists := h.tenantExists hb hn
      rw [hsigned.fresh] at hexists
      cases hexists
    simp [hsigned.isLive, hne]
  · rw [hsigned.fleet] at hrow
    exact .inr ⟨row, hrow, rfl⟩
  · rw [hsigned.published]
    exact mem_append_left _ he

end

variable {tenantId : String} {s : Database}

section

variable (h : Loss dropped delivered b)
include h

theorem Loss.closedDown (hb : Healthy delivered b) (hclosed : ClosedDown tenantId b b')
    (hkept : .subscriptionDeactivated tenantId ∉ dropped) :
    Loss dropped delivered b' := by
  have hmono : ∀ e ∈ b.published, e ∈ b'.published := by
    intro e he
    rw [hclosed.published]
    exact mem_append_left _ he
  refine ⟨h.untried_delivered, ?_, ?_, ?_, ?_⟩
  · intro n hn hlive
    rw [hclosed.isLive, Bool.and_eq_true] at hlive
    rw [hclosed.subscriptions]
    exact h.untried_live n hn hlive.1
  · intro n hn hlicensed
    rw [hclosed.subscriptions] at hlicensed
    by_cases heq : n = tenantId
    · -- A tenant that was live until now has not been deregistered before.
      subst heq
      refine .inr ⟨by simp [hclosed.published], fun hdelivered => ?_⟩
      have hgone := (hb.closed n (hb.delivered _ hdelivered)).2
      rw [hclosed.live] at hgone
      cases hgone
    · rcases h.untried_gone n hn hlicensed with hlive | hpending
      · left
        simp [hclosed.isLive, hlive, heq]
      · exact .inr (hpending.mono hmono)
  · rw [hclosed.fleet]
    exact h.unserved
  · intro n hn
    have hne : n ≠ tenantId := by
      rintro rfl
      exact hkept hn
    obtain ⟨hannounced, hlive⟩ := h.lost n hn
    exact ⟨hmono _ hannounced, by simp [hclosed.isLive, hlive, hne]⟩

theorem Loss.canceled (hkept : .tenantCreated tenantId ∉ dropped) :
    Loss dropped delivered (b.canceled tenantId) := by
  refine h.frame (fun n hn => ?_) (fun n _ => rfl) (fun id row hrow => .inr ⟨row, hrow, rfl⟩)
    (fun e he => mem_append_left _ he) (fun _ he => he) fun _ he => he
  have hne : n ≠ tenantId := by
    rintro rfl
    exact hkept hn
  exact (b.subscriptions.findCurrent_cancelCurrent tenantId n).trans (if_neg hne)

theorem Loss.registered {networkId : String} (hnew : Registered networkId tenantId b b')
    (hkept : .tenantCreated tenantId ∉ dropped) :
    Loss dropped delivered b' := by
  apply h.frame (fun n _ => by rw [hnew.subscriptions]) (fun n _ => by rw [hnew.tenants])
    (fun id row hrow => ?_) (fun e he => hnew.published ▸ he) (fun _ he => he) fun _ he => he
  obtain ⟨new, htenant, hnetworks⟩ := hnew.networks
  rw [hnetworks] at hrow
  rcases Store.get?_of_insert hrow with ⟨-, rfl⟩ | ⟨-, hrow⟩
  · exact .inl (htenant ▸ hkept)
  · exact .inr ⟨row, hrow, rfl⟩

theorem Loss.opened {sub : Subscription} (hsub : sub.tenantId = tenantId)
    (hkept : .tenantCreated tenantId ∉ dropped) :
    Loss dropped (.tenantCreated tenantId :: delivered)
      { b with subscriptions := (b.subscriptions.createTrial sub).2 } := by
  refine h.frame (fun n hn => ?_) (fun n _ => rfl) (fun id row hrow => .inr ⟨row, hrow, rfl⟩)
    (fun e he => he) (fun _ he => mem_cons_of_mem _ he) (fun n he => by simpa using he)
  have hother : sub.isCurrent n = false := by
    have hne : tenantId ≠ n := by
      rintro rfl
      exact hkept hn
    simp [isCurrent, hsub, hne]
  simp [findCurrent_createTrial, hother]

/-- The deregistration of a tenant is handled, whether its signup was lost or
not. -/
theorem Loss.deregistered (hgone : b.tenants.isLive tenantId = false) :
    Loss dropped (.tenantDeregistered tenantId :: delivered) (b.canceled tenantId) := by
  have hcurrent : ∀ n, (b.canceled tenantId).subscriptions.findCurrent n =
      if n = tenantId then none else b.subscriptions.findCurrent n :=
    b.subscriptions.findCurrent_cancelCurrent tenantId
  refine ⟨?_, ?_, ?_, h.unserved, ?_⟩
  · intro n hn
    exact mem_cons_of_mem _ (h.untried_delivered n hn)
  · intro n hn hlive
    have hne : n ≠ tenantId := by
      rintro rfl
      rw [show b.tenants.isLive n = true from hlive] at hgone
      cases hgone
    rw [hcurrent, if_neg hne]
    exact h.untried_live n hn hlive
  · intro n hn hlicensed
    rw [hcurrent] at hlicensed
    split at hlicensed
    · exact absurd rfl hlicensed
    · rename_i hne
      apply (h.untried_gone n hn hlicensed).imp_right
      intro hpending
      exact (hpending.cons (by simp [hne])).mono fun e he => mem_append_left _ he
  · intro n hn
    exact ⟨mem_append_left _ (h.lost n hn).1, (h.lost n hn).2⟩

theorem Loss.slated :
    Loss dropped (.subscriptionDeactivated tenantId :: delivered) (b.slated tenantId) := by
  refine h.frame (fun n _ => rfl) (fun n _ => rfl) (fun id row hrow => .inr ?_)
    (fun e he => he) (fun _ he => mem_cons_of_mem _ he) (fun n he => by simpa using he)
  obtain ⟨old, hold, htenant, -⟩ := Database.row_of_slated hrow
  exact ⟨old, hold, htenant⟩

theorem Loss.lose_tenantCreated (hdelivered : .tenantCreated tenantId ∈ delivered)
    (hlicensed : b.subscriptions.findCurrent tenantId ≠ none)
    (hlive : b.tenants.isLive tenantId = true)
    (hunserved : ∀ id row, b.fleet.networks.get? id = some row → row.tenantId ≠ tenantId) :
    Loss (.tenantCreated tenantId :: dropped) delivered b := by
  refine ⟨?_, ?_, ?_, ?_, ?_⟩
  · intro n hn
    rcases mem_cons.mp hn with heq | hold
    · cases heq
      exact hdelivered
    · exact h.untried_delivered n hold
  · intro n hn hlive'
    rcases mem_cons.mp hn with heq | hold
    · cases heq
      exact hlicensed
    · exact h.untried_live n hold hlive'
  · intro n hn hlicensed'
    rcases mem_cons.mp hn with heq | hold
    · cases heq
      exact .inl hlive
    · exact h.untried_gone n hold hlicensed'
  · intro id row hrow hn
    rcases mem_cons.mp hn with heq | hold
    · cases heq
      exact hunserved id row hrow rfl
    · exact h.unserved id row hrow hold
  · intro n hn
    exact h.lost n (by simpa using hn)

theorem Loss.lose_subscriptionDeactivated
    (hpublished : .subscriptionDeactivated tenantId ∈ b.published)
    (hlive : b.tenants.isLive tenantId = true) :
    Loss (.subscriptionDeactivated tenantId :: dropped) delivered b where
  untried_delivered n hn := h.untried_delivered n (by simpa using hn)
  untried_live n hn := h.untried_live n (by simpa using hn)
  untried_gone n hn := h.untried_gone n (by simpa using hn)
  unserved id row hrow := by simpa using h.unserved id row hrow
  lost n hn := by
    rcases mem_cons.mp hn with heq | hold
    · cases heq
      exact ⟨hpublished, hlive⟩
    · exact h.lost n hold

end

/-! ## The two runs -/

/-- The lossy run `a` and the complete run `b`, after the same careful schedule. -/
structure Mirrored (dropped delivered : List DomainEvent) (a b : Database) : Prop where
  alike : Alike dropped a b
  healthy : Healthy delivered b
  loss : Loss dropped delivered b

section

variable {config : Config} {choices : Call → Choice} {result result' : Unit}

theorem Mirrored.alike_op {op : Op} (h : Mirrored dropped delivered a b)
    (hcareful : Careful (dropped, a) (.op op choices))
    (ha : (op.task.body config).Runs (Answered choices) a result a')
    (hb : (op.task.body config).Runs (Answered choices) b result' b') : Alike dropped a' b' := by
  have account : ∀ c : Call, c.Account → c.isDeactivation = false → c.Alike dropped :=
    fun _ h _ => h.alike
  have resolves : ∀ c : Call, c.Resolves → c.isDeactivation = false → c.Alike dropped :=
    fun c hc => account c hc.account
  have all : ∀ {α : Type} {p : Proc α}, p.All (Call.Alike dropped) →
      (discard p).All (Call.Alike dropped) :=
    fun hp => hp.bind fun _ => trivial
  cases op with
  | registerTenant id email =>
    exact h.alike.runs (all (all_registerTenant resolves config id email)) ha hb
  | resolveIdentity id verified secretHash =>
    exact h.alike.runs (all (all_resolveIdentity resolves config id verified secretHash)) ha hb
  | deregisterTenant tenantId =>
    exact h.alike.runs (all (all_deregisterTenant account tenantId)) ha hb
  | cancel tenantId =>
    obtain ⟨_, ha⟩ := runs_discard ha
    obtain ⟨_, hb⟩ := runs_discard hb
    exact h.alike.cancel (succeeds_of_answered ha) (succeeds_of_answered hb)
  | registerNetwork networkId tenantId =>
    obtain ⟨_, ha⟩ := runs_discard ha
    obtain ⟨_, hb⟩ := runs_discard hb
    by_cases hlost : .subscriptionDeactivated tenantId ∈ dropped
    · -- The tenant has no license in either run, and is refused.
      have hnone := (h.healthy.deactivated tenantId (h.loss.lost tenantId hlost).1).1
      have hnone' := (h.alike.current tenantId hcareful).symm.trans hnone
      rcases registerNetwork_effect (succeeds_of_answered ha) with rfl | hnew
      · rcases registerNetwork_effect (succeeds_of_answered hb) with rfl | hnew
        · exact h.alike
        · exact absurd hnone hnew.licensed
      · exact absurd hnone' hnew.licensed
    · apply h.alike.runs (all_registerNetwork trivial hcareful fun row _ _ hrow => ?_) ha hb
      rw [← hrow] at hlost
      exact hlost

theorem Mirrored.loss_op {op : Op} (h : Mirrored dropped delivered a b)
    (hcareful : Careful (dropped, a) (.op op choices)) (hop : op.Effect b b') :
    Loss dropped delivered b' := by
  cases op with
  | registerTenant | resolveIdentity =>
    exact hop.elim h.loss.sameAccounts (h.loss.signedUp h.healthy)
  | deregisterTenant tenantId =>
    exact hop.elim h.loss.sameAccounts fun hclosed =>
      h.loss.closedDown h.healthy hclosed hcareful
  | cancel tenantId => exact hop ▸ h.loss.canceled hcareful
  | registerNetwork =>
    rcases hop with rfl | hnew
    · exact h.loss
    · exact h.loss.registered hnew hcareful

theorem Mirrored.op {op : Op} (h : Mirrored dropped delivered a b)
    (hcareful : Careful (dropped, a) (.op op choices))
    (ha : (op.task.body config).Runs (Answered choices) a result a')
    (hb : (op.task.body config).Runs (Answered choices) b result' b') :
    Mirrored dropped delivered a' b' := by
  have hop := op_effect (succeeds_of_answered hb)
  exact ⟨h.alike_op hcareful ha hb, h.healthy.op hop, h.loss_op hcareful hop⟩

variable {event : DomainEvent}

section

variable (h : Mirrored dropped delivered a b)
include h

/-- What the complete run still has to deliver, the lossy run has published too,
unless it is the end of a license that only the complete run had. -/
theorem Mirrored.published (hevent : event ∈ b.published)
    (hne : ∀ n, event ≠ .subscriptionDeactivated n) : event ∈ a.published := by
  rcases h.alike.published event hevent with hmem | ⟨n, heq, -⟩
  · exact hmem
  · exact absurd heq (hne n)

theorem Mirrored.kept_of_pending {tenantId : String}
    (hpending : Pending delivered b (.tenantCreated tenantId)) :
    .tenantCreated tenantId ∉ dropped :=
  fun hlost => hpending.2 (h.loss.untried_delivered tenantId hlost)

theorem Mirrored.alike_kept (hpending : Pending delivered b event)
    (ha : event ∈ a.published → (react config event).Runs (Answered choices) a result a')
    (hskip : event ∉ a.published → a' = a)
    (hb : (react config event).Runs (Answered choices) b result' b') : Alike dropped a' b' := by
  cases event with
  | tenantCreated tenantId =>
    obtain ⟨_, ha⟩ := runs_react_tenantCreated (ha (h.published hpending.1 nofun))
    obtain ⟨_, hb⟩ := runs_react_tenantCreated hb
    apply h.alike.runs (all_createTrial trivial fun sub hsub => ?_) ha hb
    show .tenantCreated sub.tenantId ∉ dropped
    rw [hsub]
    exact h.kept_of_pending hpending
  | tenantDeregistered tenantId =>
    obtain ⟨_, _, _, hcancel, hpurge⟩ :=
      runs_react_tenantDeregistered (ha (h.published hpending.1 nofun))
    obtain ⟨_, _, _, hcancel', hpurge'⟩ := runs_react_tenantDeregistered hb
    have hcanceled := h.alike.cancel (succeeds_of_answered hcancel) (succeeds_of_answered hcancel')
    exact hcanceled.runs (all_purgeFor (fun _ hc _ => hc.alike) tenantId) hpurge hpurge'
  | subscriptionDeactivated tenantId =>
    obtain ⟨_, hb⟩ := runs_react_subscriptionDeactivated hb
    rw [deprovisionNetworksFor_effect (succeeds_of_answered hb)]
    by_cases hpublished : .subscriptionDeactivated tenantId ∈ a.published
    · obtain ⟨_, ha⟩ := runs_react_subscriptionDeactivated (ha hpublished)
      rw [deprovisionNetworksFor_effect (succeeds_of_answered ha)]
      exact h.alike.slated
    · -- Only the complete run had a license to end, and its tenant has no networks.
      rw [hskip hpublished]
      rcases h.alike.published _ hpending.1 with hmem | ⟨n, heq, hlost⟩
      · exact absurd hmem hpublished
      cases heq
      have hsame : b.slated tenantId = b := by
        have hnetworks : (b.fleet.networks.setDeprovisioningForTenant tenantId).2 =
            b.fleet.networks := by
          rw [NetworkTable.setDeprovisioningForTenant_snd]
          apply Store.modify_eq_self
          intro id row hrow
          apply if_neg
          rintro rfl
          exact h.loss.unserved id row hrow hlost
        rw [Database.slated, hnetworks]
      rw [hsame]
      exact h.alike

theorem Mirrored.loss_kept (hpending : Pending delivered b event) (heffect : event.Effect b b') :
    Loss dropped (event :: delivered) b' := by
  cases event with
  | tenantCreated tenantId =>
    obtain ⟨sub, hsub, -, rfl⟩ := heffect
    exact h.loss.opened hsub (h.kept_of_pending hpending)
  | tenantDeregistered tenantId =>
    exact (h.loss.deregistered (h.healthy.closed tenantId hpending.1).2).sameAccounts heffect
  | subscriptionDeactivated tenantId =>
    subst heffect
    exact h.loss.slated

/-- A careful schedule loses events of live tenants only. -/
theorem Mirrored.lose (hpending : Pending delivered b event)
    (hcareful : Careful (dropped, a) (.deliver event false choices)) (heffect : event.Effect b b') :
    Mirrored (event :: dropped) (event :: delivered) a b' := by
  have hhealthy := h.healthy.deliver hpending.1 heffect
  have hloss := h.loss_kept hpending heffect
  cases event with
  | tenantCreated tenantId =>
    obtain ⟨sub, hsub, hstatus, rfl⟩ := heffect
    have hfirst : b.subscriptions.hasHistory tenantId = false := by
      rw [Bool.eq_false_iff]
      intro hhistory
      exact hpending.2 (h.healthy.created tenantId hhistory)
    refine ⟨h.alike.lose_tenantCreated hsub hfirst, hhealthy,
      hloss.lose_tenantCreated (mem_cons_self ..) ?_ ?_ ?_⟩
    · have hopen : sub.isCurrent tenantId = true := by
        simp [isCurrent, hsub, hstatus]
      simp [findCurrent_createTrial, hopen, hfirst]
    · show b.tenants.isLive tenantId = true
      rw [h.alike.tenants]
      exact hcareful
    · rintro id row hrow rfl
      rw [h.healthy.served id row hrow] at hfirst
      cases hfirst
  | tenantDeregistered tenantId => exact hcareful.elim
  | subscriptionDeactivated tenantId =>
    subst heffect
    refine ⟨h.alike.lose_subscriptionDeactivated, hhealthy,
      hloss.lose_subscriptionDeactivated hpending.1 ?_⟩
    show b.tenants.isLive tenantId = true
    rw [h.alike.tenants]
    exact hcareful

/-- Both runs take the item, and differ by what was lost. -/
theorem Mirrored.step {item : Item} {dropped' : List DomainEvent}
    (hcareful : Careful (dropped, a) item)
    (ha : (lossy config).step (dropped, a) item = some (dropped', a'))
    (hb : (complete config).step (delivered, b) item = some (delivered', b')) :
    Mirrored dropped' delivered' a' b' := by
  cases item with
  | op op choices =>
    obtain ⟨⟨_, s⟩, hrun, hs⟩ := map_eq_some_iff.mp ha
    obtain ⟨⟨_, t⟩, hrun', ht⟩ := map_eq_some_iff.mp hb
    cases hs
    cases ht
    exact h.op hcareful (runs_answered hrun) (runs_answered hrun')
  | deliver event kept choices =>
    have hdeliver : Pending delivered b event ∧ delivered' = event :: delivered ∧
        (react config event).Runs (Answered choices) b () b' := by
      simp only [complete] at hb
      split at hb
      · rename_i hpending
        obtain ⟨⟨_, t⟩, hrun', ht⟩ := map_eq_some_iff.mp hb
        cases ht
        exact ⟨hpending, rfl, runs_answered hrun'⟩
      · cases hb
    obtain ⟨hpending, rfl, hrun'⟩ := hdeliver
    have heffect := h.healthy.react_effect hpending.1 (succeeds_of_answered hrun')
    cases kept with
    | true =>
      have hkept : dropped' = dropped ∧
          (event ∈ a.published → (react config event).Runs (Answered choices) a () a') ∧
          (event ∉ a.published → a' = a) := by
        simp only [lossy] at ha
        split at ha
        · rename_i hpublished
          obtain ⟨⟨_, s⟩, hrun, hs⟩ := map_eq_some_iff.mp ha
          cases hs
          exact ⟨rfl, fun _ => runs_answered hrun, fun habsent => absurd hpublished habsent⟩
        · rename_i habsent
          cases ha
          exact ⟨rfl, fun hpublished => absurd hpublished habsent, fun _ => rfl⟩
      obtain ⟨rfl, hrun, hskip⟩ := hkept
      exact ⟨h.alike_kept hpending hrun hskip hrun', h.healthy.deliver hpending.1 heffect,
        h.loss_kept hpending heffect⟩
    | false =>
      cases ha
      exact h.lose hpending hcareful heffect

end

theorem Mirrored.empty : Mirrored [] [] .empty .empty where
  alike := ⟨rfl, rfl, rfl, rfl, fun _ _ => rfl, fun _ _ => rfl, nofun, nofun⟩
  healthy := .empty
  loss := .empty

/-- The two runs of a careful schedule mirror each other. -/
theorem mirrored_of_run {items : List Item}
    (hcareful : (lossy config).Along Careful ([], .empty) items)
    (ha : (lossy config).run ([], .empty) items = some (dropped, a))
    (hb : (complete config).run ([], .empty) items = some (delivered, b)) :
    Mirrored dropped delivered a b :=
  (lossy config).run_lockstep_along (complete config) (fun s t => Mirrored s.1 t.1 s.2 t.2)
    (fun _ _ _ _ _ hguard hrel hstep hstep' => hrel.step hguard hstep hstep') .empty hcareful ha hb

end

/-! ## The pass -/

structure Reconciled (ids : List String) (s s' : Database) : Prop where
  identities : s'.identities = s.identities
  published : s'.published = s.published
  current : ∀ n, (s'.subscriptions.findCurrent n).isSome =
    ((s.subscriptions.findCurrent n).isSome ||
      decide (n ∈ ids) && !s.subscriptions.hasHistory n)
  history : ∀ n, s'.subscriptions.hasHistory n = (s.subscriptions.hasHistory n || decide (n ∈ ids))
  networks : ∀ id, s'.fleet.networks.get? id = (s.fleet.networks.get? id).map fun row =>
    if row.tenantId ∈ ids ∧ s.subscriptions.findCurrent row.tenantId = none ∧
        s.subscriptions.hasHistory row.tenantId = true then
      { row with provisioningState := .deprovisioning }
    else row

theorem Reconciled.nil (s : Database) : Reconciled [] s s where
  identities := rfl
  published := rfl
  current := by simp
  history := by simp
  networks := by simp

variable {ids live : List String} {s' : Database}

/-- A pass does not change whose license has ended. -/
theorem Reconciled.lapsed_iff (h : Reconciled ids s s') (n : String) :
    (s'.subscriptions.findCurrent n = none ∧ s'.subscriptions.hasHistory n = true) ↔
      (s.subscriptions.findCurrent n = none ∧ s.subscriptions.hasHistory n = true) := by
  have hcurrent := h.current n
  have hhistory := h.history n
  rw [← not_isSome_iff_eq_none, ← not_isSome_iff_eq_none, hcurrent, hhistory]
  by_cases hmem : n ∈ ids <;> cases s.subscriptions.hasHistory n <;> simp [hmem]

theorem Reconciled.cons {t u : Database} (h : Reconciled [tenantId] s t) (h' : Reconciled ids t u) :
    Reconciled (tenantId :: ids) s u where
  identities := h'.identities.trans h.identities
  published := h'.published.trans h.published
  current n := by
    rw [h'.current, h.current, h.history]
    by_cases heq : n = tenantId <;> by_cases hmem : n ∈ ids <;>
      cases s.subscriptions.hasHistory n <;> simp [heq, hmem]
  history n := by
    rw [h'.history, h.history]
    simp [Bool.or_assoc]
  networks id := by
    rw [h'.networks, h.networks, Option.map_map]
    congr 1
    funext row
    simp only [Function.comp_apply, h.lapsed_iff, mem_cons]
    by_cases hlapsed : s.subscriptions.findCurrent row.tenantId = none ∧
        s.subscriptions.hasHistory row.tenantId = true
    · by_cases heq : row.tenantId = tenantId <;> by_cases hmem : row.tenantId ∈ ids <;> simp_all
    · -- Neither tenant of the pass touches a network whose tenant has not lapsed.
      have hkeep : ∀ p : Prop, ¬ (p ∧ s.subscriptions.findCurrent row.tenantId = none ∧
          s.subscriptions.hasHistory row.tenantId = true) := fun _ h => hlapsed h.2
      rw [if_neg (hkeep _), if_neg (hkeep _), if_neg (hkeep _)]

section

variable {config : Config} {s s' : Database} {tenantId : String}

theorem networks_of_not_lapsed (hlapsed : ¬ (s.subscriptions.findCurrent tenantId = none ∧
    s.subscriptions.hasHistory tenantId = true)) (id : String) :
    s.fleet.networks.get? id = (s.fleet.networks.get? id).map fun row =>
      if row.tenantId ∈ [tenantId] ∧ s.subscriptions.findCurrent row.tenantId = none ∧
          s.subscriptions.hasHistory row.tenantId = true then
        { row with provisioningState := .deprovisioning }
      else row := by
  have hkeep : ∀ row : NetworkRow, ¬ (row.tenantId ∈ [tenantId] ∧
      s.subscriptions.findCurrent row.tenantId = none ∧
        s.subscriptions.hasHistory row.tenantId = true) := by
    rintro row ⟨hmem, hrow⟩
    rw [mem_singleton.mp hmem] at hrow
    exact hlapsed hrow
  simp only [hkeep, if_false, Option.map_id']

theorem Reconciled.skip {sub : Subscription}
    (hcurrent : s.subscriptions.findCurrent tenantId = some sub) : Reconciled [tenantId] s s where
  identities := rfl
  published := rfl
  current n := by
    by_cases heq : n = tenantId
    · simp [heq, hcurrent]
    · simp [heq]
  history n := by
    by_cases heq : n = tenantId
    · simp [heq, hasHistory_of_findCurrent hcurrent]
    · simp [heq]
  networks id := networks_of_not_lapsed (s := s) (by simp [hcurrent]) id

theorem Reconciled.opened {sub : Subscription} (hsub : sub.tenantId = tenantId)
    (hstatus : sub.status = .trialing) (hfirst : s.subscriptions.hasHistory tenantId = false) :
    Reconciled [tenantId] s { s with subscriptions := (s.subscriptions.createTrial sub).2 } where
  identities := rfl
  published := rfl
  current n := by
    by_cases heq : n = tenantId
    · have hopen : sub.isCurrent tenantId = true := by
        simp [isCurrent, hsub, hstatus]
      simp [findCurrent_createTrial, heq, hopen, hfirst]
    · have hother : sub.isCurrent n = false := by
        simp [isCurrent, hsub, Ne.symm heq]
      simp [findCurrent_createTrial, heq, hother]
  history n := by simp [hsub, eq_comm]
  networks id := networks_of_not_lapsed (s := s) (by simp [hfirst]) id

theorem Reconciled.slated (hcurrent : s.subscriptions.findCurrent tenantId = none)
    (hhistory : s.subscriptions.hasHistory tenantId = true) :
    Reconciled [tenantId] s (s.slated tenantId) where
  identities := rfl
  published := rfl
  current n := by
    by_cases heq : n = tenantId
    · simp [Database.slated, heq, hhistory]
    · simp [Database.slated, heq]
  history n := by
    by_cases heq : n = tenantId
    · simp [Database.slated, heq, hhistory]
    · simp [Database.slated, heq]
  networks id := by
    simp only [Database.slated, NetworkTable.setDeprovisioningForTenant_snd, Store.get?_modify,
      mem_singleton]
    congr 1
    funext row
    by_cases heq : row.tenantId = tenantId
    · simp [heq, hcurrent, hhistory]
    · simp [heq]

theorem reconcileTenant_effect
    (hrun : (reconcileTenant config tenantId).run.Runs Database.Step s (.ok ()) s') :
    Reconciled [tenantId] s s' := by
  rcases (Prog.runs_exceptBind _).mp hrun with ⟨_, herror, -⟩ | ⟨current, _, hread, hrest⟩
  · cases herror
  obtain ⟨choice, hexec⟩ := (runs_perform _).mp hread
  cases perform_of_exec hexec nofun
  cases hcurrent : s.subscriptions.findCurrent tenantId with
  | some sub =>
    rw [hcurrent] at hrest
    obtain ⟨-, rfl⟩ := hrest
    exact .skip hcurrent
  | none =>
    rw [hcurrent] at hrest
    rcases (Prog.runs_exceptBind _).mp hrest with ⟨_, herror, -⟩ | ⟨opened, t, htrial, hafter⟩
    · cases herror
    obtain ⟨sub, hsub, hstatus, hopened, rfl⟩ := createTrial_step htrial
    cases hhistory : s.subscriptions.hasHistory tenantId with
    | false =>
      rw [hopened, hhistory] at hafter
      obtain ⟨-, rfl⟩ := hafter
      exact .opened hsub hstatus hhistory
    | true =>
      have hsame : (s.subscriptions.createTrial sub).2 = s.subscriptions := by
        rcases s.subscriptions.createTrial_cases sub with ⟨-, heq⟩ | ⟨hfirst, -⟩
        · rw [heq]
        · rw [hsub, hhistory] at hfirst
          cases hfirst
      rw [hopened, hhistory, hsame] at hafter
      rcases (Prog.runs_exceptBind _).mp hafter with ⟨_, herror, -⟩ | ⟨_, _, hslate, -, rfl⟩
      · cases herror
      obtain ⟨choice, hexec⟩ := (runs_perform _).mp hslate
      cases perform_of_exec hexec nofun
      exact .slated hcurrent hhistory

theorem reconcileAll_effect {ids : List String}
    (hrun : (reconcileAll config ids).run.Runs Database.Step s (.ok ()) s') :
    Reconciled ids s s' := by
  induction ids generalizing s with
  | nil =>
    obtain ⟨-, rfl⟩ := hrun
    exact .nil _
  | cons tenantId ids ih =>
    rcases (Prog.runs_exceptBind _).mp hrun with ⟨_, herror, -⟩ | ⟨_, t, hfirst, hrest⟩
    · cases herror
    · exact (reconcileTenant_effect hfirst).cons (ih hrest)

/-- A complete pass visits the live tenants. -/
theorem reconcile_effect (hrun : (reconcile config).run.Runs Database.Step s (.ok ()) s') :
    ∃ ids, (∀ n, n ∈ ids ↔ s.tenants.isLive n = true) ∧ Reconciled ids s s' := by
  rcases (Prog.runs_exceptBind _).mp hrun with ⟨_, herror, -⟩ | ⟨ids, _, hlist, hrest⟩
  · cases herror
  obtain ⟨choice, hexec⟩ := (runs_perform _).mp hlist
  have hperform := perform_of_exec hexec nofun
  simp only [Database.perform] at hperform
  split at hperform
  · rename_i horder
    cases hperform
    refine ⟨choice.order, fun n => ?_, reconcileAll_effect hrest⟩
    rw [horder.mem_iff, TenantTable.mem_liveIds_iff]
  · cases hperform

end

/-! ## The repair -/

def Database.serves (s : Database) (networkId : String) : Bool :=
  (s.fleet.networks.get? networkId).any (·.provisioningState ≠ .deprovisioning)

section

variable {ids : List String}

/-- With nothing pending, the pass gives every tenant a license that has one in the
complete run, and no other. -/
theorem Mirrored.isSome_findCurrent (h : Mirrored dropped delivered a b)
    (hdelivered : ∀ event ∈ b.published, event ∈ delivered)
    (hids : ∀ n, n ∈ ids ↔ a.tenants.isLive n = true) (hpass : Reconciled ids a a') (n : String) :
    (a'.subscriptions.findCurrent n).isSome = (b.subscriptions.findCurrent n).isSome := by
  have hlive : decide (n ∈ ids) = b.tenants.isLive n := by
    rw [h.alike.tenants, Bool.eq_iff_iff, decide_eq_true_iff]
    exact hids n
  rw [hpass.current, hlive]
  by_cases hlost : .tenantCreated n ∈ dropped
  · have hhistory := h.alike.untried n hlost
    have hnone : a.subscriptions.findCurrent n = none := by
      rw [eq_none_iff_forall_ne_some]
      intro sub hsub
      rw [hasHistory_of_findCurrent hsub] at hhistory
      cases hhistory
    rw [hnone, hhistory]
    cases hlive' : b.tenants.isLive n with
    | true =>
      have hlicensed := h.loss.untried_live n hlost hlive'
      simp [isSome_iff_ne_none.mpr hlicensed]
    | false =>
      have hgone : b.subscriptions.findCurrent n = none := by
        by_contra hlicensed
        rcases h.loss.untried_gone n hlost hlicensed with hlive | hpending
        · rw [hlive'] at hlive
          cases hlive
        · exact hpending.2 (hdelivered _ hpending.1)
      simp [hgone]
  · rw [← h.alike.current n hlost, ← h.alike.history n hlost]
    cases hlive' : b.tenants.isLive n with
    | false => simp
    | true =>
      -- A live tenant whose signup was handled has its trial already.
      rcases h.healthy.trial n hlive' with hhistory | hpending
      · simp [hhistory]
      · exact absurd (hdelivered _ hpending.1) hpending.2

/-- With nothing pending, the pass slates the networks that are slated in the
complete run, and no others. -/
theorem Mirrored.serves_eq (h : Mirrored dropped delivered a b)
    (hdelivered : ∀ event ∈ b.published, event ∈ delivered)
    (hids : ∀ n, n ∈ ids ↔ a.tenants.isLive n = true) (hpass : Reconciled ids a a')
    (networkId : String) : a'.serves networkId = b.serves networkId := by
  have hb : b.fleet.networks.get? networkId =
      (a.fleet.networks.get? networkId).map (slate dropped networkId) := by
    rw [h.alike.fleet, slateFleet, Store.get?_modify]
  unfold Database.serves
  rw [hpass.networks]
  cases hrow : a.fleet.networks.get? networkId with
  | none => simp [hb, hrow]
  | some row =>
    have hkept : .tenantCreated row.tenantId ∉ dropped := by
      have hrow' := h.loss.unserved networkId (slate dropped networkId row)
      rw [slate_tenantId] at hrow'
      exact hrow' (by rw [hb, hrow]; rfl)
    rw [hb, hrow]
    simp only [map_some, any_some]
    by_cases hlost : .subscriptionDeactivated row.tenantId ∈ dropped
    · obtain ⟨hannounced, hlive⟩ := h.loss.lost row.tenantId hlost
      obtain ⟨hnone, hhistory⟩ := h.healthy.deactivated row.tenantId hannounced
      rw [h.alike.tenants] at hlive
      rw [h.alike.current _ hkept] at hnone
      rw [h.alike.history _ hkept] at hhistory
      simp [slate, hlost, (hids row.tenantId).mpr hlive, hnone, hhistory]
    · have hslate : slate dropped networkId row = row := if_neg hlost
      rw [hslate]
      by_cases hstate : row.provisioningState = .deprovisioning
      · split
        · simp [hstate]
        · rfl
      · have hrow' : b.fleet.networks.get? networkId = some row := by
          rw [hb, hrow, map_some, hslate]
        rcases h.healthy.torn networkId row hrow' hstate with
          hlicensed | hpending
        · rw [h.alike.current _ hkept] at hlicensed
          simp [hlicensed]
        · exact absurd (hdelivered _ hpending.1) hpending.2

end

/-- After a careful schedule in which the complete run has delivered everything, one
complete pass publishes nothing and leaves the licenses, the networks and the login
methods of the complete run. -/
theorem reconcile_repairs (config : Config) (items : List Item)
    (dropped delivered : List DomainEvent) (a b a' : Database)
    (hlossy : (lossy config).run ([], .empty) items = some (dropped, a))
    (hcomplete : (complete config).run ([], .empty) items = some (delivered, b))
    (hdelivered : ∀ event ∈ b.published, event ∈ delivered)
    (hcareful : (lossy config).Along Careful ([], .empty) items)
    (hpass : (reconcile config).run.Runs Database.Step a (.ok ()) a') :
    a'.published = a.published ∧
      (∀ n, (a'.subscriptions.findCurrent n).isSome = (b.subscriptions.findCurrent n).isSome) ∧
      (∀ networkId, a'.serves networkId = b.serves networkId) ∧ a'.identities = b.identities := by
  have h := mirrored_of_run hcareful hlossy hcomplete
  obtain ⟨ids, hids, hreconciled⟩ := reconcile_effect hpass
  exact ⟨hreconciled.published, h.isSome_findCurrent hdelivered hids hreconciled,
    h.serves_eq hdelivered hids hreconciled, hreconciled.identities.trans h.alike.identities.symm⟩

/-! ## A lost signup, and a lost deregistration -/

def samplePass (live : List String) (s : Database) : Option (Except Failure Unit × Database) :=
  (reconcile sampleConfig).run.runWith (Database.exec ⟨0, false, "tenant-1", live⟩) s

theorem runs_of_samplePass (h : samplePass live s = some (.ok (), s')) :
    (reconcile sampleConfig).run.Runs Database.Step s (.ok ()) s' :=
  Prog.runs_of_runWith _ (fun _ _ _ _ hexec => ⟨_, hexec⟩) h

def sampleLogin : Item :=
  .op (.resolveIdentity "tenant-1" ⟨"google", "ada", "ada@example.org", true⟩ none)
    fun _ => ⟨0, false, "tenant-1", ["tenant-1"]⟩

def sampleDelivery (event : DomainEvent) (kept : Bool) : Item :=
  .deliver event kept fun _ => ⟨0, false, "tenant-1", ["tenant-1"]⟩

def sampleLostSignup : List Item := [sampleLogin, sampleDelivery (.tenantCreated "tenant-1") false]

/-- The tenant gets its trial and is deregistered, and its deregistration is
lost. -/
def sampleLostDeregistration : List Item :=
  [sampleLogin, sampleDelivery (.tenantCreated "tenant-1") true,
    .op (.deregisterTenant "tenant-1") fun _ => ⟨0, false, "tenant-1", ["tenant-1"]⟩,
    sampleDelivery (.tenantDeregistered "tenant-1") false,
    sampleDelivery (.subscriptionDeactivated "tenant-1") true]

def sampleLossy (items : List Item) : List DomainEvent × Database :=
  (lossy sampleConfig).runD ([], .empty) items

def sampleComplete (items : List Item) : List DomainEvent × Database :=
  (complete sampleConfig).runD ([], .empty) items

def sampleRepaired (live : List String) (items : List Item) : Database :=
  ((samplePass live (sampleLossy items).2).map Prod.snd).getD .empty

theorem runs_sampleRepaired {items : List Item}
    (h : (samplePass live (sampleLossy items).2).map Prod.fst = some (.ok ())) :
    (reconcile sampleConfig).run.Runs Database.Step (sampleLossy items).2 (.ok ())
      (sampleRepaired live items) := by
  obtain ⟨⟨outcome, s⟩, hpass, houtcome⟩ := map_eq_some_iff.mp h
  cases houtcome
  rw [sampleRepaired, hpass]
  exact runs_of_samplePass hpass

/-- The pass gives the tenant of a lost signup its trial. -/
theorem reconcile_repairs_sample :
    (∀ n, ((sampleRepaired ["tenant-1"] sampleLostSignup).subscriptions.findCurrent n).isSome =
      ((sampleComplete sampleLostSignup).2.subscriptions.findCurrent n).isSome) ∧
    ((sampleRepaired ["tenant-1"] sampleLostSignup).subscriptions.findCurrent "tenant-1").isSome =
      true := by
  refine ⟨?_, by decide⟩
  exact (reconcile_repairs sampleConfig sampleLostSignup (sampleLossy sampleLostSignup).1
    (sampleComplete sampleLostSignup).1 (sampleLossy sampleLostSignup).2
    (sampleComplete sampleLostSignup).2 (sampleRepaired ["tenant-1"] sampleLostSignup)
    (System.run_eq_some_runD _ (by decide)) (System.run_eq_some_runD _ (by decide)) (by decide)
    (by decide) (runs_sampleRepaired (by decide))).2.1

/-- A lost deregistration stays lost: the pass does not look at tombstoned tenants,
and the license and the login method of the tenant stay. -/
theorem reconcile_skips_deregistered : ∃ items dropped delivered a b a',
      (lossy sampleConfig).run ([], .empty) items = some (dropped, a) ∧
      (complete sampleConfig).run ([], .empty) items = some (delivered, b) ∧
      (∀ event ∈ b.published, event ∈ delivered) ∧
      (reconcile sampleConfig).run.Runs Database.Step a (.ok ()) a' ∧
      (a'.subscriptions.findCurrent "tenant-1").isSome = true ∧
      (b.subscriptions.findCurrent "tenant-1").isSome = false ∧
      (a'.identities.get? ("google", "ada")).isSome = true ∧
      (b.identities.get? ("google", "ada")).isSome = false :=
  ⟨sampleLostDeregistration, (sampleLossy sampleLostDeregistration).1,
    (sampleComplete sampleLostDeregistration).1, (sampleLossy sampleLostDeregistration).2,
    (sampleComplete sampleLostDeregistration).2, sampleRepaired [] sampleLostDeregistration,
    System.run_eq_some_runD _ (by decide), System.run_eq_some_runD _ (by decide), by decide,
    runs_sampleRepaired (by decide), by decide, by decide, by decide, by decide⟩

end Wardnet.Authority

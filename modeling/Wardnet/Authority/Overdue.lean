/-
# The overdue reaper

`expire_overdue` lists the overdue tenants and then cancels them one by one, by
tenant and not by row. A license that is written between the listing and the
cancel is canceled too, overdue or not. In every run in which no license of a
listed tenant is written before the pass has reached it, each canceled row was
overdue when it was canceled.
-/

import Wardnet.Authority.License

namespace Wardnet.Authority

open Base Subscriptions Outline SubscriptionTable List

def OverdueAt (policy : TrialPolicy) (now : Int) (sub : Subscription) : Prop :=
  (sub.status = .trialing ∧
      ∃ t ∈ sub.trialExpiresAt, t + days policy.trialGraceDays < now) ∨
    (sub.status = .pastDue ∧
      ∃ t ∈ sub.currentPeriodEnd, t + days policy.paymentGraceDays < now)

variable {now : Int} {s s' : Database} {g : Pass} {rest : Set Pass} {choice : Choice}
  {ids : List String} {tenantId : String}

theorem overdueAt_iff {policy : TrialPolicy} {sub : Subscription} :
    OverdueAt policy now sub ↔ sub.overdue (now - days policy.trialGraceDays)
      (now - days policy.paymentGraceDays) = true := by
  have hshift : ∀ (end? : Option Int) (grace : Int),
      (∃ t ∈ end?, t + days grace < now) ↔ end?.any (· < now - days grace) = true := by
    intro end? grace
    simp only [Option.any_eq_true, decide_eq_true_eq, Option.mem_def]
    constructor
    · rintro ⟨t, ht, hlt⟩
      exact ⟨t, ht, by omega⟩
    · rintro ⟨t, ht, hlt⟩
      exact ⟨t, ht, by omega⟩
  simp only [OverdueAt, Subscription.overdue, hshift, decide_eq_true_eq]

/-! ## What a pass has done so far -/

section

variable {config : Config}

/-- The tenants that a pass has listed and not reached yet, after one more call. A
pass gives up at the first failure. -/
def owedStep (owed : List String) : (world config).Event → List String
  | ⟨.listOverdue _ _, .ok ids⟩ => ids
  | ⟨.cancelCurrent _, .ok _⟩ => owed.tail
  | ⟨.cancelCurrent _, .error _⟩ => []
  | _ => owed

def owed (log : List (world config).Event) : List String := log.foldl owedStep []

theorem owed_concat (log : List (world config).Event) (e : (world config).Event) :
    owed (log ++ [e]) = owedStep (owed log) e := by
  simp [owed, foldl_append]

def passStart : List (world config).Event → Option Int
  | ⟨.utcNow, now⟩ :: _ => some now
  | _ => none

theorem passStart_append {log : List (world config).Event} {now : Int}
    (h : passStart log = some now) (more : List (world config).Event) :
    passStart (log ++ more) = some now := by
  cases log with
  | nil => cases h
  | cons e log =>
    rw [cons_append]
    unfold passStart at h ⊢
    split at h
    · rename_i heq
      cases heq
      exact h
    · cases h

end

/-! ## The outline of the passes -/

/-- What a pass has read: the clock, and the tenants it still has to cancel. Every
other task owes nothing. -/
structure Pass where
  now : Int
  owed : List String
  deriving Inhabited

def Task.isPass : Task → Bool
  | .expireOverdue => true
  | _ => false

/-- The tenants that any pass still has to cancel have no license that is not
overdue. -/
def PassInv (config : Config) (s : Database) (notes : Set Pass) : Prop :=
  ∀ g ∈ notes, ∀ tenantId ∈ g.owed, s.Settled tenantId ∧
    ∀ sub, s.subscriptions.findCurrent tenantId = some sub → OverdueAt config.policy g.now sub

@[reducible]
def passOutline (config : Config) : Outline (world config) Pass where
  Inv := PassInv config
  Sees _ g task log pending :=
    if task.isPass then
      g.owed = owed log ∧ (g.owed ≠ [] → passStart log = some g.now) ∧
        ∀ c ∈ pending, c.touchesLicenses = true → ∃ tenantId ∈ g.owed, c = .cancelCurrent tenantId
    else g.owed = []
  Permits _ g rest c _ := ∀ tenantId ∈ c.licenseWrites, ∀ g' ∈ insert g rest, tenantId ∉ g'.owed

variable {config : Config}

/-- No permitted call of any task gives a listed tenant a fresh license. -/
theorem passInv_stable {c : Call} {r : c.Resp} (hinv : PassInv config s (insert g rest))
    (hpermits : ∀ tenantId ∈ c.licenseWrites, ∀ g' ∈ insert g rest, tenantId ∉ g'.owed)
    (hexec : Database.exec choice c s = some (r, s')) : PassInv config s' (insert g rest) := by
  intro g' hg' tenantId howed
  obtain ⟨hsettled, hoverdue⟩ := hinv g' hg' tenantId howed
  refine ⟨hsettled.exec hexec, fun sub hsub => ?_⟩
  cases exec_license hexec tenantId with
  | same h =>
    rw [h] at hsub
    exact hoverdue sub hsub
  | ended _ h =>
    rw [h] at hsub
    cases hsub
  | opened _ _ _ hfirst => exact absurd hsettled hfirst
  | written h => exact absurd howed (hpermits tenantId h g' hg')

theorem PassInv.shrink {g' : Pass} (hinv : PassInv config s (insert g rest))
    (hnow : g'.owed ≠ [] → g'.now = g.now) (howed : g'.owed ⊆ g.owed) :
    PassInv config s (insert g' rest) := by
  intro g₀ hg₀ tenantId htenant
  rcases Set.mem_insert_iff.mp hg₀ with rfl | hrest
  · rw [hnow (ne_nil_of_mem htenant)]
    exact hinv g (Set.mem_insert _ _) tenantId (howed htenant)
  · exact hinv g₀ (Set.mem_insert_of_mem _ hrest) tenantId htenant

/-- A listing changes nothing and returns the overdue tenants. -/
theorem listed_of_exec {trialCutoff paymentCutoff : Int}
    (hexec : Database.exec choice (.listOverdue trialCutoff paymentCutoff) s = some (.ok ids, s')) :
    s' = s ∧ ∀ tenantId, tenantId ∈ ids ↔
      tenantId ∈ s.subscriptions.listOverdue trialCutoff paymentCutoff := by
  have hperform := perform_of_exec hexec nofun
  simp only [Database.perform] at hperform
  split at hperform
  · rename_i hperm
    cases hperform
    exact ⟨rfl, fun tenantId => hperm.mem_iff⟩
  · cases hperform

theorem PassInv.step {g' : Pass} {c : Call} {r : c.Resp} (hinv : PassInv config s (insert g rest))
    (hwrites : c.licenseWrites = []) (hexec : Database.exec choice c s = some (r, s'))
    (hnow : g'.owed ≠ [] → g'.now = g.now) (howed : g'.owed ⊆ g.owed) :
    PassInv config s' (insert g' rest) := by
  have hstable := passInv_stable hinv (by simp [hwrites]) hexec
  exact hstable.shrink hnow howed

variable {i : ℕ}

theorem wp_cancel {log : List (world config).Event} (howed : owed log = tenantId :: ids)
    (hstart : passStart log = some now) :
    (passOutline config).Wp i .expireOverdue (fun g log' r => match r with
        | .ok _ => g = ⟨now, ids⟩ ∧ owed log' = ids ∧ passStart log' = some now
        | .error _ => g.owed = [] ∧ owed log' = [])
      ⟨now, tenantId :: ids⟩ log (cancel tenantId).run := by
  apply Wp.exceptBind
  refine ⟨⟨howed.symm, fun _ => hstart, ?_⟩, fun s rest choice r s' hinv _ hexec => ?_⟩
  · rintro _ ⟨⟩ -
    exact ⟨tenantId, mem_cons_self, rfl⟩
  cases r with
  | error e =>
    refine ⟨⟨now, []⟩, hinv.step rfl hexec (fun h => absurd rfl h) (nil_subset _), rfl, ?_⟩
    rw [owed_concat]
    rfl
  | ok canceled =>
    have howed' : owed (log ++ [⟨.cancelCurrent tenantId, .ok canceled⟩]) = ids := by
      rw [owed_concat, howed]
      rfl
    have hstart' := passStart_append hstart [⟨.cancelCurrent tenantId, .ok canceled⟩]
    refine ⟨⟨now, ids⟩, hinv.step rfl hexec (fun _ => rfl) (subset_cons_self _ _), ?_⟩
    cases canceled with
    | false => exact ⟨rfl, howed', hstart'⟩
    | true =>
      refine ⟨⟨howed'.symm, fun _ => hstart', by rintro _ ⟨⟩ ⟨⟩⟩,
        fun s rest choice r s' hinv _ hexec => ⟨⟨now, ids⟩,
          hinv.step rfl hexec (fun _ => rfl) (List.Subset.refl _), ?_⟩⟩
      show _ ∧ _ ∧ _
      rw [owed_concat, howed']
      exact ⟨rfl, rfl, passStart_append hstart' _⟩

theorem wp_cancelAll {log : List (world config).Event} (howed : owed log = ids)
    (hstart : passStart log = some now) :
    (passOutline config).Wp i .expireOverdue (fun g log' _ => g.owed = [] ∧ owed log' = [])
      ⟨now, ids⟩ log (cancelAll ids).run := by
  induction ids generalizing log with
  | nil => exact ⟨rfl, howed⟩
  | cons tenantId ids ih =>
    apply Wp.exceptBind
    apply (wp_cancel howed hstart).mono
    intro g log' r hr
    cases r with
    | error e => exact hr
    | ok _ =>
      obtain ⟨rfl, howed', hstart'⟩ := hr
      exact ih howed' hstart'

theorem wp_expireOverdue :
    (passOutline config).Wp i .expireOverdue (fun g log' _ => g.owed = [] ∧ owed log' = [])
      ⟨0, []⟩ [] (expireOverdue config).run := by
  apply Wp.exceptBind
  refine ⟨⟨rfl, fun h => absurd rfl h, by rintro _ ⟨⟩ ⟨⟩⟩,
    fun s rest choice now s' hinv _ hexec => ⟨⟨now, []⟩,
      hinv.step rfl hexec (fun h => absurd rfl h) (nil_subset _), ?_⟩⟩
  apply Wp.exceptBind
  refine ⟨⟨rfl, fun h => absurd rfl h, by rintro _ ⟨⟩ ⟨⟩⟩,
    fun s rest choice r s' hinv _ hexec => ?_⟩
  cases r with
  | error e =>
    exact ⟨⟨now, []⟩, hinv.step rfl hexec (fun h => absurd rfl h) (nil_subset _), rfl, rfl⟩
  | ok ids =>
    have hstable : PassInv config s' (insert ⟨now, []⟩ rest) :=
      hinv.step rfl hexec (fun _ => rfl) (List.Subset.refl _)
    refine ⟨⟨now, ids⟩, ?_, ?_⟩
    · intro g hg tenantId htenant
      rcases Set.mem_insert_iff.mp hg with rfl | hrest
      · obtain ⟨hsub, hmem⟩ := listed_of_exec hexec
        obtain ⟨sub, hcurrent, hoverdue⟩ :=
          mem_listOverdue_iff.mp ((hmem tenantId).mp htenant)
        rw [hsub]
        refine ⟨.inl (hasHistory_of_findCurrent hcurrent), ?_⟩
        intro sub' hsub'
        rw [hcurrent] at hsub'
        cases hsub'
        exact overdueAt_iff.mpr hoverdue
      · exact hstable g (Set.mem_insert_of_mem _ hrest) tenantId htenant
    · apply Wp.exceptBind
      let listed : Call := .listOverdue (now - days config.policy.trialGraceDays)
        (now - days config.policy.paymentGraceDays)
      have hstart : passStart ([⟨.utcNow, now⟩, ⟨listed, .ok ids⟩] : List (world config).Event) =
        some now := rfl
      refine (wp_cancelAll rfl hstart).mono ?_
      intro g log' r hr
      cases r with
      | error | ok => exact hr

/-- The condition on a run: no statement rewrites the license of a tenant that a
running pass has listed and not reached yet. -/
def SparesOwed (cfg : (world config).Config) : (world config).Action → Prop
  | .step i _ => ∀ c ∈ cfg.threads[i]?.bind World.Thread.pending, ∀ tenantId ∈ c.licenseWrites,
      ∀ th ∈ cfg.threads, th.task.isPass = true → tenantId ∉ owed th.log
  | _ => True

instance (cfg : (world config).Config) : DecidablePred (SparesOwed cfg)
  | .step _ _ => inferInstanceAs (Decidable (∀ _, _))
  | .spawn _ => isTrue trivial
  | .env _ => isTrue trivial

theorem owed_of_sees {th : (world config).Thread}
    (h : (passOutline config).Sees i g th.task th.log th.pending) (howed : tenantId ∈ g.owed) :
    th.task.isPass = true ∧ tenantId ∈ owed th.log := by
  dsimp only at h
  split at h
  · rename_i hpass
    exact ⟨hpass, h.1 ▸ howed⟩
  · rw [h] at howed
    cases howed

theorem follows_spawn (task : Task) :
    (passOutline config).Follows (fun _ _ => True) i default ⟨task, [], task.body config⟩ := by
  by_cases hpass : task.isPass = true
  · cases task with
    | expireOverdue =>
      apply Wp.bind
      apply wp_expireOverdue.mono
      intro g log _ hg
      exact ⟨⟨hg.1.trans hg.2.symm, fun h => absurd hg.1 h, by rintro _ ⟨⟩⟩, trivial⟩
    | _ => cases hpass
  · have hsees : ∀ log pending, (passOutline config).Sees i default task log pending := by
      intro log pending
      simp only [if_neg hpass]
      rfl
    have hstable : (passOutline config).Wp i task (fun g _ _ => g = default ∧ True) default []
        (task.body config) :=
      .of_stable (fun log c _ _ => hsees log (some c)) (fun _ _ _ _ _ => trivial)
        (fun _ _ _ _ _ _ _ hinv hpermits hexec => passInv_stable hinv hpermits hexec) trivial
        (task.body config).all_true
    apply hstable.mono
    rintro _ log _ ⟨rfl, -⟩
    exact ⟨hsees log none, trivial⟩

theorem passOutline_sound : (passOutline config).Sound (fun _ _ => True) SparesOwed where
  spawn cfg task notes _ hinv := by
    refine ⟨default, follows_spawn task, ?_⟩
    intro g hg tenantId htenant
    rcases Set.mem_insert_iff.mp hg with rfl | hmem
    · cases htenant
    · exact hinv g hmem tenantId htenant
  env _ e := e.elim
  permits cfg i choice th c next g rest hguard hth hprog hsees hrest := by
    intro tenantId hwrites g' hg' howed
    have hpending : th.pending = some c := by simp [World.Thread.pending, hprog]
    have hspares := hguard c (by simp [hth, hpending]) tenantId hwrites
    rcases Set.mem_insert_iff.mp hg' with rfl | hmem
    · rw [← hpending] at hsees
      obtain ⟨hpass, hlog⟩ := owed_of_sees hsees howed
      exact hspares th (mem_of_getElem? hth) hpass hlog
    · obtain ⟨j, th', hth', hsees', -⟩ := hrest g' hmem
      obtain ⟨hpass, hlog⟩ := owed_of_sees hsees' howed
      exact hspares th' (mem_of_getElem? hth') hpass hlog

/-- The rows that `cancel_current` turns to canceled are current ones. -/
theorem findCurrent_of_cancelCurrent {table : SubscriptionTable} {k : ℕ} {sub sub' : Subscription}
    (hbefore : table.rows[k]? = some sub)
    (hafter : (table.cancelCurrent tenantId).2.rows[k]? = some sub')
    (hlive : sub.status ≠ .canceled) (hcanceled : sub'.status = .canceled) :
    table.findCurrent tenantId = some sub := by
  simp only [cancelCurrent, patchCurrent, getElem?_map,
    hbefore, Option.map_some, Option.some.injEq] at hafter
  by_cases hcurrent : sub.isCurrent tenantId = true
  · exact findCurrent_eq_some_iff.mpr ⟨mem_of_getElem? hbefore, hcurrent⟩
  · rw [if_neg hcurrent] at hafter
    exact absurd (hafter ▸ hcanceled) hlive

/-- In every run that spares the tenants a pass has listed and not reached yet,
every row that a pass turns to canceled was overdue relative to the time at which
the pass started. -/
theorem expireOverdue_cancels_overdue (s : Database) (acts : List (world config).Action)
    {cfg cfg' : (world config).Config}
    (hrun : (world config).system.run (.start s) acts = some cfg)
    (hspares : (world config).system.Along SparesOwed (.start s) acts)
    (i : ℕ) (choice : Choice) {th : (world config).Thread} (hth : cfg.threads[i]? = some th)
    (hpass : th.task.isPass = true)
    (hstep : (world config).system.step cfg (.step i choice) = some cfg')
    (k : ℕ) (sub sub' : Subscription)
    (hbefore : cfg.state.subscriptions.rows[k]? = some sub) (hlive : sub.status ≠ .canceled)
    (hafter : cfg'.state.subscriptions.rows[k]? = some sub') (hcanceled : sub'.status = .canceled) :
    ∃ now, passStart th.log = some now ∧ OverdueAt config.policy now sub := by
  obtain ⟨note, hfollows, hinv⟩ := passOutline_sound.run
    (annotates_start (by rintro g ⟨⟩)) hspares hrun
  obtain ⟨th₀, th', s', hth₀, hadvance, rfl⟩ := World.Config.step_step_eq_some.mp hstep
  rw [hth] at hth₀
  cases hth₀
  obtain ⟨c, next, r, hprog, hexec, rfl⟩ := World.Thread.advance_eq_some.mp hadvance
  have hsees := (hfollows i th hth).sees
  simp only [hpass, if_true, World.Thread.pending, hprog] at hsees
  obtain ⟨-, hstart, hcancels⟩ := hsees
  rcases exec_eq_some hexec with ⟨-, rfl, -⟩ | ⟨-, hperform⟩
  · rw [hbefore] at hafter
    cases hafter
    exact absurd hcanceled hlive
  cases htouches : c.touchesLicenses with
  | false =>
    rw [(perform_frame hperform).subscriptions htouches, hbefore] at hafter
    cases hafter
    exact absurd hcanceled hlive
  | true =>
    obtain ⟨tenantId, howed, rfl⟩ := hcancels c rfl htouches
    cases hperform
    have hcurrent := findCurrent_of_cancelCurrent hbefore hafter hlive hcanceled
    have hi : i < cfg.threads.length := (List.getElem?_eq_some_iff.mp hth).1
    exact ⟨(note i).now, hstart (List.ne_nil_of_mem howed),
      (hinv (note i) ⟨i, hi, rfl⟩ tenantId howed).2 sub hcurrent⟩

/-- The trial of the tenant is overdue and listed. Before the pass reaches it, the
tenant pays and the webhook converts the trial. The pass cancels the paid
license, which nothing makes overdue. -/
theorem expireOverdue_cancels_paid :
    ∃ (acts : List (world sampleConfig).Action) (cfg cfg' : (world sampleConfig).Config)
      (th : (world sampleConfig).Thread) (k : ℕ) (sub sub' : Subscription),
      (world sampleConfig).system.run (.start .empty) acts = some cfg ∧
      cfg.threads[2]? = some th ∧ th.task.isPass = true ∧
      (world sampleConfig).system.step cfg (.step 2 ⟨days 20, false, "", []⟩) = some cfg' ∧
      cfg.state.subscriptions.rows[k]? = some sub ∧ sub.status ≠ .canceled ∧
      cfg'.state.subscriptions.rows[k]? = some sub' ∧ sub'.status = .canceled ∧
      passStart th.log = some (days 20) ∧ ¬ OverdueAt sampleConfig.policy (days 20) sub :=
  let acts := signup ++ .spawn .expireOverdue :: calls 2 2 (days 20) ++
    .spawn (.applyEvent (samplePaid "evt-1" (days 50))) :: calls 3 6 (days 20)
  ⟨acts, _, _, _, 1, ⟨"tenant-1", .active, ⟨5, 5⟩, none, some (days 50)⟩,
    ⟨"tenant-1", .canceled, ⟨5, 5⟩, none, some (days 50)⟩, System.run_eq_some_runD _ (by decide),
    rfl, by decide, rfl, by decide, by decide, by decide, by decide, by decide, by
      simp [OverdueAt]⟩

/-- A pass that is left alone cancels the overdue trial. -/
theorem expireOverdue_cancels_overdue_sample :
    ∃ (cfg : (world sampleConfig).Config) (th : (world sampleConfig).Thread) (sub : Subscription),
      (world sampleConfig).system.run (.start .empty)
        (signup ++ .spawn .expireOverdue :: calls 2 2 (days 20)) = some cfg ∧
      cfg.threads[2]? = some th ∧ cfg.state.subscriptions.rows[0]? = some sub ∧
      ∃ now, passStart th.log = some now ∧ OverdueAt sampleConfig.policy now sub := by
  refine ⟨_, _, ⟨"tenant-1", .trialing, .default, some (days 14), none⟩,
    System.run_eq_some_runD _ (by decide), rfl, by decide, ?_⟩
  exact expireOverdue_cancels_overdue .empty
    (signup ++ .spawn .expireOverdue :: calls 2 2 (days 20))
    (System.run_eq_some_runD _ (by decide)) (by decide) 2 ⟨days 20, false, "", []⟩ rfl (by decide)
    rfl 0 _ ⟨"tenant-1", .canceled, .default, some (days 14), none⟩ (by decide) (by decide)
    (by decide) (by decide)

end Wardnet.Authority

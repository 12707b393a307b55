/-
# Heartbeats and the expiry of routes

A route row lives as long as its heartbeat is younger than the TTL. The heartbeat is
written by the abort pass of the node that owns the row, after the two Tenants reads for
the row have succeeded. A pass in which one of them fails skips the row and with it the
heartbeat, so an outage of Tenants that outlasts the TTL takes the routes of live
tunnels down.

All clocks are one here: the region carries the time, and the surroundings let it pass.
-/

import Wardnet.Base.Watch
import Wardnet.Tunnel.AbortScope

namespace Wardnet.Tunnel.Heartbeat

open Base Tenants Option System

structure Clocked where
  region : Region
  clock : Int

inductive Move
  | tenants (m : Directory.Move)
  | pass (seconds : ℕ)

/-- The nodes of a region that read one clock. What a call leaves open is whether it
fails. -/
@[reducible]
def clocked : World where
  State := Clocked
  Call := Call
  Resp := Call.Resp
  Choice := Bool
  exec fails c s := (Region.exec ⟨s.clock, fails⟩ c s.region).map fun out =>
    (out.1, { s with region := out.2 })
  Task := Task
  Result := Except ApiError Unit
  body := Task.body
  Env := Move
  env
    | .tenants m, s => (s.region.directory.apply m).map fun directory =>
      { s with region := { s.region with directory } }
    | .pass seconds, s => some { s with clock := s.clock + seconds }

variable {fails : Bool} {c : Call} {s s' : Clocked} {r : c.Resp}

theorem exec_eq_some : clocked.exec fails c s = some (r, s') ↔
      world.exec ⟨s.clock, fails⟩ c s.region = some (r, s'.region) ∧ s'.clock = s.clock := by
  obtain ⟨region', clock'⟩ := s'
  simp only [map_eq_some_iff, Prod.exists, Prod.mk.injEq, Clocked.mk.injEq]
  constructor
  · rintro ⟨r, region', hexec, rfl, rfl, rfl⟩
    exact ⟨hexec, rfl⟩
  · rintro ⟨hexec, rfl⟩
    exact ⟨r, region', hexec, rfl, rfl, rfl⟩

def timestamp : Call → Option Int
  | .upsert _ _ _ _ now | .touch _ _ now => some now
  | _ => none

/-- The time passes, and a row that is not as it was has been written since. -/
structure Since (s t : Clocked) : Prop where
  clock_le : s.clock ≤ t.clock
  written : ∀ slug row, t.region.routes.get? slug = some row →
    s.region.routes.get? slug = some row ∨ s.clock ≤ row.lastSeen

theorem Since.trans {t u : Clocked} (hst : Since s t) (htu : Since t u) : Since s u where
  clock_le := le_trans hst.clock_le htu.clock_le
  written slug row hrow := by
    rcases htu.written slug row hrow with hold | hnew
    · exact hst.written slug row hold
    · exact .inr (le_trans hst.clock_le hnew)

/-- A statement that writes the time of its execution. -/
theorem since_of_exec (hstamp : ∀ now ∈ timestamp c, now = s.clock)
    (hexec : clocked.exec fails c s = some (r, s')) :
    Since s s' := by
  obtain ⟨hexec, hclock⟩ := exec_eq_some.mp hexec
  refine ⟨le_of_eq hclock.symm, fun slug row hrow => ?_⟩
  rcases AbortScope.routed_of_exec hexec hrow with hold | ⟨_, _, _, rfl⟩ | rfl
  · exact .inl hold
  · exact .inr (le_of_eq (hstamp _ rfl).symm)
  · exact .inr (le_of_eq (hstamp _ rfl).symm)

theorem since_of_env {m : Move} (hmove : clocked.env m s = some s') : Since s s' := by
  cases m with
  | tenants m =>
    obtain ⟨d, -, rfl⟩ := map_eq_some_iff.mp hmove
    exact ⟨le_refl _, fun slug row hrow => .inl hrow⟩
  | pass seconds =>
    cases hmove
    exact ⟨Int.le_add_of_nonneg_right (Int.natCast_nonneg seconds), fun slug row hrow => .inl hrow⟩

/-! ## One pass -/

def ReadsOther (networkId tenantId : String) : Call → Prop
  | .getNetwork id => id ≠ networkId
  | .getTenant id => id ≠ tenantId
  | _ => False

instance (networkId tenantId : String) : DecidablePred (ReadsOther networkId tenantId)
  | .getNetwork id => inferInstanceAs (Decidable (id ≠ networkId))
  | .getTenant id => inferInstanceAs (Decidable (id ≠ tenantId))
  | .utcNow | .upsert .. | .delete .. | .listOwned _ | .touch .. | .reapExpired _ | .register ..
  | .serve .. | .unregister .. | .isCancelled .. | .abort .. => isFalse id

/-- The pass is watched while the others keep to the clock. It keeps to the clock
itself, and only a read for another network or tenant fails. -/
def watch (networkId tenantId : String) : Watch clocked where
  Rel := Since
  refl _ := ⟨le_refl _, fun _ _ hrow => Or.inl hrow⟩
  trans := Since.trans
  Permits s c fails := (∀ now ∈ timestamp c, now = s.clock) ∧
    (fails = true → ReadsOther networkId tenantId c)

section

variable {nodeAddr slug networkId tenantId : String} {start : Int}

/-- The row of the slug, if it is the node's for the network and tenant, has a heartbeat
from `start` or later, or is among the rows still to visit. -/
structure Due (nodeAddr slug networkId tenantId : String) (start : Int) (rows : List TunnelRoute)
    (s : Clocked) : Prop where
  clock_le : start ≤ s.clock
  fresh : ∀ row, s.region.routes.get? slug = some row → row.nodeAddr = nodeAddr →
    row.networkId = networkId → row.tenantId = tenantId → start ≤ row.lastSeen ∨
      ∃ route ∈ rows, route.slug = slug ∧ route.networkId = networkId ∧ route.tenantId = tenantId

variable {rows : List TunnelRoute} {s t : Clocked}

theorem Due.later (h : Due nodeAddr slug networkId tenantId start rows s) (hst : Since s t) :
    Due nodeAddr slug networkId tenantId start rows t where
  clock_le := le_trans h.clock_le hst.clock_le
  fresh row hrow := by
    rcases hst.written slug row hrow with hold | hnew
    · exact h.fresh row hold
    · exact fun _ _ _ => .inl (le_trans h.clock_le hnew)

theorem own_since (s : Clocked) (c : Call) (fails : Bool) (r : c.Resp) (s' : Clocked)
    (hperm : (watch networkId tenantId).Permits s c fails)
    (hexec : clocked.exec fails c s = some (r, s')) : Since s s' :=
  since_of_exec hperm.1 hexec

theorem wp_keep {α : Type} (p : Proc α) (h : Due nodeAddr slug networkId tenantId start rows s) :
    (watch networkId tenantId).Wp (fun _ => Due nodeAddr slug networkId tenantId start rows) p s :=
  Watch.Wp.of_stable (A := watch networkId tenantId) (fun _ _ hst hs => Due.later hs hst) own_since
    p h

section

variable (h : Due nodeAddr slug networkId tenantId start rows s)
include h

theorem Due.delete {r : Except Failure Bool}
    (hexec : clocked.exec false (.delete slug nodeAddr) s = some (r, t)) :
    Due nodeAddr slug networkId tenantId start [] t := by
  obtain ⟨hexec, hclock⟩ := exec_eq_some.mp hexec
  obtain ⟨region, clock⟩ := t
  cases hexec
  refine ⟨hclock ▸ h.clock_le, fun row hrow hnode => ?_⟩
  simp only [RouteTable.delete, Store.get?_deleteWhere, filter_eq_some_iff] at hrow
  simp [hnode] at hrow

theorem Due.touch {r : Except Failure Bool}
    (hexec : clocked.exec false (.touch slug nodeAddr s.clock) s = some (r, t)) :
    Due nodeAddr slug networkId tenantId start [] t := by
  obtain ⟨hexec, hclock⟩ := exec_eq_some.mp hexec
  obtain ⟨region, clock⟩ := t
  cases hexec
  refine ⟨hclock ▸ h.clock_le, fun row hrow hnode _ _ => .inl ?_⟩
  simp only [RouteTable.touch, Store.get?_updateWhere, map_eq_some_iff] at hrow
  obtain ⟨old, hold, hnew⟩ := hrow
  split at hnew
  · rw [← hnew]
    exact h.clock_le
  · rename_i hother
    subst hnew
    simp [hnode] at hother

theorem wp_teardown :
    (watch networkId tenantId).Wp (fun _ => Due nodeAddr slug networkId tenantId start [])
      (do let _ ← issue (.abort nodeAddr slug); let _ ← issue (.delete slug nodeAddr)) s := by
  intro s₁ fails r s₁' hrel₁ hperm₁ hexec₁
  have h₁ := (h.later hrel₁).later (own_since _ _ _ _ _ hperm₁ hexec₁)
  intro s₂ fails r s₂' hrel₂ hperm₂ hexec₂
  have hok : fails = false := by simpa [ReadsOther] using hperm₂.2
  subst hok
  exact fun t hrel => ((h₁.later hrel₂).delete hexec₂).later hrel

theorem wp_heartbeat :
    (watch networkId tenantId).Wp (fun _ => Due nodeAddr slug networkId tenantId start [])
      (do let now ← issue .utcNow; let _ ← issue (.touch slug nodeAddr now)) s := by
  intro s₁ fails now s₁' hrel₁ hperm₁ hexec₁
  have h₁ := (h.later hrel₁).later (own_since _ _ _ _ _ hperm₁ hexec₁)
  intro s₂ fails r s₂' hrel₂ hperm₂ hexec₂
  have hok : fails = false := by simpa [ReadsOther] using hperm₂.2
  subst hok
  obtain rfl : now = s₂.clock := hperm₂.1 now rfl
  exact fun t hrel => ((h₁.later hrel₂).touch hexec₂).later hrel

end

theorem wp_reapRow {route : TunnelRoute} (hslug : route.slug = slug)
    (hnetwork : route.networkId = networkId) (htenant : route.tenantId = tenantId)
    (h : Due nodeAddr slug networkId tenantId start rows s) :
    (watch networkId tenantId).Wp (fun _ => Due nodeAddr slug networkId tenantId start [])
      (reapRow nodeAddr route) s := by
  subst hslug hnetwork htenant
  intro s₁ fails network s₁' hrel₁ hperm₁ hexec₁
  have h₁ := (h.later hrel₁).later (own_since _ _ _ _ _ hperm₁ hexec₁)
  have hok₁ : fails = false := by simpa [ReadsOther] using hperm₁.2
  subst hok₁
  obtain ⟨region₁, clock₁⟩ := s₁'
  cases (exec_eq_some.mp hexec₁).1
  intro s₂ fails tenant s₂' hrel₂ hperm₂ hexec₂
  have h₂ := (h₁.later hrel₂).later (own_since _ _ _ _ _ hperm₂ hexec₂)
  have hok₂ : fails = false := by simpa [ReadsOther] using hperm₂.2
  subst hok₂
  obtain ⟨region₂, clock₂⟩ := s₂'
  cases (exec_eq_some.mp hexec₂).1
  simp only [Prog.ret_bind, Bool.false_eq_true, if_false]
  split
  · exact wp_teardown h₂
  · exact wp_heartbeat h₂

theorem wp_reapRows (h : Due nodeAddr slug networkId tenantId start rows s) :
    (watch networkId tenantId).Wp (fun _ => Due nodeAddr slug networkId tenantId start [])
      (reapRows nodeAddr rows) s := by
  induction rows generalizing s with
  | nil => exact fun t hrel => h.later hrel
  | cons route rows ih =>
    apply Watch.Wp.bind
    by_cases hvisit : route.slug = slug ∧ route.networkId = networkId ∧ route.tenantId = tenantId
    · obtain ⟨hslug, hnetwork, htenant⟩ := hvisit
      apply (wp_reapRow hslug hnetwork htenant h).mono
      intro _ t ht
      exact wp_keep _ ht
    · apply (wp_keep _ h).mono
      intro _ t ht
      refine ih ⟨ht.clock_le, fun row hrow hnode hnetwork htenant => ?_⟩
      rcases ht.fresh row hrow hnode hnetwork htenant with hfresh | ⟨other, hother, hnames⟩
      · exact .inl hfresh
      · rcases List.mem_cons.mp hother with rfl | hother
        · exact absurd hnames hvisit
        · exact .inr ⟨other, hother, hnames⟩

/-- A pass in which the reads for the network and tenant succeed leaves no heartbeat that
is older than the pass. -/
theorem wp_abortReaperTick :
    (watch networkId tenantId).Wp (fun _ => Due nodeAddr slug networkId tenantId s.clock [])
      (abortReaperTick nodeAddr) s := by
  intro s₁ fails r s₁' hrel₁ hperm₁ hexec₁
  have hok₁ : fails = false := by simpa [ReadsOther] using hperm₁.2
  subst hok₁
  obtain ⟨hexec, hclock⟩ := exec_eq_some.mp hexec₁
  obtain ⟨region, clock⟩ := s₁'
  cases hexec
  refine wp_reapRows ⟨hclock ▸ hrel₁.clock_le, fun row hrow hnode hnetwork htenant => .inr ?_⟩
  exact ⟨{ row with slug := slug }, RouteTable.mem_listOwned_iff.mpr ⟨hrow, hnode⟩, rfl, hnetwork,
    htenant⟩

end

/-! ## The reaper and the pass -/

/-- A statement that writes the time is executed at that time. -/
def Stamped (cfg : clocked.Config) : clocked.Action → Prop
  | .step j _ => ∀ th ∈ cfg.threads[j]?, ∀ c ∈ th.pending, ∀ now ∈ timestamp c,
      now = cfg.state.clock
  | _ => True

instance (cfg : clocked.Config) : DecidablePred (Stamped cfg)
  | .step _ _ => inferInstanceAs (Decidable (∀ _, _))
  | .spawn _ | .env _ => isTrue trivial

/-- Of the calls of task `i`, only a Tenants read for another network or tenant fails. -/
def HeartbeatReads (networkId tenantId : String) (i : ℕ) (cfg : clocked.Config) :
    clocked.Action → Prop
  | .step j fails => j = i → fails = true → ∀ th ∈ cfg.threads[j]?, ∀ c ∈ th.pending,
      ReadsOther networkId tenantId c
  | _ => True

instance (networkId tenantId : String) (i : ℕ) (cfg : clocked.Config) :
    DecidablePred (HeartbeatReads networkId tenantId i cfg)
  | .step _ _ => inferInstanceAs (Decidable (∀ _, _))
  | .spawn _ | .env _ => isTrue trivial

/-- Since the clock showed `start`, the node has started a pass that has returned and
each step of which met the condition. -/
def TickedSince (guard : ℕ → clocked.Config → clocked.Action → Prop) (nodeAddr : String)
    (start : Int) (s : Clocked) (acts : List clocked.Action) : Prop :=
  ∃ before after cfg₀ cfg, acts = before ++ .spawn (.abortReaperTick nodeAddr) :: after ∧
    clocked.system.run (.start s) before = some cfg₀ ∧ start ≤ cfg₀.state.clock ∧
    clocked.system.run cfg₀ (.spawn (.abortReaperTick nodeAddr) :: after) = some cfg ∧
    clocked.system.Along (guard cfg₀.threads.length) cfg₀
      (.spawn (.abortReaperTick nodeAddr) :: after) ∧
    cfg.threads[cfg₀.threads.length]?.any World.Thread.done

/-- After a pass of the node in which the reads for its network and tenant succeed, a row
of the node has a heartbeat that is not older than the pass. -/
theorem heartbeat_of_pass {nodeAddr slug : String} {row : RouteRow} {cfg cfg' : clocked.Config}
    {acts : List clocked.Action}
    (hrun : clocked.system.run cfg (.spawn (.abortReaperTick nodeAddr) :: acts) = some cfg')
    (hstamped : clocked.system.Along Stamped cfg (.spawn (.abortReaperTick nodeAddr) :: acts))
    (hreads : clocked.system.Along
      (HeartbeatReads row.networkId row.tenantId cfg.threads.length) cfg
      (.spawn (.abortReaperTick nodeAddr) :: acts))
    (hdone : cfg'.threads[cfg.threads.length]?.any World.Thread.done)
    (hrow : cfg'.state.region.routes.get? slug = some row) (hnode : row.nodeAddr = nodeAddr) :
    cfg.state.clock ≤ row.lastSeen := by
  obtain ⟨cfg₁, hspawn, hrun⟩ := clocked.system.run_cons_eq_some.mp hrun
  cases hspawn
  have hbody : (watch row.networkId row.tenantId).Wp
      (fun _ => Due nodeAddr slug row.networkId row.tenantId cfg.state.clock [])
      (Task.body (.abortReaperTick nodeAddr)) cfg.state := by
    apply Watch.Wp.bind
    apply wp_abortReaperTick.mono
    intro _ t ht
    exact wp_keep _ ht
  obtain ⟨th, hth, hwp⟩ := Watch.Wp.run (A := watch row.networkId row.tenantId)
    (i := cfg.threads.length)
    (fun cfg j fails th c next r s' hguard _ hth hprog hexec =>
      since_of_exec (hguard.1 th hth c (by simp [World.Thread.pending, hprog])) hexec)
    (fun _ _ _ _ hmove => since_of_env hmove)
    (fun cfg fails th c next hguard hth hprog =>
      ⟨hguard.1 th hth c (by simp [World.Thread.pending, hprog]),
        fun hfails => hguard.2 rfl hfails th hth c (by simp [World.Thread.pending, hprog])⟩)
    ⟨_, List.getElem?_concat_length, hbody⟩ (hstamped.2.and _ hreads.2) hrun
  obtain ⟨th', hth', hret⟩ := (any_eq_true _ _).mp hdone
  obtain rfl := some.inj (hth.symm.trans hth')
  obtain ⟨value, hvalue⟩ := World.Thread.prog_eq_ret_of_done hret
  have hdue := hwp.of_done hvalue
  simpa using hdue.fresh row hrow hnode rfl rfl

/-- The reaper reads the clock, and then reaps what is older than its TTL. -/
theorem ttlReaperTick_calls {ttl : Int} {log : List clocked.Event} {c : Call}
    {next : c.Resp → Proc (Except ApiError Unit)}
    (h : World.Left (W := clocked) log (Task.body (.ttlReaperTick ttl)) (.call c next)) :
    c = .utcNow ∨ ∃ now : Int, ⟨.utcNow, now⟩ ∈ log ∧ c = .reapExpired (now - ttl) := by
  match log, h with
  | [], h =>
    cases h
    exact .inl rfl
  | [_], ⟨now, rfl, h⟩ =>
    cases h
    exact .inr ⟨now, List.mem_singleton_self _, rfl⟩
  | [_, _], ⟨_, _, _, _, h⟩ => cases h

/-- The reaper spares a row whose node has completed a pass that began at most one TTL before the
reaper read the clock, if the reads of that pass for the network and the tenant of the row
succeeded. -/
theorem reaper_spares_heartbeat (s : Clocked) (acts : List clocked.Action)
    (nodeAddr slug : String) (cfg cfg' : clocked.Config)
    (hrun : clocked.system.run (.start s) acts = some cfg)
    (hstamped : clocked.system.Along Stamped (.start s) acts) (j : ℕ) (th : clocked.Thread)
    (ttl : Int) (htask : th.task = .ttlReaperTick ttl) (e : clocked.Event)
    (hstep : cfg.Performs j th e cfg') (row : RouteRow)
    (hrow : cfg.state.region.routes.get? slug = some row) (hnode : row.nodeAddr = nodeAddr)
    (hticked : ∀ now : Int, ⟨.utcNow, now⟩ ∈ th.log →
      TickedSince (HeartbeatReads row.networkId row.tenantId) nodeAddr (now - ttl) s acts) :
    cfg'.state.region.routes.get? slug = some row := by
  obtain ⟨fails, next, hth, hprog, hexec, -⟩ := hstep
  have hleft := World.Config.left_of_run hrun th (List.mem_of_getElem? hth)
  rw [htask, hprog] at hleft
  obtain ⟨c, r⟩ := e
  obtain ⟨hexec, -⟩ := exec_eq_some.mp hexec
  rcases ttlReaperTick_calls hleft with rfl | ⟨now, hread, rfl⟩
  · injection hexec with hexec
    rw [← congrArg (fun out => out.2.routes) hexec]
    exact hrow
  obtain ⟨before, after, cfg₀, cfg₁, rfl, hbefore, hstart, hafter, hreads, hdone⟩ :=
    hticked now hread
  rw [clocked.system.run_append, hbefore, bind_some, hafter] at hrun
  cases hrun
  have hfresh := le_trans hstart (heartbeat_of_pass hafter
    (clocked.system.along_append_right hstamped hbefore) hreads hdone hrow hnode)
  simp only [Region.exec] at hexec
  split at hexec
  · injection hexec with hexec
    rw [← congrArg (fun out => out.2.routes) hexec]
    exact hrow
  · injection hexec with hexec
    rw [← congrArg (fun out => out.2.routes) hexec]
    simp only [RouteTable.reapExpired, Store.get?_deleteWhere]
    exact filter_eq_some_iff.mpr ⟨hrow, by simpa using hfresh⟩

/-! ## A short interruption, and an outage -/

def isTenantsRead : Call → Bool
  | .getNetwork _ | .getTenant _ => true
  | _ => false

def DatabaseSucceeds (cfg : clocked.Config) : clocked.Action → Prop
  | .step j fails => fails = true → ∀ th ∈ cfg.threads[j]?, ∀ c ∈ th.pending, isTenantsRead c
  | _ => True

instance (cfg : clocked.Config) : DecidablePred (DatabaseSucceeds cfg)
  | .step _ _ => inferInstanceAs (Decidable (∀ _, _))
  | .spawn _ | .env _ => isTrue trivial

def calls (i n : ℕ) : List clocked.Action := List.replicate n (.step i false)

def connecting (i : ℕ) : List clocked.Action :=
  .spawn (.tunnelConnect (.daemon (some "net-1")) "node-a") :: calls i 5

/-- A pass of the node in which the network of its only row cannot be read. -/
def failingPass (i : ℕ) : List clocked.Action :=
  [.spawn (.abortReaperTick "node-a"), .step i false, .step i true]

theorem log_of_performs {cfg cfg' : clocked.Config} {j : ℕ} {th : clocked.Thread}
    {e : clocked.Event} {log : List clocked.Event} (h : cfg.Performs j th e cfg')
    (hlog : cfg.threads[j]?.map World.Thread.log = some log) : th.log = log := by
  obtain ⟨_, _, hth, -⟩ := h
  rw [hth] at hlog
  exact some.inj hlog

/-- Forty seconds after the connection, a pass cannot read Tenants; forty seconds later
the next one can, and then the reaper reads the clock. -/
def sampleInterruption : List clocked.Action :=
  connecting 0 ++ .env (.pass 40) :: failingPass 1 ++ .env (.pass 40) ::
    .spawn (.abortReaperTick "node-a") :: calls 2 5 ++
    [.env (.pass 50), .spawn (.ttlReaperTick 120), .step 3 false]

/-- The row outlives the connection by more than the TTL, for the heartbeat was
refreshed once Tenants was back. -/
theorem reaper_spares_heartbeat_sample :
    ∃ (cfg cfg' : clocked.Config) (th : clocked.Thread) (r : Except Failure ℕ),
      clocked.system.run (.start ⟨sampleRegion, 0⟩) sampleInterruption = some cfg ∧
      th.task = .ttlReaperTick 120 ∧ th.log = [⟨.utcNow, (130 : Int)⟩] ∧
      cfg.Performs 3 th ⟨.reapExpired 10, r⟩ cfg' ∧
      cfg'.state.region.routes.get? "home" = some ⟨"node-a", "net-1", "tenant-1", 80⟩ := by
  obtain ⟨th, r, hreap, htask⟩ := World.performs_runD (W := clocked) ⟨sampleRegion, 0⟩
    sampleInterruption 3 false (.ttlReaperTick 120) (.reapExpired 10) (by decide) rfl (by decide)
  have hlog : th.log = [⟨.utcNow, (130 : Int)⟩] := log_of_performs hreap rfl
  refine ⟨_, _, th, r, run_eq_some_runD _ (by decide), htask, hlog, hreap,
    reaper_spares_heartbeat ⟨sampleRegion, 0⟩ sampleInterruption "node-a" "home" _ _
      (run_eq_some_runD _ (by decide)) (by decide) 3 th 120 htask _ hreap
      ⟨"node-a", "net-1", "tenant-1", 80⟩ (by decide) rfl fun now hread => ?_⟩
  rw [hlog] at hread
  cases List.mem_singleton.mp hread
  exact ⟨connecting 0 ++ .env (.pass 40) :: failingPass 1 ++ [.env (.pass 40)], _, _, _, rfl,
    run_eq_some_runD _ (by decide), by decide, run_eq_some_runD _ (by decide), by decide, by decide⟩

/-- Three passes, forty seconds apart, cannot read Tenants; then the reaper reads the
clock. -/
def sampleOutage : List clocked.Action :=
  connecting 0 ++ .env (.pass 40) :: failingPass 1 ++ .env (.pass 40) :: failingPass 2 ++
    .env (.pass 40) :: failingPass 3 ++
    [.env (.pass 10), .spawn (.ttlReaperTick 120), .step 4 false]

/-- The tunnel is up and its node has kept passing over its rows, the last time less than one TTL
before the reaper read the clock, but the reaper purges the row. -/
theorem reaper_purges_live_route :
    ∃ (cfg cfg' : clocked.Config) (th : clocked.Thread) (r : Except Failure ℕ) (row : RouteRow),
      clocked.system.run (.start ⟨sampleRegion, 0⟩) sampleOutage = some cfg ∧
      clocked.system.Along Stamped (.start ⟨sampleRegion, 0⟩) sampleOutage ∧
      clocked.system.Along DatabaseSucceeds (.start ⟨sampleRegion, 0⟩) sampleOutage ∧
      th.task = .ttlReaperTick 120 ∧ th.log = [⟨.utcNow, (130 : Int)⟩] ∧
      TickedSince (fun _ => DatabaseSucceeds) "node-a" (130 - 120) ⟨sampleRegion, 0⟩ sampleOutage ∧
      cfg.Performs 4 th ⟨.reapExpired 10, r⟩ cfg' ∧
      cfg.state.region.routes.get? "home" = some row ∧ row.nodeAddr = "node-a" ∧
      Registered cfg'.state.region "node-a" "home" sampleEntry ∧
      cfg'.state.region.routes.get? "home" = none := by
  obtain ⟨th, r, hreap, htask⟩ := World.performs_runD (W := clocked) ⟨sampleRegion, 0⟩
    sampleOutage 4 false (.ttlReaperTick 120) (.reapExpired 10) (by decide) rfl (by decide)
  exact ⟨_, _, th, r, ⟨"node-a", "net-1", "tenant-1", 0⟩, run_eq_some_runD _ (by decide),
    by decide, by decide, htask, log_of_performs hreap rfl,
    ⟨connecting 0 ++ .env (.pass 40) :: failingPass 1 ++ .env (.pass 40) :: failingPass 2 ++
      [.env (.pass 40)], _, _, _, rfl, run_eq_some_runD _ (by decide), by decide,
      run_eq_some_runD _ (by decide), by decide, by decide⟩,
    hreap, by decide, rfl, by decide, by decide⟩

end Wardnet.Tunnel.Heartbeat

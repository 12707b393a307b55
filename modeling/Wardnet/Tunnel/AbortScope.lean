/-
# What an abort pass may hit

The abort reaper lists its rows, reads the network and the tenant of each row, and
decides. It then aborts whatever is registered under the slug and deletes whatever
row the slug has on its node. If the slug has changed hands since the listing, the
tunnel and the row of another network are hit.

As long as no slug of a listed row changes hands on the node, a pass only aborts
tunnels and deletes rows of networks that it found gone, slated for teardown or
without a subscription.
-/

import Wardnet.Tunnel.AbortReaper

namespace Wardnet.Tunnel.AbortScope

open Base Tenants Option Region RouteTable List

/-- The network is gone or slated for teardown, or the tenant is gone or without an
entitling subscription. -/
def Condemned (d : Directory) (networkId tenantId : String) : Prop :=
  (d.getNetwork networkId).all (·.provisioningState = .deprovisioning) = true ∨
    (d.getTenant tenantId).all (fun t => !t.entitled) = true

instance (d : Directory) (networkId tenantId : String) :
    Decidable (Condemned d networkId tenantId) :=
  inferInstanceAs (Decidable (_ ∨ _))

def listed (log : List world.Event) : List TunnelRoute :=
  log.flatMap fun
    | ⟨.listOwned _, .ok rows⟩ => rows
    | _ => []

/-- A pass has read that the network or the tenant of a row is condemned. -/
def Condemns (log : List world.Event) (route : TunnelRoute) : Prop :=
  ∃ network tenant, (⟨.getNetwork route.networkId, .ok network⟩ : world.Event) ∈ log ∧
    (⟨.getTenant route.tenantId, .ok tenant⟩ : world.Event) ∈ log ∧
    shouldAbort network tenant = true

/-- What the node holds under the slugs of the rows serves what the rows say. -/
structure Held (nodeAddr : String) (rows : List TunnelRoute) (s : Region) : Prop where
  registered : ∀ route ∈ rows, ∀ e, Registered s nodeAddr route.slug e →
    e.networkId = route.networkId ∧ e.tenantId = route.tenantId
  routed : ∀ route ∈ rows, ∀ row, s.routes.get? route.slug = some row → row.nodeAddr = nodeAddr →
    row.networkId = route.networkId ∧ row.tenantId = route.tenantId

/-- The call does not establish another network's tunnel under a slug of the rows. -/
def Keeps (nodeAddr : String) (rows : List TunnelRoute) : Call → Prop
  | .upsert slug node networkId tenantId _ | .register node slug networkId tenantId =>
    node = nodeAddr → ∀ route ∈ rows, route.slug = slug →
      networkId = route.networkId ∧ tenantId = route.tenantId
  | _ => True

/-! ## Who wrote it -/

section

variable {choice : Choice} {c : Call} {s s' : Region} {r : c.Resp}

/-- A registration was there before or is the one that the call makes. -/
theorem registered_of_exec (hexec : world.exec choice c s = some (r, s')) {node slug : String}
    {e : Entry} (he : Registered s' node slug e) :
    Registered s node slug e ∨ c = .register node slug e.networkId e.tenantId := by
  cases c with
  | register node' slug' networkId tenantId =>
    cases hexec
    rw [registered_setRegistry_iff] at he
    split at he
    · rename_i hnode
      subst hnode
      rcases Store.get?_of_insert he with ⟨rfl, rfl⟩ | ⟨-, he⟩
      · exact .inr rfl
      · exact .inl he
    · exact .inl he
  | unregister node' slug' generation =>
    cases hexec
    rw [registered_setRegistry_iff] at he
    split at he
    · rename_i hnode
      subst hnode
      simp only [TunnelRegistry.unregister, Store.get?_retain] at he
      exact .inl (filter_eq_some_iff.mp he).1
    · exact .inl he
  | abort node' slug' =>
    cases hexec
    rw [registered_setRegistry_iff] at he
    split at he
    · rename_i hnode
      subst hnode
      exact .inl (Store.get?_of_erase he).2
    · exact .inl he
  | utcNow | getNetwork | getTenant | listOwned | serve | isCancelled =>
    cases hexec
    exact .inl he
  | upsert | delete | touch | reapExpired =>
    simp only [exec] at hexec
    split at hexec <;> cases hexec <;> exact .inl he

/-- A route row was there before, has its heartbeat from the call, or is the one that the
call writes. -/
theorem routed_of_exec (hexec : world.exec choice c s = some (r, s')) {slug : String}
    {row : RouteRow} (hrow : s'.routes.get? slug = some row) :
    s.routes.get? slug = some row ∨
      (∃ old, s.routes.get? slug = some old ∧ row = { old with lastSeen := row.lastSeen } ∧
        c = .touch slug row.nodeAddr row.lastSeen) ∨
      c = .upsert slug row.nodeAddr row.networkId row.tenantId row.lastSeen := by
  cases c with
  | utcNow | getNetwork | getTenant | listOwned | serve | isCancelled | register | unregister
  | abort =>
    cases hexec
    exact .inl hrow
  | upsert slug' node networkId tenantId now =>
    simp only [exec] at hexec
    split at hexec <;> cases hexec
    · exact .inl hrow
    · rcases Store.get?_of_insert hrow with ⟨rfl, rfl⟩ | ⟨-, hrow⟩
      · exact .inr (.inr rfl)
      · exact .inl hrow
  | delete slug' node =>
    simp only [exec] at hexec
    split at hexec <;> cases hexec
    · exact .inl hrow
    · simp only [delete, Store.get?_deleteWhere] at hrow
      exact .inl (filter_eq_some_iff.mp hrow).1
  | reapExpired deadline =>
    simp only [exec] at hexec
    split at hexec <;> cases hexec
    · exact .inl hrow
    · simp only [reapExpired, Store.get?_deleteWhere] at hrow
      exact .inl (filter_eq_some_iff.mp hrow).1
  | touch slug' node now =>
    simp only [exec] at hexec
    split at hexec <;> cases hexec
    · exact .inl hrow
    · simp only [touch, Store.get?_updateWhere] at hrow
      obtain ⟨old, hold, hnew⟩ := map_eq_some_iff.mp hrow
      split at hnew
      · rename_i howned
        obtain ⟨rfl, rfl⟩ := of_decide_eq_true howned
        subst hnew
        exact .inr (.inl ⟨old, hold, rfl, rfl⟩)
      · exact .inl (hnew ▸ hold)

theorem network_of_exec {networkId : String} {network : Option NetworkView}
    (hexec : world.exec choice (.getNetwork networkId) s = some (.ok network, s')) :
    network = s.directory.getNetwork networkId := by
  simp only [exec] at hexec
  split at hexec <;> cases hexec
  rfl

theorem tenant_of_exec {tenantId : String} {tenant : Option TenantView}
    (hexec : world.exec choice (.getTenant tenantId) s = some (.ok tenant, s')) :
    tenant = s.directory.getTenant tenantId := by
  simp only [exec] at hexec
  split at hexec <;> cases hexec
  rfl

end

instance (nodeAddr : String) (rows : List TunnelRoute) (c : Call) :
    Decidable (Keeps nodeAddr rows c) :=
  match c with
  | .upsert .. | .register .. => inferInstanceAs (Decidable (∀ _, _))
  | .utcNow | .getNetwork _ | .getTenant _ | .delete .. | .listOwned _ | .touch .. | .reapExpired _
  | .serve .. | .unregister .. | .isCancelled .. | .abort .. => isTrue trivial

variable {i : ℕ} {nodeAddr : String} {rows : List TunnelRoute}

/-- No slug of the rows changes hands by a call that keeps it. -/
theorem Held.exec {choice : Choice} {c : Call} {s s' : Region} {r : c.Resp}
    (h : Held nodeAddr rows s) (hkeeps : Keeps nodeAddr rows c)
    (hexec : world.exec choice c s = some (r, s')) : Held nodeAddr rows s' where
  registered route hroute e he := by
    rcases registered_of_exec hexec he with hold | rfl
    · exact h.registered route hroute e hold
    · exact hkeeps rfl route hroute rfl
  routed route hroute row hrow hnode := by
    rcases routed_of_exec hexec hrow with hold | ⟨old, hold, hrow', -⟩ | rfl
    · exact h.routed route hroute row hold hnode
    · rw [hrow'] at hnode ⊢
      exact h.routed route hroute old hold hnode
    · exact hkeeps hnode route hroute rfl

/-! ## The outline of a pass -/

inductive Note
  | other
  | pass (rows : List TunnelRoute)

instance : Inhabited Note := ⟨.other⟩

def outline (i : ℕ) (nodeAddr : String) : Outline world Note where
  Inv s notes := ∀ rows, .pass rows ∈ notes → Held nodeAddr rows s
  Sees j g task log pending := match g with
    | .other => ¬ (j = i ∧ task = .abortReaperTick nodeAddr)
    | .pass rows => j = i ∧ listed log = rows ∧
        ∀ slug, pending = some (.abort nodeAddr slug) ∨ pending = some (.delete slug nodeAddr) →
          ∃ route ∈ rows, route.slug = slug ∧ Condemns log route
  Permits s g rest c _ := match g with
    | .other => ∀ rows, .pass rows ∈ rest → Keeps nodeAddr rows c
    | .pass _ => c = .listOwned nodeAddr → Held nodeAddr (s.routes.listOwned nodeAddr) s

theorem listed_concat (log : List world.Event) (c : Call) (r : c.Resp)
    (hc : ∀ node, c ≠ .listOwned node) : listed (log ++ [⟨c, r⟩]) = listed log := by
  simp only [listed, flatMap_append, flatMap_cons, flatMap_nil, append_nil,
    append_right_eq_self]
  cases c with
  | listOwned node => exact absurd rfl (hc node)
  | _ => rfl

section

variable {task : Task} {log : List world.Event}

/-- A call of the pass that is neither an abort nor a delete. -/
theorem sees_pass {c : Call} (hlog : listed log = rows) (habort : ∀ slug, c ≠ .abort nodeAddr slug)
    (hdelete : ∀ slug, c ≠ .delete slug nodeAddr) :
    (outline i nodeAddr).Sees i (.pass rows) task log (some c) := by
  refine ⟨rfl, hlog, fun slug hpending => ?_⟩
  rcases hpending with heq | heq
  · exact absurd (some.inj heq) (habort slug)
  · exact absurd (some.inj heq) (hdelete slug)

/-- A call that establishes nothing keeps every listed row. -/
theorem inv_of_exec {notes : Set Note} {choice : Choice} {c : Call} {s s' : Region} {r : c.Resp}
    (hinv : (outline i nodeAddr).Inv s notes) (hexec : world.exec choice c s = some (r, s'))
    (hkeeps : ∀ rows, Keeps nodeAddr rows c) : (outline i nodeAddr).Inv s' notes :=
  fun rows hmem => (hinv rows hmem).exec (hkeeps rows) hexec

theorem wp_teardown {route : TunnelRoute} (hroute : route ∈ rows) (hlog : listed log = rows)
    (hcondemns : Condemns log route) :
    (outline i nodeAddr).Wp i task (fun g log' _ => g = .pass rows ∧ listed log' = rows)
      (.pass rows) log (do
        let _ ← issue (.abort nodeAddr route.slug)
        let _ ← issue (.delete route.slug nodeAddr)) := by
  refine ⟨⟨rfl, hlog, fun slug hpending => ?_⟩, fun s rest choice r s' hinv _ hexec => ?_⟩
  · rcases hpending with heq | heq
    · cases heq
      exact ⟨route, hroute, rfl, hcondemns⟩
    · cases heq
  have hlog' : listed (log ++ [⟨.abort nodeAddr route.slug, r⟩]) = rows := by
    rw [listed_concat _ _ _ (by simp), hlog]
  refine ⟨.pass rows, inv_of_exec hinv hexec fun _ => trivial,
    ⟨rfl, hlog', fun slug hpending => ?_⟩, fun s rest choice r s' hinv _ hexec => ?_⟩
  · rcases hpending with heq | heq
    · cases heq
    · cases heq
      obtain ⟨network, tenant, hnetwork, htenant, habort⟩ := hcondemns
      exact ⟨route, hroute, rfl, network, tenant, mem_append_left _ hnetwork,
        mem_append_left _ htenant, habort⟩
  · refine ⟨.pass rows, inv_of_exec hinv hexec fun _ => trivial, rfl, ?_⟩
    rw [listed_concat _ _ _ (by simp), hlog']

theorem wp_heartbeat {route : TunnelRoute} (hlog : listed log = rows) :
    (outline i nodeAddr).Wp i task (fun g log' _ => g = .pass rows ∧ listed log' = rows)
      (.pass rows) log (do
        let now ← issue .utcNow
        let _ ← issue (.touch route.slug nodeAddr now)) := by
  refine ⟨sees_pass hlog (by simp) (by simp), fun s rest choice now s' hinv _ hexec =>
    ⟨.pass rows, inv_of_exec hinv hexec fun _ => trivial, ?_⟩⟩
  have hlog' : listed (log ++ [⟨.utcNow, now⟩]) = rows := by
    rw [listed_concat _ _ _ (by simp), hlog]
  refine ⟨sees_pass hlog' (by simp) (by simp), fun s rest choice r s' hinv _ hexec =>
    ⟨.pass rows, inv_of_exec hinv hexec fun _ => trivial, rfl, ?_⟩⟩
  rw [listed_concat _ _ _ (by simp), hlog']

theorem wp_reapRow {route : TunnelRoute} (hroute : route ∈ rows) (hlog : listed log = rows) :
    (outline i nodeAddr).Wp i task (fun g log' _ => g = .pass rows ∧ listed log' = rows)
      (.pass rows) log (reapRow nodeAddr route) := by
  refine ⟨sees_pass hlog (by simp) (by simp), fun s rest choice network s' hinv _ hexec =>
    ⟨.pass rows, inv_of_exec hinv hexec fun _ => trivial, ?_⟩⟩
  have hlog₁ : listed (log ++ [⟨.getNetwork route.networkId, network⟩]) = rows := by
    rw [listed_concat _ _ _ (by simp), hlog]
  cases network with
  | error => exact ⟨rfl, hlog₁⟩
  | ok network =>
  refine ⟨sees_pass hlog₁ (by simp) (by simp), fun s rest choice tenant s' hinv _ hexec =>
    ⟨.pass rows, inv_of_exec hinv hexec fun _ => trivial, ?_⟩⟩
  have hlog₂ : listed ((log ++ [⟨.getNetwork route.networkId, .ok network⟩]) ++
      [⟨.getTenant route.tenantId, tenant⟩]) = rows := by
    rw [listed_concat _ _ _ (by simp), hlog₁]
  cases tenant with
  | error => exact ⟨rfl, hlog₂⟩
  | ok tenant =>
  simp only [Prog.ret_bind]
  split
  · rename_i habort
    exact wp_teardown hroute hlog₂ ⟨network, tenant, by simp, by simp, habort⟩
  · exact wp_heartbeat hlog₂

theorem wp_reapRows {routes : List TunnelRoute} (hroutes : ∀ route ∈ routes, route ∈ rows)
    (hlog : listed log = rows) :
    (outline i nodeAddr).Wp i task (fun g log' _ => g = .pass rows ∧ listed log' = rows)
      (.pass rows) log (reapRows nodeAddr routes) := by
  induction routes generalizing log with
  | nil => exact ⟨rfl, hlog⟩
  | cons route routes ih =>
    apply Outline.Wp.bind
    apply (wp_reapRow (hroutes route mem_cons_self) hlog).mono
    rintro g log' _ ⟨rfl, hlog'⟩
    exact ih (fun other hother => hroutes other (mem_cons_of_mem _ hother)) hlog'

theorem wp_abortReaperTick :
    (outline i nodeAddr).Wp i task (fun g log' _ => ∃ rows, g = .pass rows ∧ listed log' = rows)
      (.pass []) [] (abortReaperTick nodeAddr) := by
  refine ⟨sees_pass rfl (by simp) (by simp), fun s rest choice r s' hinv hperm hexec => ?_⟩
  cases r with
  | error =>
    exact ⟨.pass [], inv_of_exec hinv hexec fun _ => trivial, [], rfl, rfl⟩
  | ok rows =>
    have hread : rows = s.routes.listOwned nodeAddr ∧ s' = s := by
      simp only [exec] at hexec
      split at hexec
      · cases hexec
      · cases hexec
        exact ⟨rfl, rfl⟩
    obtain ⟨rfl, rfl⟩ := hread
    have hlog : listed [⟨.listOwned nodeAddr, .ok (s'.routes.listOwned nodeAddr)⟩] =
        s'.routes.listOwned nodeAddr := by simp [listed]
    refine ⟨.pass _, ?_, (wp_reapRows (fun _ hroute => hroute) hlog).mono fun g log' _ h => ⟨_, h⟩⟩
    rintro rows (heq | hmem)
    · cases heq
      exact hperm rfl
    · exact hinv rows (.inr hmem)

end

/-- The slugs that the pass lists are held by the networks of the rows, and none of
them changes hands on the node afterwards. -/
def SlugsStay (i : ℕ) (nodeAddr : String) (cfg : world.Config) : world.Action → Prop
  | .spawn _ | .env _ => True
  | .step j _ => ∀ th ∈ cfg.threads[j]?, ∀ c ∈ th.pending,
      (j = i → c = .listOwned nodeAddr → ∀ route ∈ cfg.state.routes.listOwned nodeAddr,
        ∀ e ∈ (cfg.state.registry nodeAddr).bySlug.get? route.slug,
          e.networkId = route.networkId ∧ e.tenantId = route.tenantId) ∧
      (j ≠ i → ∀ th' ∈ cfg.threads[i]?, Keeps nodeAddr (listed th'.log) c)

instance (i : ℕ) (nodeAddr : String) (cfg : world.Config) : DecidablePred (SlugsStay i nodeAddr cfg)
  | .spawn _ | .env _ => isTrue trivial
  | .step _ _ => inferInstanceAs (Decidable (∀ _, _))

/-- While slugs stay, a pass aborts only what it has read to be condemned. -/
theorem outline_sound (i : ℕ) (nodeAddr : String) :
    (outline i nodeAddr).Sound (fun _ _ => True) (SlugsStay i nodeAddr) where
  spawn cfg task notes _ hinv := by
    by_cases hpass : cfg.threads.length = i ∧ task = .abortReaperTick nodeAddr
    · obtain ⟨rfl, rfl⟩ := hpass
      refine ⟨.pass [], ?_, ?_⟩
      · apply Outline.Wp.bind
        apply wp_abortReaperTick.mono
        rintro g log' _ ⟨rows, rfl, hlog⟩
        exact ⟨⟨rfl, hlog, fun slug hpending => by simp at hpending⟩, trivial⟩
      · rintro rows (heq | hmem)
        · cases heq
          exact ⟨by simp, by simp⟩
        · exact hinv rows hmem
    · refine ⟨.other, ?_, ?_⟩
      · apply (Outline.Wp.of_stable (K := fun _ => True) (fun _ _ _ _ => hpass)
          (fun _ _ _ _ _ => trivial) ?_ trivial (Prog.all_true _)).mono
        · rintro g log' _ ⟨rfl, -⟩
          exact ⟨hpass, trivial⟩
        · intro s rest c choice r s' _ hinv hperm hexec rows hmem
          rcases hmem with heq | hmem
          · cases heq
          · exact (hinv rows (.inr hmem)).exec (hperm rows hmem) hexec
      · rintro rows (heq | hmem)
        · cases heq
        · exact hinv rows hmem
  env cfg m s' notes _ hinv hmove rows hmem := by
    obtain ⟨d, -, rfl⟩ := map_eq_some_iff.mp hmove
    exact ⟨(hinv rows hmem).registered, (hinv rows hmem).routed⟩
  permits cfg j choice th c next g rest hguard hth hprog hsees hrest := by
    obtain ⟨hlisting, hkeeps⟩ := hguard th hth c (by simp [World.Thread.pending, hprog])
    cases g with
    | other =>
      intro rows hmem
      obtain ⟨k, th', hth', ⟨rfl, rfl, -⟩, hne⟩ := hrest _ hmem
      exact hkeeps (Ne.symm hne) th' hth'
    | pass rows =>
      intro hlist
      refine ⟨hlisting hsees.1 hlist, fun route hroute row hrow hnode => ?_⟩
      obtain ⟨hrow', -⟩ := mem_listOwned_iff.mp hroute
      rw [hrow] at hrow'
      cases hrow'
      exact ⟨rfl, rfl⟩

/-- At some moment while task `i` runs, the network or the tenant is condemned. -/
def CondemnedDuring (s : Region) (acts : List world.Action) (i : ℕ) (networkId tenantId : String) :
    Prop :=
  ∃ n cfg, world.system.run (.start s) (acts.take n) = some cfg ∧ i < cfg.threads.length ∧
    Condemned cfg.state.directory networkId tenantId

/-- What a pass has read, was so when the pass read it. -/
theorem condemnedDuring_of_condemns {s : Region} {acts : List world.Action} {cfg : world.Config}
    (hrun : world.system.run (.start s) acts = some cfg) {th : world.Thread} {route : TunnelRoute}
    (hth : cfg.threads[i]? = some th) (hcondemns : Condemns th.log route) :
    CondemnedDuring s acts i route.networkId route.tenantId := by
  obtain ⟨network, tenant, hnetwork, htenant, habort⟩ := hcondemns
  have hcases : network.all (·.provisioningState = .deprovisioning) = true ∨
      tenant.all (fun t => !t.entitled) = true := by
    cases network with
    | none => exact .inl rfl
    | some n =>
      by_cases hstate : n.provisioningState = .deprovisioning
      · exact .inl (by simp [hstate])
      · cases tenant with
        | none => exact .inr rfl
        | some t => exact .inr (by simpa [shouldAbort, hstate] using habort)
  rcases hcases with hcondemned | hcondemned
  · obtain ⟨before, a, after, cfg₁, cfg₂, th₁, rfl, hbefore, -, ⟨choice, _, hth₁, -, hexec, -⟩,
      -⟩ := World.exists_performs_of_mem_log hrun hth hnetwork
    refine ⟨before.length, cfg₁, by rwa [List.take_left], (List.getElem?_eq_some_iff.mp hth₁).1,
      .inl ?_⟩
    rwa [← network_of_exec hexec]
  · obtain ⟨before, a, after, cfg₁, cfg₂, th₁, rfl, hbefore, -, ⟨choice, _, hth₁, -, hexec, -⟩,
      -⟩ := World.exists_performs_of_mem_log hrun hth htenant
    refine ⟨before.length, cfg₁, by rwa [List.take_left], (List.getElem?_eq_some_iff.mp hth₁).1,
      .inr ?_⟩
    rwa [← tenant_of_exec hexec]

/-! ## What a pass destroys -/

def Call.OfPass (nodeAddr : String) : Call → Prop
  | .abort node _ | .delete _ node => node = nodeAddr
  | .upsert .. | .register .. | .unregister .. | .reapExpired _ => False
  | _ => True

theorem all_reapRows (nodeAddr : String) (rows : List TunnelRoute) :
    (reapRows nodeAddr rows).All (Call.OfPass nodeAddr) := by
  induction rows with
  | nil => trivial
  | cons row rows ih =>
    refine Prog.All.bind ⟨trivial, fun network => ?_⟩ fun _ => ih
    cases network with
    | error => trivial
    | ok network =>
      refine ⟨trivial, fun tenant => ?_⟩
      cases tenant with
      | error => trivial
      | ok tenant =>
        change Prog.All _ (if shouldAbort network tenant then _ else _)
        split
        · exact ⟨rfl, fun _ => ⟨rfl, fun _ => trivial⟩⟩
        · exact ⟨trivial, fun _ => ⟨trivial, fun _ => trivial⟩⟩

theorem all_abortReaperTick (nodeAddr : String) :
    (abortReaperTick nodeAddr).All (Call.OfPass nodeAddr) := by
  refine ⟨trivial, fun rows => ?_⟩
  cases rows with
  | error => trivial
  | ok rows => exact all_reapRows nodeAddr rows

theorem ofPass_of_performs {s : Region} {acts : List world.Action} {cfg cfg' : world.Config}
    {i : ℕ} {th : world.Thread} {event : world.Event} {nodeAddr : String}
    (hrun : world.system.run (.start s) acts = some cfg) (hperforms : cfg.Performs i th event cfg')
    (htask : th.task = .abortReaperTick nodeAddr) : Call.OfPass nodeAddr event.call := by
  have hissues : cfg.Issues fun task c =>
      task = Task.abortReaperTick nodeAddr → Call.OfPass nodeAddr c := by
    refine World.Config.issues_of_run (fun task => ?_) hrun
    by_cases hpass : task = .abortReaperTick nodeAddr
    · subst hpass
      refine Prog.All.mono (fun _ h _ => h) (Prog.All.bind (all_abortReaperTick nodeAddr) ?_)
      exact fun _ => trivial
    · exact (Prog.all_true _).mono fun _ _ h => absurd h hpass
  obtain ⟨_, _, hth, hprog, -⟩ := hperforms
  have hall := hissues th (mem_of_getElem? hth)
  rw [hprog] at hall
  exact hall.1 htask

section

variable {choice : Choice} {c : Call} {s s' : Region} {r : c.Resp} {nodeAddr slug : String}

/-- A call of a pass cancels the token of the tunnel that it aborts, and no other one. -/
theorem aborts_of_cancelled (hpass : Call.OfPass nodeAddr c)
    (hexec : world.exec choice c s = some (r, s')) {node : String} {token : ℕ}
    (hbefore : (s.registry node).isCancelled token = false)
    (hafter : (s'.registry node).isCancelled token = true) :
    ∃ slug e, c = .abort nodeAddr slug ∧ node = nodeAddr ∧ Registered s nodeAddr slug e ∧
      e.token = token := by
  have hsame : s'.registry = s.registry → False := by
    intro h
    rw [h, hbefore] at hafter
    cases hafter
  cases c with
  | abort node' slug =>
    cases hexec
    obtain rfl : node' = nodeAddr := hpass
    by_cases hnode : node = node'
    · subst hnode
      simp only [setRegistry, Function.update_self, TunnelRegistry.abort,
        TunnelRegistry.isCancelled, decide_eq_true_eq, mem_append, mem_toList] at hafter
      rcases hafter with hnew | hold
      · obtain ⟨e, he, rfl⟩ := map_eq_some_iff.mp hnew
        exact ⟨slug, e, rfl, rfl, he, rfl⟩
      · exact absurd hold (of_decide_eq_false hbefore)
    · simp [setRegistry, Function.update_of_ne hnode, hbefore] at hafter
  | upsert | register | unregister | reapExpired => exact hpass.elim
  | utcNow | getNetwork | getTenant | listOwned | serve | isCancelled =>
    cases hexec
    exact (hsame rfl).elim
  | delete | touch =>
    simp only [exec] at hexec
    split at hexec <;> cases hexec <;> exact (hsame rfl).elim

/-- A call of a pass removes the row that it deletes, and no other one. -/
theorem deletes_of_gone (hpass : Call.OfPass nodeAddr c)
    (hexec : world.exec choice c s = some (r, s')) {row : RouteRow}
    (hbefore : s.routes.get? slug = some row) (hafter : s'.routes.get? slug = none) :
    c = .delete slug nodeAddr ∧ row.nodeAddr = nodeAddr := by
  have hsame : s'.routes = s.routes → False := by
    intro h
    rw [h, hbefore] at hafter
    cases hafter
  cases c with
  | delete slug' node =>
    obtain rfl : node = nodeAddr := hpass
    simp only [exec] at hexec
    split at hexec <;> cases hexec
    · exact (hsame rfl).elim
    · simp only [delete, Store.get?_deleteWhere, hbefore] at hafter
      by_cases hhit : slug = slug' ∧ row.nodeAddr = node
      · exact ⟨by rw [hhit.1], hhit.2⟩
      · simp [hhit] at hafter
  | touch slug' node now =>
    simp only [exec] at hexec
    split at hexec <;> cases hexec
    · exact (hsame rfl).elim
    · simp [touch, Store.get?_updateWhere, hbefore] at hafter
  | upsert | register | unregister | reapExpired => exact hpass.elim
  | utcNow | getNetwork | getTenant | listOwned | serve | isCancelled | abort =>
    cases hexec
    exact (hsame rfl).elim

end

/-- As long as no slug that a pass lists changes hands on its node, the pass aborts
only tunnels, and deletes only rows, of networks that are condemned while it runs. So
every token that it cancels and every row that it removes is one of such a network. -/
theorem pass_hits_condemned (i : ℕ) (nodeAddr : String) (s : Region) (acts : List world.Action)
    (hstay : world.system.Along (SlugsStay i nodeAddr) (.start s) acts) (cfg cfg' : world.Config)
    (hrun : world.system.run (.start s) acts = some cfg) (th : world.Thread) (event : world.Event)
    (hperforms : cfg.Performs i th event cfg') (htask : th.task = .abortReaperTick nodeAddr) :
    (∀ slug e, event.call = .abort nodeAddr slug → Registered cfg.state nodeAddr slug e →
        CondemnedDuring s acts i e.networkId e.tenantId) ∧
      (∀ slug row, event.call = .delete slug nodeAddr → cfg.state.routes.get? slug = some row →
        row.nodeAddr = nodeAddr → CondemnedDuring s acts i row.networkId row.tenantId) ∧
      (∀ node token, (cfg.state.registry node).isCancelled token = false →
        (cfg'.state.registry node).isCancelled token = true → ∃ slug e,
          Registered cfg.state node slug e ∧ e.token = token ∧
          CondemnedDuring s acts i e.networkId e.tenantId) ∧
      ∀ slug row, cfg.state.routes.get? slug = some row → cfg'.state.routes.get? slug = none →
        CondemnedDuring s acts i row.networkId row.tenantId := by
  have hinit : (outline i nodeAddr).Inv s ∅ := fun rows hmem => hmem.elim
  obtain ⟨note, hfollows, hinv⟩ := (outline_sound i nodeAddr).run (Outline.annotates_start hinit)
    hstay hrun
  obtain ⟨_, _, hth, hprog, hexec, -⟩ := id hperforms
  have hpass := ofPass_of_performs hrun hperforms htask
  have hsees := (hfollows i th hth).sees
  have hpending : th.pending = some event.call := by simp [World.Thread.pending, hprog]
  have hi : i < cfg.threads.length := (List.getElem?_eq_some_iff.mp hth).1
  cases hnote : note i with
  | other =>
    rw [hnote] at hsees
    exact absurd ⟨rfl, htask⟩ hsees
  | pass rows =>
    rw [hnote] at hsees
    have hheld := hinv rows ⟨i, hi, hnote⟩
    have haborts : ∀ slug e, event.call = .abort nodeAddr slug →
        Registered cfg.state nodeAddr slug e → CondemnedDuring s acts i e.networkId e.tenantId := by
      intro slug e hcall he
      obtain ⟨route, hroute, rfl, hcondemns⟩ :=
        hsees.2.2 slug (.inl (by rw [hpending, hcall]))
      obtain ⟨hnetwork, htenant⟩ := hheld.registered route hroute e he
      rw [hnetwork, htenant]
      exact condemnedDuring_of_condemns hrun hth hcondemns
    have hdeletes : ∀ slug row, event.call = .delete slug nodeAddr →
        cfg.state.routes.get? slug = some row → row.nodeAddr = nodeAddr →
        CondemnedDuring s acts i row.networkId row.tenantId := by
      intro slug row hcall hrow hnode
      obtain ⟨route, hroute, rfl, hcondemns⟩ :=
        hsees.2.2 slug (.inr (by rw [hpending, hcall]))
      obtain ⟨hnetwork, htenant⟩ := hheld.routed route hroute row hrow hnode
      rw [hnetwork, htenant]
      exact condemnedDuring_of_condemns hrun hth hcondemns
    refine ⟨haborts, hdeletes, fun node token hbefore hafter => ?_,
      fun slug row hbefore hafter => ?_⟩
    · obtain ⟨slug, e, hcall, rfl, he, htoken⟩ := aborts_of_cancelled hpass hexec hbefore hafter
      exact ⟨slug, e, he, htoken, haborts slug e hcall he⟩
    · obtain ⟨hcall, hnode⟩ := deletes_of_gone hpass hexec hbefore hafter
      exact hdeletes slug row hcall hbefore hnode

/-! ## A pass in time, and one that is overtaken -/

def sampleTenants : Region :=
  { sampleRegion with
    directory := { sampleRegion.directory with
      tenants := sampleRegion.directory.tenants.insert "tenant-2"
        (some ⟨.active, .default, none, some 2000⟩) } }

/-- The network is slated for teardown, and a pass reads it. -/
def sampleSlated : List world.Action :=
  connect 0 "node-a" ++ [.env (.setDeprovisioning "net-1"), .spawn (.abortReaperTick "node-a")] ++
    steps 1 3

/-- The slug goes to another tenant, whose daemon connects after the listing. -/
def sampleHandover : List world.Action :=
  connect 0 "node-a" ++
    [.env (.setDeprovisioning "net-1"), .env (.finishDeprovision "net-1"),
      .env (.registerNetwork "net-2" ⟨"tenant-2", "home", "home", "eu", .provisioning⟩),
      .spawn (.abortReaperTick "node-a")] ++
    steps 1 1 ++ .spawn (.tunnelConnect (.daemon (some "net-2")) "node-a") :: steps 2 5 ++ steps 1 2

theorem pass_hits_condemned_sample :
    CondemnedDuring sampleTenants sampleSlated 1 "net-1" "tenant-1" := by
  obtain ⟨th, r, hperforms, htask⟩ := World.performs_runD (W := world) sampleTenants sampleSlated
    1 ⟨1000, false⟩ (.abortReaperTick "node-a") (.abort "node-a" "home") (by decide) rfl (by decide)
  exact (pass_hits_condemned 1 "node-a" sampleTenants sampleSlated (by decide) _ _
    (System.run_eq_some_runD _ (by decide)) th _ hperforms htask).1 "home" sampleEntry rfl
    (by decide)

theorem not_condemnedDuring {s : Region} {acts : List world.Action} {i : ℕ}
    {networkId tenantId : String}
    (h : ∀ n ≤ acts.length, i < (world.system.runD (.start s) (acts.take n)).threads.length →
      ¬ Condemned (world.system.runD (.start s) (acts.take n)).state.directory networkId tenantId) :
    ¬ CondemnedDuring s acts i networkId tenantId := by
  rintro ⟨n, cfg, hrun, hi, hcondemned⟩
  have htake : acts.take n = acts.take (min n acts.length) := by
    simp
  have hcfg : world.system.runD (.start s) (acts.take (min n acts.length)) = cfg := by
    rw [← htake, System.runD, hrun, getD_some]
  exact h _ (Nat.min_le_right _ _) (by rwa [hcfg]) (by rwa [hcfg])

/-- The pass aborts the tunnel and deletes the row of a network that was active and
subscribed all the time. -/
theorem pass_hits_entitled :
    (∃ (cfg cfg' : world.Config) (th : world.Thread) (event : world.Event) (e : Entry),
      world.system.run (.start sampleTenants) sampleHandover = some cfg ∧
      cfg.Performs 1 th event cfg' ∧ th.task = .abortReaperTick "node-a" ∧
      event.call = .abort "node-a" "home" ∧ Registered cfg.state "node-a" "home" e ∧
      ¬ CondemnedDuring sampleTenants sampleHandover 1 e.networkId e.tenantId) ∧
    ∃ (cfg cfg' : world.Config) (th : world.Thread) (event : world.Event) (row : RouteRow),
      world.system.run (.start sampleTenants) (sampleHandover ++ steps 1 1) = some cfg ∧
      cfg.Performs 1 th event cfg' ∧ th.task = .abortReaperTick "node-a" ∧
      event.call = .delete "home" "node-a" ∧ cfg.state.routes.get? "home" = some row ∧
      row.nodeAddr = "node-a" ∧
      ¬ CondemnedDuring sampleTenants
        (sampleHandover ++ steps 1 1) 1 row.networkId row.tenantId := by
  constructor
  · obtain ⟨th, r, hperforms, htask⟩ := World.performs_runD (W := world) sampleTenants
      sampleHandover 1 ⟨1000, false⟩ (.abortReaperTick "node-a") (.abort "node-a" "home")
      (by decide) rfl (by decide)
    exact ⟨_, _, th, _, ⟨1, 1, "net-2", "tenant-2"⟩, System.run_eq_some_runD _ (by decide),
      hperforms, htask, rfl, by decide, not_condemnedDuring (by decide)⟩
  · obtain ⟨th, r, hperforms, htask⟩ := World.performs_runD (W := world) sampleTenants
      (sampleHandover ++ steps 1 1) 1 ⟨1000, false⟩ (.abortReaperTick "node-a")
      (.delete "home" "node-a") (by decide) rfl (by decide)
    exact ⟨_, _, th, _, ⟨"node-a", "net-2", "tenant-2", 1000⟩,
      System.run_eq_some_runD _ (by decide), hperforms, htask, rfl, by decide, rfl,
      not_condemnedDuring (by decide)⟩

end Wardnet.Tunnel.AbortScope
